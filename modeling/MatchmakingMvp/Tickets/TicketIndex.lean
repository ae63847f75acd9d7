import MatchmakingMvp.System.Runs

/-! # The ticket maps and their player index

Both managers keep their tickets with an index of their players. Any sequence of
insertions and erasures, with any tickets and ids, keeps the two in step
(`MatchmakingMvp.ticket_index_exact`), so a player owns at most one ticket of a
manager and a look-up by player never finds an id without its ticket.
-/

namespace MatchmakingMvp

open Foundation

variable (queue : QueueKind)

/-- Insert or erase a ticket, whether or not it succeeds. -/
def MatchmakingManager.change : Registry.Change MatchTicketId MatchTicket → Operation Unit
  | .insert ticket => do
      let _ ← insertMatchTicket queue ticket
  | .erase matchTicketId => do
      let _ ← eraseMatchTicket queue matchTicketId

theorem MatchmakingManager.run_changes
    (changes : List (Registry.Change MatchTicketId MatchTicket)) (world : World) :
    ((forAll changes (change queue)).run perform world).2.tickets queue =
      changes.foldl (Registry.apply MatchTicket.matchTicketId MatchTicket.players)
        (world.tickets queue) := by
  induction changes generalizing world with
  | nil => rfl
  | cons step rest ih =>
      rw [run_forAll_cons, ih, List.foldl_cons]
      cases step with
      | insert ticket =>
          simp only [change, Program.run_bind, run_insertMatchTicket, Program.run_pure,
            World.withTickets_tickets, Function.update_self]
          rfl
      | erase id =>
          simp only [change, Program.run_bind, run_eraseMatchTicket, Program.run_pure,
            World.withTickets_tickets, Function.update_self]
          rfl

/-- The index names exactly the tickets of each player, and a player owns at most
one. -/
structure TicketRegistry.Indexed (registry : TicketRegistry) : Prop where
  keyed : ∀ {matchTicketId ticket}, registry.items matchTicketId = some ticket →
    ticket.matchTicketId = matchTicketId
  indexed : ∀ playerKey matchTicketId, registry.owner playerKey = some matchTicketId ↔
    ∃ ticket, registry.items matchTicketId = some ticket ∧ playerKey ∈ ticket.players
  single : ∀ {first second ticket other}, registry.items first = some ticket →
    registry.items second = some other → ∀ playerKey ∈ ticket.players,
    playerKey ∈ other.players → first = second

theorem TicketRegistry.Indexed.of_consistent {registry : TicketRegistry}
    (consistent : registry.Consistent MatchTicket.matchTicketId MatchTicket.players) :
    registry.Indexed where
  keyed := consistent.keyed
  indexed _ _ := consistent.indexed
  single atFirst atSecond _ inFirst inSecond :=
    consistent.disjoint atFirst atSecond inFirst inSecond

/-- **The ticket index is exact.** After any sequence of insertions and erasures
of tickets in the empty maps of either manager, the index is in step with the
tickets and a look-up by player finds the player's ticket; a further insertion that
fails changes nothing; and a further erasure removes exactly the ticket with the
id and exactly its players' entries. -/
theorem ticket_index_exact (changes : List (Registry.Change MatchTicketId MatchTicket))
    (before : World) :
    let world := ((forAll changes (MatchmakingManager.change queue)).run perform
      (before.withTickets queue Registry.empty)).2
    (world.tickets queue).Indexed ∧
      (∀ playerKey ticket,
        ((MatchmakingManager.findMatchTicketByPlayerKey queue playerKey).run perform world).1 =
            some ticket ↔
          (world.tickets queue).items ticket.matchTicketId = some ticket ∧
            playerKey ∈ ticket.players) ∧
      (∀ playerKey,
        ((MatchmakingManager.findMatchTicketByPlayerKey queue playerKey).run perform world).1 =
            none ↔ (world.tickets queue).owner playerKey = none) ∧
      (∀ ticket, ((MatchmakingManager.insertMatchTicket queue ticket).run perform world).1 =
          false →
        ((MatchmakingManager.insertMatchTicket queue ticket).run perform world).2 = world) ∧
      ∀ matchTicketId,
        let erased := (MatchmakingManager.eraseMatchTicket queue matchTicketId).run perform world
        erased.1 = (world.tickets queue).items matchTicketId ∧
          (erased.2.tickets queue).items =
            Function.update (world.tickets queue).items matchTicketId none ∧
          ∀ playerKey, (erased.2.tickets queue).owner playerKey =
            if (world.tickets queue).owner playerKey = some matchTicketId then none
            else (world.tickets queue).owner playerKey := by
  intro world
  have exact : (world.tickets queue).Exact MatchTicket.matchTicketId MatchTicket.players := by
    rw [MatchmakingManager.run_changes, World.withTickets_tickets, Function.update_self]
    exact Registry.Exact.empty.foldl changes
  have consistent := exact.toConsistent
  refine ⟨.of_consistent consistent, fun playerKey ticket => ?_, fun playerKey => ?_,
    fun ticket failed => ?_, fun matchTicketId => ?_⟩
  · rw [MatchmakingManager.run_findMatchTicketByPlayerKey, consistent.bind_items]
    refine and_congr_left fun _ => ⟨?_, fun stored => ⟨_, stored⟩⟩
    rintro ⟨id, stored⟩
    rwa [consistent.keyed stored]
  · rw [MatchmakingManager.run_findMatchTicketByPlayerKey]
    cases owned : (world.tickets queue).owner playerKey with
    | none => simp
    | some id =>
        obtain ⟨ticket, stored, -⟩ := consistent.indexed.mp owned
        simp [stored]
  · have stale := mt (Registry.insert_fst_iff _ _).mpr (Bool.eq_false_iff.mp failed)
    rw [MatchmakingManager.run_insertMatchTicket, TicketRegistry.insertMatchTicket,
      Registry.insert_of_not_fresh _ _ stale]
    simp [World.withTickets]
  · simp only [MatchmakingManager.run_eraseMatchTicket, World.withTickets_tickets,
      TicketRegistry.eraseMatchTicket, Function.update_self]
    exact ⟨Registry.erase_fst .., Registry.erase_items .., consistent.erase_owner_iff matchTicketId⟩

end MatchmakingMvp
