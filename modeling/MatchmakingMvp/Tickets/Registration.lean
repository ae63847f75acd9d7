import MatchmakingMvp.System.Seats

/-! # Queued tickets stay registered

With server-issued ids, no complete call removes a ticket from its manager's map while
the ticket is queued (`MatchmakingMvp.Call.keepsQueued`).
-/

namespace MatchmakingMvp

open Foundation

/-- The ticket is in its manager's map if it is queued. -/
def World.Registers (world : World) (queue : QueueKind) (ticket : MatchTicket) : Prop :=
  world.ticketStatus ticket = .queued →
    (world.tickets queue).items ticket.matchTicketId = some ticket

/-- A thread that has run since the start submits a ticket made since then, and the
queued tickets made before are registered. -/
structure World.KeepsQueued (start world : World) (stage : Stage) : Prop where
  precedes : start.Precedes world
  own : ∀ {queue ticket}, stage.submits = some (queue, ticket) →
    world.Made queue ticket ∧ ¬ start.Made queue ticket
  kept : ∀ {queue ticket}, start.Made queue ticket → world.Registers queue ticket

variable {deployment : Deployment} {permits : MatchTicketRequest → Prop} {step : Section}
  {start world : World} {stage stage' : Stage}

/-- Erasing another id leaves an entry in the map. -/
theorem World.items_eraseMatchTicket_of_ne {queue other : QueueKind} {id erased : MatchTicketId}
    (different : id ≠ erased) :
    ((perform (.eraseMatchTicket other erased) world).tickets queue).items id =
      (world.tickets queue).items id := by
  by_cases same : queue = other
  · subst same
    simp only [perform, World.withTickets_tickets, Function.update_self,
      TicketRegistry.eraseMatchTicket, Registry.erase_items, Function.update_of_ne different]
  · simp [perform, same]

theorem Issues.keepsQueued (issues : Issues deployment permits step world stage stage')
    (sound : world.Sound deployment permits) (serverIssues : ServerIssues permits)
    (prompt : world.Prompt stage) (keeps : start.KeepsQueued world stage) :
    start.KeepsQueued (perform step world) stage' := by
  have registered : ∀ {queue ticket}, start.Made queue ticket →
      (perform step world).ticketStatus ticket = .queued →
      (world.tickets queue).items ticket.matchTicketId = some ticket ∧
        world.ticketStatus ticket = .queued := by
    intro queue ticket made queued
    have advances := (precedes_perform step world).advances ticket
    rw [queued] at advances
    rcases advances.queued_of with unqueued | before
    · have submits := prompt queue ticket (keeps.precedes.made made) unqueued
      exact ((keeps.own submits).2 made).elim
    · exact ⟨keeps.kept made before, before⟩
  refine ⟨keeps.precedes.trans (precedes_perform step world), fun {queue ticket} submits => ?_,
    fun {queue ticket} made queued => ?_⟩
  · rcases issues.submits_cases with ⟨owner, request, rfl, -, fresh⟩ | ⟨same, rest⟩
    · rw [fresh] at submits
      cases submits
      exact ⟨List.mem_cons_self, fun made => sound.newMatchTicket_not_made queue _ request
        (keeps.precedes.made made)⟩
    · rcases rest with kept | ⟨none, -⟩
      · rw [kept] at submits
        exact ⟨perform_made (keeps.own submits).1, (keeps.own submits).2⟩
      · rw [none] at submits
        cases submits
  · obtain ⟨stored, before⟩ := registered made queued
    have still := keeps.precedes.made made
    cases issues with
    | neutral neutral =>
        rw [(sameMatchmaking_of_neutral neutral world).tickets]
        exact stored
    | @register _ owner other =>
        by_cases same : queue = owner
        · subst same
          simp only [perform, World.withTickets_tickets, Function.update_self]
          exact Registry.stored_insert _ _ stored
        · simpa [perform, same] using stored
    | @unregister _ owner other =>
        rw [World.items_eraseMatchTicket_of_ne]
        · exact stored
        · intro same
          have own := keeps.own rfl
          obtain ⟨rfl, rfl⟩ := sound.eq_of_matchTicketId serverIssues still own.1 same
          exact own.2 made
    | forget forgotten departed =>
        rw [World.items_eraseMatchTicket_of_ne]
        · exact stored
        · intro same
          rw [← (sound.eq_of_matchTicketId serverIssues still forgotten same).2, before] at departed
          cases departed
    | _ => exact stored

/-- **No complete call unregisters a queued ticket.** -/
theorem Call.keepsQueued {call : Call} (issued : call.ServerIssued)
    (sound : world.Sound deployment fun request => request.matchTicketId = -1)
    (settled : world.Settled deployment (.free none)) {queue : QueueKind} {ticket : MatchTicket}
    (made : world.Made queue ticket) (registers : ∀ {queue ticket}, world.Made queue ticket →
      world.Registers queue ticket) :
    (call.complete deployment world).Registers queue ticket := by
  have adheres : Adheres deployment (fun request => request.matchTicketId = -1) world
      (.free none) (call.program deployment) _ := adheres_program issued
  obtain ⟨-, stage, ⟨-, keeps⟩, -⟩ := Program.Follows.run
    (fun _ _ _ _ sound issues => issues.sound sound) World.Precedes.refl
    (fun step current stage stage' sound issues
        (both : current.Settled deployment stage ∧ world.KeepsQueued current stage) =>
      ⟨both.1.perform issues sound fun _ issued => issued,
        issues.keepsQueued sound (fun _ issued => issued) both.1.prompt both.2⟩)
    adheres sound ⟨settled, ⟨.refl world, nofun, registers⟩⟩
  exact keeps.kept made

end MatchmakingMvp
