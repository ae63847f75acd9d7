import MatchmakingMvp.Session.RejectedCreation

/-! # The session registry and its player index

Any sequence of insertions and erasures of sessions, with any match ids and
tickets, keeps the player index in step with the registered sessions
(`MatchmakingMvp.session_index_exact`). An insertion that fails, at whichever
player, changes nothing, and an erasure removes one session with its players.
-/

namespace MatchmakingMvp

open Foundation

/-- Insert or erase a session, whether or not it succeeds. -/
def MatchSessionManager.change : Registry.Change MatchId MatchSession → Operation Unit
  | .insert session => do
      let _ ← insertMatchSession session
  | .erase matchId => do
      let _ ← eraseMatchSession matchId

theorem MatchSessionManager.run_changes (changes : List (Registry.Change MatchId MatchSession))
    (world : World) :
    ((forAll changes change).run perform world).2.matchSessions =
      changes.foldl (Registry.apply MatchSession.matchId MatchSession.ticketPlayers)
        world.matchSessions := by
  induction changes generalizing world with
  | nil => rfl
  | cons step rest ih =>
      rw [run_forAll_cons, ih, List.foldl_cons]
      cases step <;> rfl

/-- The index names exactly the registered session of each player; sessions, and
the tickets of one session, share no player. -/
structure SessionRegistry.Indexed (registry : SessionRegistry) : Prop where
  keyed : ∀ {matchId session}, registry.items matchId = some session → session.matchId = matchId
  indexed : ∀ playerKey matchId, registry.owner playerKey = some matchId ↔
    ∃ session, registry.items matchId = some session ∧
      ∃ ticket ∈ session.tickets, playerKey ∈ ticket.players
  disjoint : ∀ {first second session rival}, registry.items first = some session →
    registry.items second = some rival → first ≠ second →
    session.ticketPlayers.Disjoint rival.ticketPlayers
  unshared : ∀ {matchId session}, registry.items matchId = some session →
    session.tickets.Pairwise fun ticket other => ticket.players.Disjoint other.players

theorem MatchSession.mem_ticketPlayers {session : MatchSession} {playerKey : PlayerKey} :
    playerKey ∈ session.ticketPlayers ↔ ∃ ticket ∈ session.tickets, playerKey ∈ ticket.players :=
  List.mem_flatMap

theorem SessionRegistry.Indexed.of_exact {registry : SessionRegistry}
    (exact : registry.Exact MatchSession.matchId MatchSession.ticketPlayers) :
    registry.Indexed where
  keyed := exact.keyed
  indexed playerKey matchId := by
    rw [exact.indexed]
    simp only [MatchSession.mem_ticketPlayers]
  disjoint atFirst atSecond different _ inFirst inSecond :=
    different (exact.toConsistent.disjoint atFirst atSecond inFirst inSecond)
  unshared found := (List.nodup_flatMap.mp (exact.nodup found)).2

/-- **The session index is exact.** After any sequence of insertions and erasures
of sessions from the empty registry, the index is in step with the registered
sessions; a further insertion that fails changes nothing; and a further erasure
removes exactly the session with the id and exactly its players' entries. -/
theorem session_index_exact (changes : List (Registry.Change MatchId MatchSession))
    (before : World) :
    let world := ((forAll changes MatchSessionManager.change).run perform
      (before.withMatchSessions Registry.empty)).2
    world.matchSessions.Indexed ∧
      (∀ session, ((MatchSessionManager.insertMatchSession session).run perform world).1 = false →
        ((MatchSessionManager.insertMatchSession session).run perform world).2 = world) ∧
      ∀ matchId,
        let erased := (MatchSessionManager.eraseMatchSession matchId).run perform world
        erased.1 = world.matchSessions.items matchId ∧
          erased.2.matchSessions.items = Function.update world.matchSessions.items matchId none ∧
          ∀ playerKey, erased.2.matchSessions.owner playerKey =
            if world.matchSessions.owner playerKey = some matchId then none
            else world.matchSessions.owner playerKey := by
  intro world
  have exact : world.matchSessions.Exact MatchSession.matchId MatchSession.ticketPlayers := by
    rw [MatchSessionManager.run_changes]
    exact Registry.Exact.empty.foldl changes
  refine ⟨.of_exact exact, fun session failed => ?_, fun matchId => ?_⟩
  · have stale := mt (Registry.insert_fst_iff _ _).mpr (Bool.eq_false_iff.mp failed)
    rw [MatchSessionManager.run_insertMatchSession, SessionRegistry.insertMatchSession,
      Registry.insert_of_not_fresh _ _ stale]
    rfl
  · simp only [MatchSessionManager.run_eraseMatchSession, World.withMatchSessions_matchSessions,
      SessionRegistry.eraseMatchSession]
    exact ⟨Registry.erase_fst .., Registry.erase_items ..,
      exact.toConsistent.erase_owner_iff matchId⟩

end MatchmakingMvp
