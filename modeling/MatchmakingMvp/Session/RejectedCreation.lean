import MatchmakingMvp.Session.Creation

/-! # Rejected session creation

A session that cannot be inserted is rejected: its tickets fail, and the creation
erases whatever session is registered under the match id. The insertion has
undone itself by then, so the erasure is harmless exactly when no session was
registered under that id before
(`MatchmakingMvp.rejected_creation_isolated_iff`).
-/

namespace MatchmakingMvp

open Foundation

/-- Sessions are registered under their own ids, and the index names the
registered session of each player. -/
abbrev SessionRegistry.Consistent (registry : SessionRegistry) : Prop :=
  Registry.Consistent MatchSession.matchId MatchSession.ticketPlayers registry

theorem matchSessions_consistent_perform (step : Section) (world : World)
    (consistent : world.matchSessions.Consistent) :
    (perform step world).matchSessions.Consistent := by
  cases step with
  | insertMatchSession session => exact Registry.Consistent.insert consistent session
  | eraseMatchSession matchId => exact Registry.Consistent.erase consistent matchId
  | nextIntegrationWorldNo worldGroupNo =>
      simp only [perform]
      split_ifs <;> exact consistent
  | _ => exact consistent

/-- Every reachable session registry is consistent. -/
theorem Interleaved.matchSessions_consistent {deployment : Deployment} {admissible : Call → Prop}
    {allowed : Section → World → Prop} {trace : List (Executed Section World)}
    {pool : Pool Section World}
    (execution : Interleaved deployment admissible allowed trace pool) :
    pool.state.matchSessions.Consistent := by
  exact Execution.invariant (fun world => world.matchSessions.Consistent)
    (Registry.Consistent.empty _ _)
    (fun step world _ => matchSessions_consistent_perform step world) execution

/-- What a rejected creation must leave: every registered session with its
status and its players' index entries, and the rejected tickets failed. -/
structure RejectionIsolated (before after : World) (tickets : TicketSet) : Prop where
  registered : ∀ {matchId session}, before.matchSessions.items matchId = some session →
    after.matchSessions.items matchId = some session ∧
      (after.sessionState session).status = (before.sessionState session).status
  indexed : ∀ {playerKey matchId}, before.matchSessions.owner playerKey = some matchId →
    after.matchSessions.owner playerKey = some matchId
  failed : ∀ ticket ∈ tickets.1, after.ticketStatus ticket = .failed

section Notices

variable {tickets : List MatchTicket} {world : World}

/-- Failure notices leave the sessions alone. -/
theorem notifyAll_keeps_sessions :
    ((forAll tickets MatchSessionManager.notifyMatchmakingFailure).run perform
        world).2.matchSessions = world.matchSessions ∧
      ((forAll tickets MatchSessionManager.notifyMatchmakingFailure).run perform
        world).2.sessionState = world.sessionState := by
  have everywhere : (forAll tickets MatchSessionManager.notifyMatchmakingFailure).Everywhere
      fun step => (∃ ticket status, step = .changeTicketStatus ticket status) ∨
        ∃ queue id, step = .eraseMatchTicket queue id :=
    everywhere_forAll fun ticket _ => MatchSessionManager.everywhere_notify
      (Or.inl ⟨ticket, _, rfl⟩) (fun queue id => Or.inr ⟨queue, id, rfl⟩)
  have kept : ∀ (step : Section) (current : World),
      ((∃ ticket status, step = .changeTicketStatus ticket status) ∨
        ∃ queue id, step = .eraseMatchTicket queue id) →
      (current.matchSessions = world.matchSessions ∧ current.sessionState = world.sessionState) →
      (perform step current).matchSessions = world.matchSessions ∧
        (perform step current).sessionState = world.sessionState := by
    rintro step current (⟨ticket, status, rfl⟩ | ⟨queue, id, rfl⟩) kept
    · exact kept
    · exact kept
  exact everywhere.run_invariant perform kept ⟨rfl, rfl⟩

end Notices

/-- **When a rejected creation spares the other sessions.** Take tickets in
search of a worker group in any reachable state. Creation that cannot insert the
new session leaves every other session as it was and fails the tickets, exactly
if no session was registered under the new match id. -/
theorem rejected_creation_isolated_iff {deployment : Deployment} {admissible : Call → Prop}
    {allowed : Section → World → Prop} {trace : List (Executed Section World)}
    {pool : Pool Section World}
    (reached : Interleaved deployment admissible allowed trace pool)
    {queue : QueueKind} {key : MatchmakingGroupKey} {group : WorkerGroup}
    (found : deployment.getWorkerGroup queue key = some group) {tickets : TicketSet}
    {ticket : MatchTicket} (first : tickets.1.head? = some ticket)
    (searching : ∀ ticket ∈ tickets.1, pool.state.ticketStatus ticket = .searching) :
    ((pool.state.matchSessions.insertMatchSession
        (pool.state.createdSession group.workerGroupKey ticket tickets)).1 = false →
      RejectionIsolated pool.state
        ((MatchSessionManager.createMatchSession group.workerGroupKey tickets).run perform
          pool.state).2 tickets) ↔
    pool.state.matchSessions.items ticket.matchTicketId = none := by
  have consistent := reached.matchSessions_consistent
  generalize pool.state = world at consistent searching ⊢
  constructor
  · intro isolated
    by_contra taken
    obtain ⟨incumbent, present⟩ := Option.ne_none_iff_exists'.mp taken
    have rejected : (world.matchSessions.insertMatchSession
        (world.createdSession group.workerGroupKey ticket tickets)).1 = false := by
      rw [SessionRegistry.insertMatchSession, Registry.insert_of_not_fresh]
      intro fresh
      have absent := fresh.id
      rw [World.createdSession_matchId, present] at absent
      cases absent
    have kept := ((isolated rejected).registered present).1
    rw [MatchSessionManager.run_createMatchSession_of_rejected
      (Deployment.integrated_of_getWorkerGroup found) first rejected,
      notifyAll_keeps_sessions.1, World.withMatchSessions_matchSessions,
      SessionRegistry.eraseMatchSession, Registry.erase_items, Function.update_self] at kept
    cases kept
  · intro absent rejected
    rw [MatchSessionManager.run_createMatchSession_of_rejected
      (Deployment.integrated_of_getWorkerGroup found) first rejected]
    have unchanged : (world.matchSessions.eraseMatchSession ticket.matchTicketId).2 =
        world.matchSessions := by
      rw [SessionRegistry.eraseMatchSession, Registry.erase_of_absent _ _ absent]
    rw [unchanged]
    refine ⟨fun {matchId session} present => ?_, fun {playerKey matchId} owned => ?_,
      fun failing member => ?_⟩
    · rw [notifyAll_keeps_sessions.1, notifyAll_keeps_sessions.2]
      refine ⟨present, ?_⟩
      have other : session ≠ world.createdSession group.workerGroupKey ticket tickets := by
        rintro rfl
        rw [← consistent.keyed present, World.createdSession_matchId, absent] at present
        cases present
      rw [World.withMatchSessions_sessionState, World.opened_sessionState,
        Function.update_of_ne other]
    · rw [notifyAll_keeps_sessions.1]
      exact owned
    · rw [MatchSessionManager.notifyAll_fails tickets.2]
      · exact moveAll_of_mem member
      · exact searching

/-! ## An incumbent under a chosen id -/

section Incumbent

/-- A request for ticket id 5. -/
def chosenIdRequest (playerKey : PlayerKey) : MatchTicketRequest :=
  { soleRequest playerKey with matchTicketId := 5 }

/-- Player 1 is matched under id 5. Then player 2 queues under id 5 and a worker
commits the ticket. -/
def chosenIdRun : List (Executed Section World) × Pool Section World :=
  playCalls soleMatchDeployment
    [.partyStartMatchmaking (chosenIdRequest 1), solePartyWorkerRun,
      .partyStartMatchmaking (chosenIdRequest 2), solePartyWorkerRun]
    (List.replicate 20 0 ++ List.replicate 20 1 ++ List.replicate 20 2 ++ [3, 3])

def secondTicket : MatchTicket := ⟨1, chosenIdRequest 2, 0⟩

def secondTickets : TicketSet := .single secondTicket

theorem chosenIdRun_interleaved :
    Interleaved soleMatchDeployment (fun _ => True) (fun _ _ => True)
      chosenIdRun.1 chosenIdRun.2 :=
  Interleaved.play _ (fun _ _ => trivial) _

theorem rejected_creation_isolated_iff_chosenId :
    ((chosenIdRun.2.state.matchSessions.insertMatchSession
        (chosenIdRun.2.state.createdSession (0, "Dungeon") secondTicket secondTickets)).1 = false →
      RejectionIsolated chosenIdRun.2.state
        ((MatchSessionManager.createMatchSession (0, "Dungeon") secondTickets).run perform
          chosenIdRun.2.state).2 secondTickets) ↔
    chosenIdRun.2.state.matchSessions.items 5 = none :=
  have served : soleMatchDeployment.getWorkerGroup .party (0, "Dungeon") = some soleMatchGroup := by
    decide
  rejected_creation_isolated_iff chosenIdRun_interleaved served rfl (by decide +kernel)

/-- The second creation fails and deregisters the session of player 1. -/
theorem rejected_creation_erases_incumbent :
    (∀ ticket ∈ secondTickets.1, chosenIdRun.2.state.ticketStatus ticket = .searching) ∧
      (chosenIdRun.2.state.matchSessions.insertMatchSession
        (chosenIdRun.2.state.createdSession (0, "Dungeon") secondTicket secondTickets)).1 =
          false ∧
      ¬ RejectionIsolated chosenIdRun.2.state
        ((MatchSessionManager.createMatchSession (0, "Dungeon") secondTickets).run perform
          chosenIdRun.2.state).2 secondTickets := by
  refine ⟨by decide +kernel, by decide +kernel, fun isolated => ?_⟩
  have present : (chosenIdRun.2.state.matchSessions.items 5).isSome = true := by decide +kernel
  obtain ⟨incumbent, found⟩ := Option.isSome_iff_exists.mp present
  have kept := (isolated.registered found).1
  have erased : (((MatchSessionManager.createMatchSession (0, "Dungeon") secondTickets).run
      perform chosenIdRun.2.state).2.matchSessions.items 5).isSome = false := by decide +kernel
  rw [kept] at erased
  cases erased

end Incumbent

end MatchmakingMvp
