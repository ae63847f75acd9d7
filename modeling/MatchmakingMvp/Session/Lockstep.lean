import MatchmakingMvp.Session.Lifecycle

/-! # Sessions change as one

A session changes together with its tickets or not at all, so every registered
session has the live status of its tickets, and a failure always ends it
(`MatchmakingMvp.session_changes_as_one`).
-/

namespace MatchmakingMvp

open Foundation

/-- The session and every ticket took the status, or nothing changed. -/
def MatchSession.ChangesAsOne (session : MatchSession) (status : MatchTicketStatus)
    (state : MatchSessionState) (statuses : TicketStatuses)
    (changed : Bool × MatchSessionState × TicketStatuses) : Prop :=
  (changed.1 = true ∧ changed.2.1 = { state with status := status } ∧
    (∀ pointer ∈ session.matchTicketList, ∃ ticket, pointer = some ticket ∧
      changed.2.2 ticket = status) ∧
    ∀ ticket, some ticket ∉ session.matchTicketList → changed.2.2 ticket = statuses ticket) ∨
  changed = (false, state, statuses)

theorem MatchSession.changeStatus_asOne (session : MatchSession) (status : MatchTicketStatus)
    (state : MatchSessionState) (statuses : TicketStatuses) :
    session.ChangesAsOne status state statuses
      (session.changeStatus status state statuses) := by
  by_cases changeable : session.Changeable status state statuses
  · rw [changeStatus_of_changeable changeable]
    refine Or.inl ⟨rfl, rfl, fun pointer inside => ?_, fun ticket outside => ?_⟩
    · obtain ⟨ticket, rfl, -⟩ := changeable.2 pointer inside
      exact ⟨ticket, rfl, moveAll_of_mem (mem_tickets.mpr inside)⟩
    · exact moveAll_of_not_mem (mt mem_tickets.mp outside)
  · exact Or.inr (changeStatus_of_not_changeable changeable)

/-- The session and all of its tickets have the status. -/
structure World.Shares (world : World) (session : MatchSession) (status : MatchTicketStatus) :
    Prop where
  own : (world.sessionState session).status = status
  each : ∀ pointer ∈ session.matchTicketList, ∃ ticket, pointer = some ticket ∧
    world.ticketStatus ticket = status

theorem World.InStep.shares {world : World} (inStep : world.InStep) {id : MatchId}
    {session : MatchSession} (found : world.matchSessions.items id = some session) :
    world.Shares session (world.sessionState session).status := by
  refine ⟨rfl, fun pointer inside => ?_⟩
  rw [(inStep.whole id session found).pointers] at inside
  obtain ⟨ticket, member, rfl⟩ := List.mem_map.mp inside
  exact ⟨ticket, rfl, inStep.agrees id session found ticket member⟩

/-- The session ended with its tickets in a status and is not registered any more. -/
structure World.Ended (world : World) (session : MatchSession) (status : MatchTicketStatus) :
    Prop extends world.Shares session status where
  deregistered : world.matchSessions.items session.matchId = none
  released : ∀ playerKey, world.matchSessions.owner playerKey ≠ some session.matchId

theorem World.InStep.ended_ended {world : World} (inStep : world.InStep)
    {session : MatchSession} (found : world.matchSessions.items session.matchId = some session)
    (status : MatchTicketStatus) : (world.ended session status).Ended session status := by
  refine ⟨⟨by simp, fun pointer inside => ?_⟩, ?_, fun playerKey => ?_⟩
  · rw [(inStep.whole _ session found).pointers] at inside
    obtain ⟨ticket, member, rfl⟩ := List.mem_map.mp inside
    exact ⟨ticket, rfl, moveAll_of_mem member⟩
  · rw [World.ended_matchSessions, SessionRegistry.eraseMatchSession, Registry.erase_items,
      Function.update_self]
  · rw [World.ended_matchSessions, SessionRegistry.eraseMatchSession,
      inStep.consistent.erase_owner_iff]
    split_ifs with own
    · simp
    · exact own

/-- **Sessions change as one.** A change of a session sets it and every ticket of
it, or changes nothing. In every state between session operations each registered
session shares a status that is not terminal with all of its tickets, and a failure
ends it with all of its tickets failed. -/
theorem session_changes_as_one {world : World} (reached : SessionsReached world) :
    (∀ (session : MatchSession) (status : MatchTicketStatus) (state : MatchSessionState)
        (statuses : TicketStatuses),
      session.ChangesAsOne status state statuses
        (session.changeStatus status state statuses)) ∧
    ∀ matchId session, world.matchSessions.items matchId = some session →
      (world.sessionState session).status.terminal = false ∧
      world.Shares session (world.sessionState session).status ∧
      ((MatchSessionManager.onFailedMatchSession matchId).run perform world).2.Ended session
        .failed := by
  have inStep := reached.inStep
  refine ⟨MatchSession.changeStatus_asOne, fun matchId session found => ?_⟩
  obtain rfl := inStep.consistent.keyed found
  refine ⟨?_, inStep.shares found, ?_⟩
  · exact MatchTicketStatus.not_terminal_of_inPlay
      (MatchTicketStatus.inPlay_of_seated (inStep.seated _ _ found))
  · rw [MatchSessionManager.run_onFailedMatchSession inStep found]
    exact inStep.ended_ended found .failed

/-- The ticket of a player, numbered by the player. -/
def numberedTicket (player : Nat) : MatchTicket :=
  ⟨player, { soleRequest player with matchTicketId := 1000 + player }, 0⟩

/-- All tickets are in search. -/
def searchingWorld : World := { ticketStatus := fun _ => .searching }

/-- The session of player 3 is created. -/
def loneSessionWorld : World :=
  ((SessionCall.createMatchSession (0, "Dungeon") (.single (numberedTicket 3))).operation.run
    perform searchingWorld).2

/-- The tickets of the players 1 and 2. -/
def pairTicketSet : TicketSet := ⟨[numberedTicket 1, numberedTicket 2], by decide⟩

/-- The session of the players 1 and 2 is created beside it. -/
def pairSessionWorld : World :=
  ((SessionCall.createMatchSession (0, "Dungeon") pairTicketSet).operation.run perform
    loneSessionWorld).2

def loneSession : MatchSession :=
  searchingWorld.newMatchSession "Dungeon" 0 1003 (.single (numberedTicket 3))

def pairSession : MatchSession :=
  loneSessionWorld.newMatchSession "Dungeon" 0 1001 pairTicketSet

/-- A player accepts. -/
def acceptance (playerKey : PlayerKey) : Operation Unit :=
  MatchSessionManager.acceptMatchSession { playerKey := playerKey, isAccept := true }

theorem loneSessionWorld_reached : SessionsReached loneSessionWorld :=
  .call (.start rfl) _ fun _ _ => rfl

theorem pairTicketSet_searching :
    ∀ ticket ∈ pairTicketSet.1, loneSessionWorld.ticketStatus ticket = .searching := by
  decide +kernel

theorem pairSessionWorld_reached : SessionsReached pairSessionWorld :=
  .call loneSessionWorld_reached _ pairTicketSet_searching

/-- The session of two tickets fails as one beside another one; with a ticket that was
cancelled it cannot be placed. -/
theorem session_changes_as_one_pair :
    pairSessionWorld.Shares pairSession (pairSessionWorld.sessionState pairSession).status ∧
      ((MatchSessionManager.onFailedMatchSession 1001).run perform pairSessionWorld).2.Ended
        pairSession .failed ∧
      pairSession.ChangesAsOne .placing (pairSessionWorld.sessionState pairSession)
        (Function.update pairSessionWorld.ticketStatus (numberedTicket 2) .cancelled)
        (pairSession.changeStatus .placing (pairSessionWorld.sessionState pairSession)
          (Function.update pairSessionWorld.ticketStatus (numberedTicket 2) .cancelled)) := by
  have found : pairSessionWorld.matchSessions.items 1001 = some pairSession := by decide +kernel
  obtain ⟨changes, kept⟩ := session_changes_as_one pairSessionWorld_reached
  obtain ⟨-, shares, ended⟩ := kept 1001 pairSession found
  exact ⟨shares, ended, changes _ _ _ _⟩

end MatchmakingMvp
