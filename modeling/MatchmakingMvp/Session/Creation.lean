import MatchmakingMvp.System.Runs

/-! # Complete runs of session creation -/

namespace MatchmakingMvp

open Foundation

namespace World

/-- The session that creation makes for an integrated world group. -/
def createdSession (world : World) (key : MatchmakingGroupKey) (ticket : MatchTicket)
    (tickets : TicketSet) : MatchSession :=
  world.newMatchSession key.2 key.1 ticket.matchTicketId tickets

/-- The state in which creation inserts the session. -/
@[simps] def opened (world : World) (session : MatchSession) : World :=
  { world with
    matchSessionCount := world.matchSessionCount + 1
    sessionState := Function.update world.sessionState session
      { world.sessionState session with status := .searching } }

@[simp] theorem createdSession_matchId (world : World) (key : MatchmakingGroupKey)
    (ticket : MatchTicket) (tickets : TicketSet) :
    (world.createdSession key ticket tickets).matchId = ticket.matchTicketId := rfl

@[simp] theorem createdSession_tickets (world : World) (key : MatchmakingGroupKey)
    (ticket : MatchTicket) (tickets : TicketSet) :
    (world.createdSession key ticket tickets).tickets = tickets.1 :=
  world.newMatchSession_tickets ..

end World

namespace MatchSessionManager

variable {key : MatchmakingGroupKey} {tickets : TicketSet} {ticket : MatchTicket} {world : World}

@[simp] theorem run_insertMatchSession (session : MatchSession) (world : World) :
    (insertMatchSession session).run perform world =
      ((world.matchSessions.insertMatchSession session).1,
        world.withMatchSessions (world.matchSessions.insertMatchSession session).2) := (rfl)

@[simp] theorem run_eraseMatchSession (matchId : MatchId) (world : World) :
    (eraseMatchSession matchId).run perform world =
      ((world.matchSessions.eraseMatchSession matchId).1,
        world.withMatchSessions (world.matchSessions.eraseMatchSession matchId).2) := (rfl)

@[simp] theorem run_findMatchSession (matchId : MatchId) (world : World) :
    (findMatchSession matchId).run perform world =
      (world.matchSessions.items matchId, world) := (rfl)

@[simp] theorem run_doAsyncJob (executeTimeMsec : Int) (job : SessionJob) (world : World) :
    (doAsyncJob executeTimeMsec job).run perform world = ((),
      { world with
        sessionJobs := world.sessionJobs.enqueueJobRequest executeTimeMsec job }) := (rfl)

/-- Creation whose session cannot be inserted. -/
theorem run_createMatchSession_of_rejected (integrated : key.1 ∈ kDefaultWorldGroups)
    (first : tickets.1.head? = some ticket)
    (rejected : (world.matchSessions.insertMatchSession
      (world.createdSession key ticket tickets)).1 = false) :
    (createMatchSession key tickets).run perform world =
      (forAll tickets.1 notifyMatchmakingFailure).run perform
        ((world.opened (world.createdSession key ticket tickets)).withMatchSessions
          (world.matchSessions.eraseMatchSession ticket.matchTicketId).2) := by
  have unchanged : (world.matchSessions.insertMatchSession
      (world.createdSession key ticket tickets)).2 = world.matchSessions := by
    rw [SessionRegistry.insertMatchSession] at rejected ⊢
    rw [Registry.insert_of_not_fresh]
    intro fresh
    rw [Registry.insert_of_fresh _ _ fresh] at rejected
    cases rejected
  have number : world.getNextIntegrationWorldNo key.1 = some key.1 := if_pos integrated
  simp only [createMatchSession, Program.run_bind, Program.run_atomically, first, number,
    Program.run_ite, ne_neg_one_of_integrated integrated, if_false, run_insertMatchSession,
    run_eraseMatchSession, perform, integrated, if_true]
  rw [World.createdSession] at rejected unchanged ⊢
  simp only [World.withSessionState, rejected, unchanged, if_true, Program.run_pure]
  rfl

end MatchSessionManager

end MatchmakingMvp
