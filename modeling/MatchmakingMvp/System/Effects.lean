import MatchmakingMvp.System.Calls
import MatchmakingMvp.Worker.Claiming

/-! # What single sections change

Every section moves each ticket at most one step along the transition table, and
tickets are never unmade (`MatchmakingMvp.precedes_perform`). Sections that only
concern clocks, jobs, penalties, responses and zones leave the tickets, their
queues and the sessions alone (`MatchmakingMvp.sameMatchmaking_of_neutral`).
-/

namespace MatchmakingMvp

open Foundation

namespace World

/-- The ticket was made by the manager of the queue. -/
def Made (world : World) (queue : QueueKind) (ticket : MatchTicket) : Prop :=
  (queue, ticket) ∈ world.matchTickets

/-- The statuses of tickets only advance, and tickets made stay made. -/
structure Precedes (before after : World) : Prop where
  made : ∀ {queue ticket}, before.Made queue ticket → after.Made queue ticket
  advances : ∀ ticket, Advances (before.ticketStatus ticket) (after.ticketStatus ticket)

variable {before middle after : World}

theorem Precedes.refl (world : World) : world.Precedes world :=
  ⟨id, fun _ => Relation.ReflTransGen.refl⟩

theorem Precedes.trans (first : before.Precedes middle) (second : middle.Precedes after) :
    before.Precedes after :=
  ⟨fun made => second.made (first.made made),
    fun ticket => (first.advances ticket).trans (second.advances ticket)⟩

theorem Precedes.engaged (precedes : before.Precedes after) {ticket : MatchTicket}
    (engaged : (before.ticketStatus ticket).engaged = true) :
    (after.ticketStatus ticket).engaged = true :=
  (precedes.advances ticket).engaged engaged

theorem Precedes.departed (precedes : before.Precedes after) {ticket : MatchTicket}
    (departed : (before.ticketStatus ticket).departed = true) :
    (after.ticketStatus ticket).departed = true :=
  (precedes.advances ticket).departed departed

end World

/-- The tickets a section hands over. -/
def Section.handed : Section → List MatchTicket
  | .enterCreateMatchSession _ tickets => tickets.1
  | _ => []

theorem perform_stepsAtMostOnce (step : Section) (world : World) :
    StepsAtMostOnce world.ticketStatus (perform step world).ticketStatus := by
  cases step with
  | changeTicketStatus ticket status => exact MatchTicket.stepsAtMostOnce_changeStatus
  | soloCancel group index ticket => exact SoloMatchmakingWorker.cancel_stepsAtMostOnce _ _ _
  | soloRun group index => exact SoloMatchmakingWorker.doWorkerAsyncJob_stepsAtMostOnce _ _ _
  | partyEnqueue group index request ticket =>
      exact PartyMatchmakingWorkerGroup.enqueueSection_stepsAtMostOnce
  | partyCancel group ticket =>
      exact PartyMatchmakingWorkerGroup.cancelMatchTicket_stepsAtMostOnce ticket
  | partyCommit group requests =>
      exact PartyMatchmakingWorkerGroup.tryCommit_stepsAtMostOnce requests
  | changeSessionStatus session status =>
      exact MatchSession.stepsAtMostOnce_changeStatus session status _ _
  | nextIntegrationWorldNo worldGroupNo =>
      simp only [perform]
      split_ifs <;> exact StepsAtMostOnce.refl _
  | _ => exact StepsAtMostOnce.refl _

theorem perform_made {step : Section} {world : World} {queue : QueueKind} {ticket : MatchTicket}
    (made : world.Made queue ticket) : (perform step world).Made queue ticket := by
  cases step with
  | newMatchTicket queue matchWorldGroupId request => exact List.mem_cons_of_mem _ made
  | nextIntegrationWorldNo worldGroupNo =>
      simp only [perform]
      split_ifs <;> exact made
  | _ => exact made

theorem precedes_perform (step : Section) (world : World) :
    world.Precedes (perform step world) :=
  ⟨perform_made, (perform_stepsAtMostOnce step world).advances⟩

/-- The tickets, their queues and the registered sessions are the same. -/
structure World.SameMatchmaking (before after : World) : Prop where
  matchTickets : after.matchTickets = before.matchTickets
  nextMatchTicketId : after.nextMatchTicketId = before.nextMatchTicketId
  ticketStatus : after.ticketStatus = before.ticketStatus
  workerSlot : after.workerSlot = before.workerSlot
  tickets : after.tickets = before.tickets
  soloWorkers : after.soloWorkers = before.soloWorkers
  partyGroups : after.partyGroups = before.partyGroups
  matchSessionCount : after.matchSessionCount = before.matchSessionCount
  matchSessions : after.matchSessions = before.matchSessions
  sessionStatus : ∀ session,
    (after.sessionState session).status = (before.sessionState session).status

/-- A section that concerns a clock, a job, a penalty, a response or a zone. -/
def Section.neutral : Section → Bool
  | .read | .tick _ | .nextIntegrationWorldNo _ | .acceptPlayerSession _ _ | .addSessionJob _ _
  | .takeSessionJob | .setDodgePenalty _ _ | .clearDodgePenalty _ | .addPenaltyJob _ _
  | .takePenaltyJob | .newZoneInstance _ | .insertZoneInstance _ | .eraseZoneInstance _
  | .removePlayerSession _ _ | .eraseZonePlayer _ | .updateZoneInstance _ | .addZoneJob _ _
  | .takeZoneJob => true
  | _ => false

theorem MatchSessionState.acceptPlayerSession_status (state : MatchSessionState)
    (acceptInfo : PlayerMatchAcceptInfo) :
    (state.acceptPlayerSession acceptInfo).2.status = state.status := by
  rw [acceptPlayerSession]
  split
  · rfl
  · split_ifs <;> rfl

theorem sameMatchmaking_of_neutral {step : Section} (neutral : step.neutral = true)
    (world : World) : world.SameMatchmaking (perform step world) := by
  cases step with
  | nextIntegrationWorldNo worldGroupNo =>
      simp only [perform]
      split_ifs <;> exact ⟨rfl, rfl, rfl, rfl, rfl, rfl, rfl, rfl, rfl, fun _ => rfl⟩
  | acceptPlayerSession session acceptInfo =>
      refine ⟨rfl, rfl, rfl, rfl, rfl, rfl, rfl, rfl, rfl, fun other => ?_⟩
      by_cases same : other = session
      · subst same
        simp [perform, MatchSessionState.acceptPlayerSession_status]
      · simp [perform, same]
  | read | tick | addSessionJob | takeSessionJob | setDodgePenalty | clearDodgePenalty
  | addPenaltyJob | takePenaltyJob | newZoneInstance | insertZoneInstance | eraseZoneInstance
  | removePlayerSession | eraseZonePlayer | updateZoneInstance | addZoneJob | takeZoneJob =>
      exact ⟨rfl, rfl, rfl, rfl, rfl, rfl, rfl, rfl, rfl, fun _ => rfl⟩
  | _ => cases neutral

/-- A solo worker refuses a queued ticket whose id is taken, and erases the id. -/
theorem World.soloEnqueue_of_queued {world : World} (group : WorkerGroup) (index : Int)
    {ticket : MatchTicket}
    (queued : world.ticketStatus ticket = .queued) :
    world.soloEnqueue group index ticket.matchmakingRequest ticket =
      if (world.soloWorker group index).waitingQueue.contains ticket.matchTicketId then
        (false, (world.soloWorker group index).erase ticket)
      else
        (true, { world.soloWorker group index with
          waitingQueue := (world.soloWorker group index).waitingQueue.insertOrAssign
            ticket.matchTicketId ticket.matchmakingRequest }) := by
  rw [soloEnqueue, SoloMatchmakingWorker.enqueueJobRequest]
  by_cases taken :
      (world.soloWorker group index).waitingQueue.contains ticket.matchTicketId = true
  · simp [queued, taken]
  · simp [queued, taken]

end MatchmakingMvp
