import MatchmakingMvp.System.Locks

/-! # Threads and their mutexes

The workers, the groups and the managers as scopes of mutexes, and the threads that run them:
callers with any calls one after another, the thread of every worker and the thread of every
group. However these interleave, they never wait for one another in a circle, the joins of a
shutdown included (`MatchmakingMvp.Locks.threads_never_circle`). This holds however readers and
writers of a mutex are preferred, and for every observer of created matches that does not
change the observer itself.
-/

namespace MatchmakingMvp.Locks

open Foundation Locking LockOrder

/-! ## Workers and groups -/

namespace SoloMatchmakingWorker

variable (group : WorkerGroup) (index ticket : Nat)

def enqueueJobRequest : Code :=
  hold .exclusive (.worker (.solo group) index) (MatchTicket.getStatus ticket)

def erase : Code := write (.worker (.solo group) index)

def cancel : Code :=
  hold .exclusive (.worker (.solo group) index) (MatchTicket.changeStatus ticket)

def isWorkerJobAvailable : Code := read (.worker (.solo group) index)

/-- A run: the tickets are taken under the mutex of the worker, the match is made without it. -/
def doWorkerAsyncJob (observer : Code) : Code :=
  seq (hold .exclusive (.worker (.solo group) index) (forEach fun ticket =>
      seq (MatchTicket.changeStatus ticket) (optionally (MatchTicket.getStatus ticket))))
    (optionally (either (MatchSessionManager.createMatchSession observer)
      (forEach (MatchmakingManager.onFailedMatchmaking .solo))))

variable {guards : List Mutex} {group index ticket}

theorem climbs_enqueueJobRequest :
    lockOrder.Climbs guards 2 (enqueueJobRequest group index ticket) := by
  unfold enqueueJobRequest
  apply Climbs.exclusive _ (by simp) (by simp)
  exact MatchTicket.climbs_read ticket

theorem climbs_erase : lockOrder.Climbs guards 2 (erase group index) :=
  climbs_write (by simp) (by simp)

theorem ranked_cancel : Ranked 2 (cancel group index ticket) := by
  unfold cancel
  apply Climbs.exclusive _ (by simp) (by simp)
  exact MatchTicket.climbs_write ticket

theorem ranked_doWorkerAsyncJob {observer : Code} (ranked : Ranked 1 observer) :
    Ranked 0 (doWorkerAsyncJob group index observer) := by
  unfold doWorkerAsyncJob
  apply Climbs.seq
  · apply Climbs.exclusive _ (by simp) (by simp)
    exact .forEach fun ticket =>
      .seq (MatchTicket.climbs_write ticket) (.optionally (MatchTicket.climbs_read ticket))
  apply Climbs.optionally
  apply Climbs.either (MatchSessionManager.ranked_createMatchSession ranked)
  exact .forEach fun ticket =>
    (MatchmakingManager.ranked_onFailedMatchmaking ticket).mono (by simp) (by simp)

end SoloMatchmakingWorker

namespace SoloMatchmakingWorkerGroup

variable (group : WorkerGroup) (ticket : Nat)

def enqueueJobRequest : Code :=
  optionally (seq (MatchTicket.changeStatus ticket) (optionally (any fun request =>
    seq (JobRequest.setBaseWorkerIndex request)
      (seq (JobRequest.getNewBaseWorkerIndex request)
        (optionally (hold .exclusive (.workerGroup (.solo group)) (any fun index =>
          seq (SoloMatchmakingWorker.enqueueJobRequest group index ticket)
            (optionally (SoloMatchmakingWorker.erase group index)))))))))

def cancelMatchTicket : Code :=
  optionally (any fun index => SoloMatchmakingWorker.cancel group index ticket)

variable {group ticket}

theorem ranked_enqueueJobRequest : Ranked 1 (enqueueJobRequest group ticket) := by
  unfold enqueueJobRequest
  apply Climbs.optionally
  apply Climbs.seq ((MatchTicket.climbs_write ticket).mono (by simp) (List.Subset.refl _))
  refine .optionally (.any fun request => ?_)
  apply Climbs.seq ((JobRequest.ranked_setBaseWorkerIndex request).mono (by simp) (by simp))
  apply Climbs.seq ((JobRequest.ranked_getNewBaseWorkerIndex request).mono (by simp) (by simp))
  apply Climbs.optionally
  apply Climbs.exclusive _ (by simp) (by simp)
  exact .any fun index => .seq SoloMatchmakingWorker.climbs_enqueueJobRequest
    (.optionally SoloMatchmakingWorker.climbs_erase)

theorem ranked_cancelMatchTicket : Ranked 1 (cancelMatchTicket group ticket) :=
  .optionally (.any fun _ => SoloMatchmakingWorker.ranked_cancel.mono (by simp) (by simp))

end SoloMatchmakingWorkerGroup

namespace PartyMatchmakingWorker

variable (group : WorkerGroup) (index : Nat)

def enqueueJobRequest : Code := write (.worker (.party group) index)
def erase : Code := write (.worker (.party group) index)
def isWorkerJobAvailable : Code := read (.worker (.party group) index)

def makeMatchmaking : Code :=
  hold .shared (.worker (.party group) index) (forEach MatchTicket.getStatus)

variable {guards : List Mutex} {group index}

theorem climbs_write : lockOrder.Climbs guards 2 (write (.worker (.party group) index)) :=
  LockOrder.climbs_write (by simp) (by simp)

theorem ranked_makeMatchmaking : Ranked 2 (makeMatchmaking group index) := by
  unfold makeMatchmaking
  apply Climbs.shared _ (by simp)
  exact .forEach MatchTicket.climbs_read

end PartyMatchmakingWorker

namespace PartyMatchmakingWorkerGroup

variable (group : WorkerGroup) (ticket : Nat)

/-- Enqueue at the worker of the request. The request is no longer new once its expansion is
planned. -/
def enqueueJobRequest : Code :=
  optionally (any fun request => seq (JobRequest.setBaseWorkerIndex request)
    (hold .exclusive (.workerGroup (.party group))
      (seq (JobRequest.getBaseWorkerIndex (.party group) request) (optionally (any fun index =>
        seq (PartyMatchmakingWorker.enqueueJobRequest group index)
          (either (PartyMatchmakingWorker.erase group index)
            (MatchTicket.changeStatus ticket)))))))

/-- Removal from all workers under the mutex of the group. -/
def cancelMatchTicket : Code :=
  optionally (hold .exclusive (.workerGroup (.party group))
    (seq (MatchTicket.changeStatus ticket)
      (optionally (forEach (PartyMatchmakingWorker.erase group)))))

/-- The slots of a request, whose bounds are read again and again. -/
def eraseFromSlots (request : Nat) : Code :=
  seq (JobRequest.getMinWorkerIndex (.party group) request)
    (loop (seq (JobRequest.getMaxWorkerIndex (.party group) request)
      (optionally (any (PartyMatchmakingWorker.erase group)))))

def tryCommitMatchmakingRequests : Code :=
  optionally (hold .exclusive (.workerGroup (.party group))
    (seq (forEach MatchTicket.getStatus)
      (seq (forEach MatchTicket.changeStatusIfCurrent)
        (seq (forEach MatchTicket.forceSetStatus) (forEach (eraseFromSlots group))))))

/-- The expansion of one request by a slot at either end. -/
def expandRequest (request : Nat) : Code :=
  optionally (seq (any MatchTicket.getStatus)
    (optionally (seq (JobRequest.getWorkerExpansionLevel (.party group) request)
      (seq (JobRequest.getBaseWorkerIndex (.party group) request)
        (seq (JobRequest.getMinWorkerIndex (.party group) request)
          (seq (optionally (any (PartyMatchmakingWorker.enqueueJobRequest group)))
            (seq (JobRequest.getBaseWorkerIndex (.party group) request)
              (seq (JobRequest.getMaxWorkerIndex (.party group) request)
                (seq (optionally (any (PartyMatchmakingWorker.enqueueJobRequest group)))
                  (JobRequest.setWorkerExpansionLevel (.party group) request))))))))))

def expandMatchmakingWorkerSlot : Code :=
  hold .exclusive (.workerGroup (.party group)) (forEach (expandRequest group))

def doWorkerAsyncJob (index : Nat) (observer : Code) : Code :=
  optionally (seq (PartyMatchmakingWorker.makeMatchmaking group index)
    (optionally (seq (tryCommitMatchmakingRequests group)
      (optionally (either (MatchSessionManager.createMatchSession observer)
        (forEach (MatchmakingManager.onFailedMatchmaking .party)))))))

/-- The thread of the group, which expands the slots if there is more than one worker. -/
def workerGroupThreadFunc : Code := optionally (loop (expandMatchmakingWorkerSlot group))

variable {group ticket}

theorem ranked_enqueueJobRequest : Ranked 1 (enqueueJobRequest group ticket) := by
  unfold enqueueJobRequest
  refine .optionally (.any fun request => ?_)
  apply Climbs.seq ((JobRequest.ranked_setBaseWorkerIndex request).mono (by simp) (by simp))
  apply Climbs.exclusive _ (by simp) (by simp)
  apply Climbs.seq (JobRequest.climbs_getBaseWorkerIndex _ request)
  refine .optionally (.any fun index => ?_)
  apply Climbs.seq PartyMatchmakingWorker.climbs_write
  exact .either PartyMatchmakingWorker.climbs_write
    ((MatchTicket.climbs_write ticket).mono (by simp) (List.Subset.refl _))

theorem ranked_cancelMatchTicket : Ranked 1 (cancelMatchTicket group ticket) := by
  unfold cancelMatchTicket
  apply Climbs.optionally
  apply Climbs.exclusive _ (by simp) (by simp)
  apply Climbs.seq ((MatchTicket.climbs_write ticket).mono (by simp) (List.Subset.refl _))
  exact .optionally (.forEach fun _ => PartyMatchmakingWorker.climbs_write)

theorem climbs_eraseFromSlots (request : Nat) :
    lockOrder.Climbs [.workerGroup (.party group)] 2 (eraseFromSlots group request) := by
  unfold eraseFromSlots
  apply Climbs.seq (JobRequest.climbs_getMinWorkerIndex _ request)
  apply Climbs.loop
  apply Climbs.seq (JobRequest.climbs_getMaxWorkerIndex _ request)
  exact .optionally (.any fun _ => PartyMatchmakingWorker.climbs_write)

theorem ranked_tryCommitMatchmakingRequests : Ranked 1 (tryCommitMatchmakingRequests group) := by
  have written : lockOrder.Climbs [.workerGroup (.party group)] 2
      (forEach fun ticket => write (.matchTicket ticket)) :=
    .forEach fun ticket => (MatchTicket.climbs_write ticket).mono (by simp) (List.Subset.refl _)
  unfold tryCommitMatchmakingRequests
  apply Climbs.optionally
  apply Climbs.exclusive _ (by simp) (by simp)
  apply Climbs.seq
  · exact .forEach fun ticket =>
      (MatchTicket.climbs_read ticket).mono (by simp) (List.Subset.refl _)
  exact .seq written (.seq written (.forEach climbs_eraseFromSlots))

theorem climbs_expandRequest (request : Nat) :
    lockOrder.Climbs [.workerGroup (.party group)] 2 (expandRequest group request) := by
  have enqueued : lockOrder.Climbs [.workerGroup (.party group)] 2
      (optionally (any (PartyMatchmakingWorker.enqueueJobRequest group))) :=
    .optionally (.any fun _ => PartyMatchmakingWorker.climbs_write)
  have base := JobRequest.climbs_getBaseWorkerIndex (.party group) request
  unfold expandRequest
  apply Climbs.optionally
  apply Climbs.seq
  · exact .any fun ticket =>
      (MatchTicket.climbs_read ticket).mono (by simp) (List.Subset.refl _)
  apply Climbs.optionally
  apply Climbs.seq (JobRequest.climbs_getWorkerExpansionLevel _ request)
  apply Climbs.seq base
  apply Climbs.seq (JobRequest.climbs_getMinWorkerIndex _ request)
  apply Climbs.seq enqueued
  apply Climbs.seq base
  apply Climbs.seq (JobRequest.climbs_getMaxWorkerIndex _ request)
  exact .seq enqueued (JobRequest.climbs_setWorkerExpansionLevel _ request)

theorem ranked_expandMatchmakingWorkerSlot : Ranked 1 (expandMatchmakingWorkerSlot group) := by
  unfold expandMatchmakingWorkerSlot
  apply Climbs.exclusive _ (by simp) (by simp)
  exact .forEach climbs_expandRequest

theorem ranked_doWorkerAsyncJob {index : Nat} {observer : Code} (ranked : Ranked 1 observer) :
    Ranked 0 (doWorkerAsyncJob group index observer) := by
  unfold doWorkerAsyncJob
  apply Climbs.optionally
  apply Climbs.seq (PartyMatchmakingWorker.ranked_makeMatchmaking.mono (by simp) (by simp))
  apply Climbs.optionally
  apply Climbs.seq (ranked_tryCommitMatchmakingRequests.mono (by simp) (by simp))
  apply Climbs.optionally
  apply Climbs.either (MatchSessionManager.ranked_createMatchSession ranked)
  exact .forEach fun ticket =>
    (MatchmakingManager.ranked_onFailedMatchmaking ticket).mono (by simp) (by simp)

end PartyMatchmakingWorkerGroup

/-! ## The managers -/

namespace SoloMatchmakingManager

variable (groups : List WorkerGroup) (ticket : Nat)

def enqueueWorkerJobRequest : Code :=
  seq (MatchmakingManager.getWorkerGroup .solo) (oneOf groups fun group =>
    seq (MatchmakingManager.insertMatchTicket .solo)
      (optionally (seq (SoloMatchmakingWorkerGroup.enqueueJobRequest group ticket)
        (optionally (MatchmakingManager.eraseMatchTicket .solo)))))

def stopMatchmaking : Code :=
  seq (MatchmakingManager.findMatchTicketByPlayerKey .solo)
    (optionally (any fun ticket => seq (MatchTicket.getStatus ticket)
      (either MatchSessionManager.acceptMatchSession
        (seq (MatchTicket.getStatus ticket)
          (optionally (seq (MatchmakingManager.getWorkerGroup .solo)
            (seq (oneOf groups fun group =>
                SoloMatchmakingWorkerGroup.cancelMatchTicket group ticket)
              (optionally (seq (MatchmakingManager.eraseMatchTicket .solo)
                (optionally MatchPenaltyManager.addDodgePenalty))))))))))

/-- Cleanup for the players of a request. -/
def cleanupPrevMatchmaking : Code :=
  loop (seq (stopMatchmaking groups)
    IntegrationZoneInstanceManager.processPlayerLeaveToIntegrationServer)

def startMatchmaking : Code :=
  optionally (seq (cleanupPrevMatchmaking groups)
    (optionally (seq MatchPenaltyManager.hasDodgePenalty
      (optionally (any fun ticket => seq (enqueueWorkerJobRequest groups ticket)
        (optionally (seq (MatchTicket.changeStatus ticket)
          (MatchmakingManager.eraseMatchTicket .solo))))))))

variable {groups ticket}

private theorem ranked_written : Ranked 1 (write (.matchmaking .solo)) :=
  MatchmakingManager.ranked_write.mono (by simp) (by simp)

theorem ranked_enqueueWorkerJobRequest : Ranked 1 (enqueueWorkerJobRequest groups ticket) := by
  unfold enqueueWorkerJobRequest
  apply Climbs.seq (MatchmakingManager.ranked_getWorkerGroup.mono (by simp) (by simp))
  apply Climbs.oneOf
  intro group _
  apply Climbs.seq ranked_written
  exact .optionally
    (.seq SoloMatchmakingWorkerGroup.ranked_enqueueJobRequest (.optionally ranked_written))

theorem ranked_stopMatchmaking : Ranked 1 (stopMatchmaking groups) := by
  unfold stopMatchmaking
  apply Climbs.seq (MatchmakingManager.ranked_findMatchTicketByPlayerKey.mono (by simp) (by simp))
  refine .optionally (.any fun ticket => ?_)
  have status : Ranked 1 (read (.matchTicket ticket)) :=
    (MatchTicket.climbs_read ticket).mono (by simp) (List.Subset.refl _)
  apply Climbs.seq status
  apply Climbs.either MatchSessionManager.ranked_acceptMatchSession
  apply Climbs.seq status
  apply Climbs.optionally
  apply Climbs.seq (MatchmakingManager.ranked_getWorkerGroup.mono (by simp) (by simp))
  apply Climbs.seq (.oneOf fun _ _ => SoloMatchmakingWorkerGroup.ranked_cancelMatchTicket)
  apply Climbs.optionally
  exact .seq ranked_written (.optionally MatchPenaltyManager.ranked_addDodgePenalty)

theorem ranked_startMatchmaking : Ranked 1 (startMatchmaking groups) := by
  unfold startMatchmaking
  apply Climbs.optionally
  apply Climbs.seq
  · apply Climbs.loop
    exact .seq ranked_stopMatchmaking
      IntegrationZoneInstanceManager.ranked_processPlayerLeaveToIntegrationServer
  apply Climbs.optionally
  apply Climbs.seq (MatchPenaltyManager.ranked_hasDodgePenalty.mono (by simp) (by simp))
  refine .optionally (.any fun ticket => ?_)
  apply Climbs.seq ranked_enqueueWorkerJobRequest
  apply Climbs.optionally
  exact .seq ((MatchTicket.climbs_write ticket).mono (by simp) (List.Subset.refl _))
    ranked_written

end SoloMatchmakingManager

namespace PartyMatchmakingManager

variable (groups : List WorkerGroup) (ticket : Nat)

def enqueueWorkerJobRequest : Code :=
  seq (MatchmakingManager.getWorkerGroup .party) (oneOf groups fun group =>
    seq (MatchmakingManager.insertMatchTicket .party)
      (optionally (seq (PartyMatchmakingWorkerGroup.enqueueJobRequest group ticket)
        (optionally (MatchmakingManager.eraseMatchTicket .party)))))

/-- What stopping a ticket that was found does. -/
def cancelFound : Code :=
  seq (MatchmakingManager.getWorkerGroup .party)
    (seq (either (MatchTicket.changeStatus ticket) (oneOf groups fun group =>
        PartyMatchmakingWorkerGroup.cancelMatchTicket group ticket))
      (optionally (MatchmakingManager.eraseMatchTicket .party)))

def stopMatchmaking : Code :=
  seq (MatchmakingManager.findMatchTicketByPlayerKey .party)
    (optionally (any (cancelFound groups)))

def stopMatchBackfill : Code :=
  seq (MatchmakingManager.findMatchTicket .party) (optionally (any (cancelFound groups)))

/-- Cleanup for the players of a request. -/
def cleanupPrevMatchmaking : Code :=
  loop (seq (MatchmakingManager.findMatchTicketByPlayerKey .party)
    (seq (optionally (stopMatchmaking groups))
      IntegrationZoneInstanceManager.processPlayerLeaveToIntegrationServer))

def startMatchmaking : Code :=
  optionally (seq (cleanupPrevMatchmaking groups)
    (optionally (seq MatchPenaltyManager.hasDodgePenalty
      (optionally (any fun ticket => seq (enqueueWorkerJobRequest groups ticket)
        (optionally (seq (MatchTicket.changeStatus ticket)
          (MatchmakingManager.eraseMatchTicket .party))))))))

def startMatchBackfill : Code :=
  any fun ticket => seq (enqueueWorkerJobRequest groups ticket)
    (optionally (seq (MatchmakingManager.eraseMatchTicket .party)
      (MatchTicket.changeStatus ticket)))

variable {groups ticket}

private theorem ranked_erased : Ranked 1 (write (.matchmaking .party)) :=
  MatchmakingManager.ranked_write.mono (by simp) (by simp)

private theorem ranked_changed : Ranked 1 (write (.matchTicket ticket)) :=
  (MatchTicket.climbs_write ticket).mono (by simp) (List.Subset.refl _)

theorem ranked_enqueueWorkerJobRequest : Ranked 1 (enqueueWorkerJobRequest groups ticket) := by
  unfold enqueueWorkerJobRequest
  apply Climbs.seq (MatchmakingManager.ranked_getWorkerGroup.mono (by simp) (by simp))
  apply Climbs.oneOf
  intro group _
  apply Climbs.seq ranked_erased
  exact .optionally
    (.seq PartyMatchmakingWorkerGroup.ranked_enqueueJobRequest (.optionally ranked_erased))

theorem ranked_cancelFound : Ranked 1 (cancelFound groups ticket) := by
  unfold cancelFound
  apply Climbs.seq (MatchmakingManager.ranked_getWorkerGroup.mono (by simp) (by simp))
  apply Climbs.seq
  · exact .either ranked_changed
      (.oneOf fun _ _ => PartyMatchmakingWorkerGroup.ranked_cancelMatchTicket)
  · exact .optionally ranked_erased

theorem ranked_find : Ranked 1 (MatchmakingManager.findMatchTicketByPlayerKey .party) :=
  MatchmakingManager.ranked_findMatchTicketByPlayerKey.mono (by simp) (by simp)

theorem ranked_stopMatchmaking : Ranked 1 (stopMatchmaking groups) :=
  .seq ranked_find (.optionally (.any fun _ => ranked_cancelFound))

theorem ranked_stopMatchBackfill : Ranked 1 (stopMatchBackfill groups) :=
  .seq (MatchmakingManager.ranked_read.mono (by simp) (by simp))
    (.optionally (.any fun _ => ranked_cancelFound))

theorem ranked_startMatchmaking : Ranked 1 (startMatchmaking groups) := by
  unfold startMatchmaking
  apply Climbs.optionally
  apply Climbs.seq
  · apply Climbs.loop
    apply Climbs.seq ranked_find
    exact .seq (.optionally ranked_stopMatchmaking)
      IntegrationZoneInstanceManager.ranked_processPlayerLeaveToIntegrationServer
  apply Climbs.optionally
  apply Climbs.seq (MatchPenaltyManager.ranked_hasDodgePenalty.mono (by simp) (by simp))
  refine .optionally (.any fun ticket => ?_)
  apply Climbs.seq ranked_enqueueWorkerJobRequest
  exact .optionally (.seq ranked_changed ranked_erased)

theorem ranked_startMatchBackfill : Ranked 1 (startMatchBackfill groups) := by
  unfold startMatchBackfill
  apply Climbs.any
  intro ticket
  apply Climbs.seq ranked_enqueueWorkerJobRequest
  exact .optionally (.seq ranked_erased ranked_changed)

end PartyMatchmakingManager

/-! ## Deferred jobs -/

/-- What the job of a session may be. -/
def sessionJob : Code :=
  either MatchSessionManager.onTimeOutAcceptMatchSession
    (either MatchSessionManager.acceptMatchSession
      (either MatchSessionManager.onTimeOutPlaceMatchSession
        MatchSessionManager.onCompleteMatchSession))

def zoneJob : Code :=
  either IntegrationZoneInstanceManager.processIntegrationServerClosedAsync
    (either IntegrationZoneInstanceManager.processZoneInstanceExpireAsync
      IntegrationZoneInstanceManager.processPlayerLeavedFromIntegrationServer)

def job : JobGroup → Code
  | .session => sessionJob
  | .penalty => MatchPenaltyManager.expireDodgePenalty
  | .zone => zoneJob

theorem ranked_job (group : JobGroup) : Ranked 1 (job group) := by
  cases group with
  | session =>
      apply Climbs.either MatchSessionManager.ranked_onTimeOut
      apply Climbs.either MatchSessionManager.ranked_acceptMatchSession
      exact .either MatchSessionManager.ranked_onTimeOut
        MatchSessionManager.ranked_onCompleteMatchSession
  | penalty => exact MatchPenaltyManager.ranked_expireDodgePenalty.mono (by simp) (by simp)
  | zone =>
      apply Climbs.either
        IntegrationZoneInstanceManager.ranked_processIntegrationServerClosedAsync
      exact .either IntegrationZoneInstanceManager.ranked_processZoneInstanceExpireAsync
        IntegrationZoneInstanceManager.ranked_processPlayerLeavedFromIntegrationServer

namespace AsyncJobWorker

variable (group : JobGroup)

def isWorkerJobAvailable : Code := read (.worker (.jobs group) 0)
def getJobExecuteTimeMsec : Code := read (.worker (.jobs group) 0)

/-- The job is taken under the mutex of the worker and run without it. -/
def doWorkerAsyncJob : Code := seq (write (.worker (.jobs group) 0)) (optionally (job group))

theorem ranked_doWorkerAsyncJob : Ranked 1 (doWorkerAsyncJob group) :=
  .seq (climbs_write (by simp) (by simp)) (.optionally (ranked_job group))

end AsyncJobWorker

/-! ## Threads -/

variable (deployment : Deployment) (observer : Code)

/-- The groups of a manager. -/
def workerGroups (queue : QueueKind) : List WorkerGroup :=
  kDefaultWorldGroups.flatMap fun worldGroup =>
    (deployment.matchmakingRules queue).filterMap fun rule =>
      deployment.getWorkerGroup queue (worldGroup, rule.matchZoneId)

/-- Stopping a group joins its threads. -/
def stop (group : ThreadGroup) : Code :=
  seq (each (List.range group.workerCount) fun index => join (.worker group index))
    (join (.workerGroup group))

/-- `Init` of a matchmaking manager: the groups are made from the rules and started. -/
def init (queue : QueueKind) : Code :=
  seq (write (.matchmakingRules queue))
    (seq (loop (write (.workerGroupMap queue))) (read (.workerGroupMap queue)))

/-- `Terminate` of a matchmaking manager: the groups are stopped without the mutex of the map. -/
def terminate : QueueKind → Code
  | .solo => seq (write (.workerGroupMap .solo))
      (each (workerGroups deployment .solo) fun group => stop (.solo group))
  | .party => seq (write (.workerGroupMap .party))
      (each (workerGroups deployment .party) fun group => stop (.party group))

/-- A call of the system. -/
def ofCall : Call → Code
  | .tick _ => skip
  | .soloStartMatchmaking _ =>
      SoloMatchmakingManager.startMatchmaking (workerGroups deployment .solo)
  | .soloStopMatchmaking _ _ =>
      SoloMatchmakingManager.stopMatchmaking (workerGroups deployment .solo)
  | .soloWorkerRun _ workerId _ => oneOf (workerGroups deployment .solo) fun group =>
      SoloMatchmakingWorker.doWorkerAsyncJob group workerId.toNat observer
  | .partyStartMatchmaking _ =>
      PartyMatchmakingManager.startMatchmaking (workerGroups deployment .party)
  | .partyStopMatchmaking _ =>
      PartyMatchmakingManager.stopMatchmaking (workerGroups deployment .party)
  | .startMatchBackfill _ =>
      PartyMatchmakingManager.startMatchBackfill (workerGroups deployment .party)
  | .stopMatchBackfill _ =>
      PartyMatchmakingManager.stopMatchBackfill (workerGroups deployment .party)
  | .partyWorkerRun _ workerId _ _ => oneOf (workerGroups deployment .party) fun group =>
      PartyMatchmakingWorkerGroup.doWorkerAsyncJob group workerId.toNat observer
  | .expandMatchmakingWorkerSlots _ => oneOf (workerGroups deployment .party)
      PartyMatchmakingWorkerGroup.expandMatchmakingWorkerSlot
  | .acceptMatchSession _ => MatchSessionManager.acceptMatchSession
  | .onTimeOutAcceptMatchSession _ => MatchSessionManager.onTimeOutAcceptMatchSession
  | .onTimeOutPlaceMatchSession _ => MatchSessionManager.onTimeOutPlaceMatchSession
  | .onFailedMatchSession _ => MatchSessionManager.onFailedMatchSession
  | .onCompleteMatchSession _ _ => MatchSessionManager.onCompleteMatchSession
  | .sessionWorkerRun => AsyncJobWorker.doWorkerAsyncJob .session
  | .penaltyWorkerRun => AsyncJobWorker.doWorkerAsyncJob .penalty
  | .zoneWorkerRun => AsyncJobWorker.doWorkerAsyncJob .zone
  | .playerLogin _ =>
      seq (PartyMatchmakingManager.stopMatchmaking (workerGroups deployment .party))
        (seq (SoloMatchmakingManager.stopMatchmaking (workerGroups deployment .solo))
          (seq IntegrationZoneInstanceManager.findByPlayerKey
            (optionally (any fun zone => read (.zoneInstance zone)))))
  | .playerLeave _ _ => IntegrationZoneInstanceManager.processPlayerLeaveToIntegrationServer
  | .playerLeaved _ _ => IntegrationZoneInstanceManager.processPlayerLeavedFromIntegrationServer
  | .zoneUpdated _ =>
      IntegrationZoneInstanceManager.processZoneInstanceInfoUpdatedFromIntegrationServer
  | .zoneTerminated _ =>
      IntegrationZoneInstanceManager.processZoneInstanceTerminatedFromIntegrationServer
  | .integrationServerClosed _ _ => IntegrationZoneInstanceManager.processIntegrationServerClosed

/-- What callers do: the calls of the system, and those that start, observe and stop it. -/
inductive ClientCall
  | call (call : Call)
  | insertMatchmakingRule (queue : QueueKind)
  | init (queue : QueueKind)
  | getMatchmakingRequestSize (queue : QueueKind)
  | getMatchSessionSize
  | setMatchCreatedObserver
  | terminate (queue : QueueKind)
  | stopJobs (group : JobGroup)

def ClientCall.code : ClientCall → Code
  | .call request => ofCall deployment observer request
  | .insertMatchmakingRule queue => MatchmakingManager.insertMatchmakingRule queue
  | .init queue => Locks.init queue
  | .getMatchmakingRequestSize queue => MatchmakingManager.getMatchmakingRequestSize queue
  | .getMatchSessionSize => MatchSessionManager.getMatchSessionSize
  | .setMatchCreatedObserver => MatchSessionManager.setMatchCreatedObserver
  | .terminate queue => Locks.terminate deployment queue
  | .stopJobs group => stop (.jobs group)

/-- Whether a job is available, and until when the thread waits otherwise. -/
def lookForJob (index : Nat) : ThreadGroup → Code
  | .solo group => SoloMatchmakingWorker.isWorkerJobAvailable group index
  | .party group => PartyMatchmakingWorker.isWorkerJobAvailable group index
  | .jobs group => seq (AsyncJobWorker.isWorkerJobAvailable group)
      (optionally (AsyncJobWorker.getJobExecuteTimeMsec group))

def doWorkerAsyncJob (index : Nat) : ThreadGroup → Code
  | .solo group => SoloMatchmakingWorker.doWorkerAsyncJob group index observer
  | .party group => PartyMatchmakingWorkerGroup.doWorkerAsyncJob group index observer
  | .jobs group => AsyncJobWorker.doWorkerAsyncJob group

/-- The loop of a worker's thread. A wait on the condition variable gives the mutex of the group
up and takes it again. -/
def workerThreadFunc (group : ThreadGroup) (index : Nat) : Code :=
  loop (seq (hold .exclusive (.workerGroup group) (optionally (lookForJob index group)))
    (seq (loop (hold .exclusive (.workerGroup group) (optionally (lookForJob index group))))
      (optionally (doWorkerAsyncJob observer index group))))

/-- The code of a thread. Each caller makes its calls one after another. -/
def Thread.code (calls : Nat → List ClientCall) : Thread → Code
  | .client serial => each (calls serial) (ClientCall.code deployment observer)
  | .worker group index => workerThreadFunc observer group index
  | .workerGroup (.party group) => PartyMatchmakingWorkerGroup.workerGroupThreadFunc group
  | .workerGroup _ => skip

variable {deployment observer}

theorem keeps_stop (group : ThreadGroup) (serial : Nat) :
    (stop group).Keeps lockOrder (.client serial) [] := by
  refine ⟨Keeps.each fun _ _ => ⟨rfl, Nat.one_pos⟩, rfl, Nat.one_pos⟩

theorem keeps_terminate (queue : QueueKind) (serial : Nat) :
    (terminate deployment queue).Keeps lockOrder (.client serial) [] := by
  have listed : Ranked 3 (write (.workerGroupMap queue)) := climbs_write (by simp) (by simp)
  cases queue with
  | solo => exact ⟨listed.keeps _, Keeps.each fun _ _ => keeps_stop _ serial⟩
  | party => exact ⟨listed.keeps _, Keeps.each fun _ _ => keeps_stop _ serial⟩

theorem ranked_init (queue : QueueKind) : Ranked 3 (init queue) := by
  unfold init
  apply Climbs.seq (climbs_write (by simp) (by simp))
  exact .seq (Climbs.loop (climbs_write (by simp) (by simp))) (climbs_read (by simp))

theorem ranked_ofCall (ranked : Ranked 1 observer) (call : Call) :
    Ranked 0 (ofCall deployment observer call) := by
  have low : ∀ {code : Code}, Ranked 1 code → Ranked 0 code := fun ranked =>
    ranked.mono (by simp) (by simp)
  cases call with
  | tick => exact climbs_skip
  | soloStartMatchmaking => exact low SoloMatchmakingManager.ranked_startMatchmaking
  | soloStopMatchmaking => exact low SoloMatchmakingManager.ranked_stopMatchmaking
  | soloWorkerRun =>
      exact .oneOf fun _ _ => SoloMatchmakingWorker.ranked_doWorkerAsyncJob ranked
  | partyStartMatchmaking => exact low PartyMatchmakingManager.ranked_startMatchmaking
  | partyStopMatchmaking => exact low PartyMatchmakingManager.ranked_stopMatchmaking
  | startMatchBackfill => exact low PartyMatchmakingManager.ranked_startMatchBackfill
  | stopMatchBackfill => exact low PartyMatchmakingManager.ranked_stopMatchBackfill
  | partyWorkerRun =>
      exact .oneOf fun _ _ => PartyMatchmakingWorkerGroup.ranked_doWorkerAsyncJob ranked
  | expandMatchmakingWorkerSlots =>
      exact low (.oneOf fun _ _ =>
        PartyMatchmakingWorkerGroup.ranked_expandMatchmakingWorkerSlot)
  | acceptMatchSession => exact low MatchSessionManager.ranked_acceptMatchSession
  | onTimeOutAcceptMatchSession | onTimeOutPlaceMatchSession =>
      exact low MatchSessionManager.ranked_onTimeOut
  | onFailedMatchSession => exact low MatchSessionManager.ranked_onFailedMatchSession
  | onCompleteMatchSession => exact low MatchSessionManager.ranked_onCompleteMatchSession
  | sessionWorkerRun | penaltyWorkerRun | zoneWorkerRun =>
      exact low (AsyncJobWorker.ranked_doWorkerAsyncJob _)
  | playerLogin =>
      apply low
      apply Climbs.seq PartyMatchmakingManager.ranked_stopMatchmaking
      apply Climbs.seq SoloMatchmakingManager.ranked_stopMatchmaking
      apply Climbs.seq IntegrationZoneInstanceManager.ranked_findByPlayerKey
      exact .optionally (.any fun zone =>
        (IntegrationZoneInstanceManager.climbs_readZone zone).mono (by simp)
          (List.Subset.refl _))
  | playerLeave =>
      exact low IntegrationZoneInstanceManager.ranked_processPlayerLeaveToIntegrationServer
  | playerLeaved =>
      exact low IntegrationZoneInstanceManager.ranked_processPlayerLeavedFromIntegrationServer
  | zoneUpdated =>
      exact low
        IntegrationZoneInstanceManager.ranked_processZoneInstanceInfoUpdatedFromIntegrationServer
  | zoneTerminated =>
      exact low
        IntegrationZoneInstanceManager.ranked_processZoneInstanceTerminatedFromIntegrationServer
  | integrationServerClosed => exact low (AsyncJobWorkerGroup.ranked_doAsyncJob .zone)

theorem keeps_clientCall (ranked : Ranked 1 observer) (call : ClientCall) (serial : Nat) :
    (call.code deployment observer).Keeps lockOrder (.client serial) [] := by
  cases call with
  | call call => exact (ranked_ofCall ranked call).keeps _
  | insertMatchmakingRule => exact MatchmakingManager.ranked_insertMatchmakingRule.keeps _
  | init queue => exact (ranked_init queue).keeps _
  | getMatchmakingRequestSize => exact MatchmakingManager.ranked_read.keeps _
  | getMatchSessionSize => exact MatchSessionManager.ranked_read.keeps _
  | setMatchCreatedObserver => exact MatchSessionManager.ranked_setMatchCreatedObserver.keeps _
  | terminate queue => exact keeps_terminate queue serial
  | stopJobs group => exact keeps_stop (.jobs group) serial

theorem climbs_lookForJob {guards : List Mutex} (group : ThreadGroup) (index : Nat) :
    lockOrder.Climbs guards 2 (lookForJob index group) := by
  cases group with
  | solo | party => exact climbs_read (by simp)
  | jobs => exact .seq (climbs_read (by simp)) (.optionally (climbs_read (by simp)))

theorem ranked_doWorkerAsyncJob (ranked : Ranked 1 observer) (group : ThreadGroup) (index : Nat) :
    Ranked 0 (doWorkerAsyncJob observer index group) := by
  cases group with
  | solo => exact SoloMatchmakingWorker.ranked_doWorkerAsyncJob ranked
  | party => exact PartyMatchmakingWorkerGroup.ranked_doWorkerAsyncJob ranked
  | jobs => exact (AsyncJobWorker.ranked_doWorkerAsyncJob _).mono (by simp) (by simp)

theorem ranked_workerThreadFunc (ranked : Ranked 1 observer) (group : ThreadGroup) (index : Nat) :
    Ranked 0 (workerThreadFunc observer group index) := by
  have looks : Ranked 0 (hold .exclusive (.workerGroup group)
      (optionally (lookForJob index group))) := by
    apply Climbs.exclusive _ (by simp) (by simp)
    exact .optionally (climbs_lookForJob group index)
  unfold workerThreadFunc
  apply Climbs.loop
  apply Climbs.seq looks
  exact .seq looks.loop (.optionally (ranked_doWorkerAsyncJob ranked group index))

/-- Every thread keeps the lock order. -/
theorem keeps_code (ranked : Ranked 1 observer) (calls : Nat → List ClientCall) (thread : Thread) :
    (thread.code deployment observer calls).Keeps lockOrder thread [] := by
  cases thread with
  | client serial => exact Keeps.each fun call _ => keeps_clientCall ranked call serial
  | worker group index => exact (ranked_workerThreadFunc ranked group index).keeps _
  | workerGroup group =>
      cases group with
      | solo | jobs => exact trivial
      | party group =>
          have expands : Ranked 1 (PartyMatchmakingWorkerGroup.workerGroupThreadFunc group) :=
            .optionally PartyMatchmakingWorkerGroup.ranked_expandMatchmakingWorkerSlot.loop
          exact expands.keeps _

section Runs

variable {calls : Nat → List ClientCall} {running : Finset Thread}
  {threads : LockThreads Mutex Thread}

/-- **Threads never wait in a circle**, whether readers let waiting writers pass or not. -/
theorem threads_never_circle (ranked : Ranked 1 observer)
    (reached : lockOrder.Reached running (Thread.code deployment observer calls) threads)
    (polite : Bool) (thread : Thread) :
    ¬ Relation.TransGen (lockOrder.Waits polite threads) thread thread :=
  reached.acyclic (fun thread _ => keeps_code ranked calls thread) thread

end Runs

/-- An observer with a mutex of its own. -/
def countingObserver : Code := write .observed

theorem ranked_countingObserver : Ranked 1 countingObserver := climbs_write (by simp) (by simp)

/-- A thread of a worker that begins its loop comes to the mutex of the group. -/
theorem exists_begun_turn {code : Thread → Code} {group : ThreadGroup} {index : Nat}
    (reached : lockOrder.Reached running code threads)
    (begins : threads (.worker group index) = [.run (workerThreadFunc observer group index)]) :
    ∃ rest, heldLocks rest = [] ∧ lockOrder.Reached running code
      (Function.update threads (.worker group index) (.run (hold .exclusive (.workerGroup group)
        (optionally (lookForJob index group))) :: rest)) := by
  have turned := reached.advance (by rw [begins]; exact .again) (by rw [begins]; rfl)
  have looks := turned.advance (by rw [Function.update_self]; exact .seq)
    (by rw [Function.update_self]; rfl)
  rw [Function.update_idem] at looks
  exact ⟨_, rfl, looks⟩

/-- A group of two workers. -/
def twoWorkers : WorkerGroup := ⟨(0, "Dungeon"), soleMatchRule, 2, by decide⟩

def twoWorkersCode : Thread → Code :=
  Thread.code ⟨fun _ => [soleMatchRule], fun _ => 2, fun _ => by decide⟩ countingObserver
    fun _ => []

/-- The thread of one worker looks for a job under the mutex of the group, and the thread of the
other waits for it. -/
theorem threads_never_circle_looking :
    ∃ threads, lockOrder.Reached {.worker (.solo twoWorkers) 0, .worker (.solo twoWorkers) 1}
        twoWorkersCode threads ∧
      lockOrder.Waits true threads (.worker (.solo twoWorkers) 1)
        (.worker (.solo twoWorkers) 0) ∧
      ∀ thread, ¬ Relation.TransGen (lockOrder.Waits true threads) thread thread := by
  have different : Thread.worker (.solo twoWorkers) 1 ≠ .worker (.solo twoWorkers) 0 := by
    simp
  -- Worker 0 locks the mutex of the group.
  have begun : lockOrder.Reached {.worker (.solo twoWorkers) 0, .worker (.solo twoWorkers) 1}
      twoWorkersCode _ := .refl
  have begins : ∀ index ∈ [0, 1], LockOrder.begin
      {.worker (.solo twoWorkers) 0, .worker (.solo twoWorkers) 1} twoWorkersCode
      (.worker (.solo twoWorkers) index) =
        [.run (workerThreadFunc countingObserver (.solo twoWorkers) index)] := by
    intro index chosen
    exact if_pos (by simpa using chosen)
  obtain ⟨rest, unlocked, first⟩ := exists_begun_turn begun (begins 0 (by simp))
  have inside := first.enter (Function.update_self _ _ _) fun other held => by
    by_cases same : other = .worker (.solo twoWorkers) 0
    · rw [same, Function.update_self]
      simp [heldLocks, unlocked]
    · rw [Function.update_of_ne same, heldLocks_begin]
      exact List.not_mem_nil
  rw [Function.update_idem] at inside
  -- Worker 1 comes to it.
  obtain ⟨later, -, second⟩ := exists_begun_turn inside
    ((Function.update_of_ne different _ _).trans (begins 1 (by simp)))
  refine ⟨_, second, ?_, threads_never_circle ranked_countingObserver second true⟩
  refine .holder ⟨_, _, Function.update_self _ _ _⟩
    (?_ : (LockMode.exclusive, Mutex.workerGroup (.solo twoWorkers)) ∈ _) (.inr rfl) fun same =>
      absurd same different.symm
  rw [Function.update_of_ne different.symm, Function.update_self]
  exact List.mem_cons_self

/-- Without the mutex of the group, a thread that reads the bounds of a request and one that
writes its level can wait for each other, where readers let waiting writers pass. -/
theorem unguarded_bounds_circle (group : ThreadGroup) (request : Nat) {reader writer : Thread}
    (different : reader ≠ writer) :
    ∃ threads, lockOrder.Reached {reader, writer} (fun thread =>
        if thread = reader then JobRequest.getMinWorkerIndex group request
        else JobRequest.setWorkerExpansionLevel group request) threads ∧
      Relation.TransGen (lockOrder.Waits true threads) reader reader :=
  lockOrder.exists_circle_of_reread different

end MatchmakingMvp.Locks
