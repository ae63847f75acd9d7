import MatchmakingMvp.Foundation.LockOrder
import MatchmakingMvp.System.WorkerThreads

/-! # The mutexes of the functions

Every object that threads share has a mutex, and so has every map of a manager. Here each
function is the scopes in which it holds them, in the order of the code; where a function
returns early or takes one of two branches both are kept. Scopes nest from the groups of
workers over workers, requests and sessions to tickets, and from the map of zones over a zone to
the index of its players (`MatchmakingMvp.Locks.lockOrder`). Two things do not follow a plain
order. The map of zones is recursive and is locked again by the operations made under it. And
`GetMinWorkerIndex` and `GetMaxWorkerIndex` read the mutex of a request twice, one scope in the
other; their callers hold the mutex of the group, as do those that write the level of the
request.
-/

namespace MatchmakingMvp.Locks

open Foundation

deriving instance DecidableEq for ThreadGroup

/-- The mutexes. Objects are told apart by their serial numbers. A request is new until a group
has it. An observer of created matches may have a mutex of its own. -/
inductive Mutex
  | matchCreatedObserver
  | observed
  | workerGroupMap (queue : QueueKind)
  | matchmakingRules (queue : QueueKind)
  | matchmaking (queue : QueueKind)
  | matchSessions
  | penalty
  | workerGroup (group : ThreadGroup)
  | worker (group : ThreadGroup) (index : Nat)
  | newJobRequest (serial : Nat)
  | jobRequest (group : ThreadGroup) (serial : Nat)
  | matchTicket (serial : Nat)
  | matchSession (serial : Nat)
  | zoneInstances
  | zonePlayers
  | zoneInstance (serial : Nat)

namespace Mutex

/-- How deep a mutex may be nested. -/
@[simp] def rank : Mutex → Nat
  | matchCreatedObserver => 0
  | workerGroup _ | zoneInstances => 1
  | worker _ _ | jobRequest _ _ | matchSession _ | zonePlayers | zoneInstance _ => 2
  | workerGroupMap _ | matchmakingRules _ | matchmaking _ | matchSessions | penalty | observed
  | newJobRequest _ | matchTicket _ => 3

/-- The maps of `TSafeMap.h`. -/
@[simp] def recursive : Mutex → Prop
  | matchmakingRules _ | zoneInstances | zonePlayers => True
  | _ => False

/-- The mutex under which the mutex of a request that a group has is locked. -/
@[simp] def guard : Mutex → Option Mutex
  | jobRequest group _ => some (workerGroup group)
  | _ => none

end Mutex

/-- The threads: callers from outside, the threads of workers, and the threads of groups. -/
inductive Thread
  | client (serial : Nat)
  | worker (group : ThreadGroup) (index : Nat)
  | workerGroup (group : ThreadGroup)
deriving DecidableEq

/-- Callers join the threads of workers. -/
@[simp] def Thread.level : Thread → Nat
  | client _ => 1
  | worker _ _ | workerGroup _ => 0

/-- The order of the mutexes and of the threads that join others. -/
@[simps] def lockOrder : LockOrder Mutex Thread where
  rank := Mutex.rank
  recursive := Mutex.recursive
  guard := Mutex.guard
  level := Thread.level

/-- The lock scopes and joins of a function. -/
abbrev Code := Locking Mutex Thread

/-- The code keeps the order where no mutex is held whose rank is not lower. -/
abbrev Ranked (rank : Nat) (code : Code) : Prop := lockOrder.Climbs [] rank code

open Locking LockOrder

/-! ## Tickets, sessions and requests -/

namespace MatchTicket

/-- `GetStatus` of a ticket. -/
def getStatus (ticket : Nat) : Code := read (.matchTicket ticket)

/-- `ForceSetStatus` of a ticket. -/
def forceSetStatus (ticket : Nat) : Code := write (.matchTicket ticket)

/-- `SetStatusReason` of a ticket. -/
def setStatusReason (ticket : Nat) : Code := write (.matchTicket ticket)

/-- `ChangeStatus` of a ticket. -/
def changeStatus (ticket : Nat) : Code := write (.matchTicket ticket)

/-- `ChangeStatusIfCurrent` of a ticket. -/
def changeStatusIfCurrent (ticket : Nat) : Code := write (.matchTicket ticket)

variable {guards : List Mutex} (ticket : Nat)

/-- A ticket is read inside any other scope. -/
theorem climbs_read : lockOrder.Climbs guards 3 (read (.matchTicket ticket)) :=
  LockOrder.climbs_read (by simp)

/-- A ticket is written inside any other scope. -/
theorem climbs_write : lockOrder.Climbs guards 3 (write (.matchTicket ticket)) :=
  LockOrder.climbs_write (by simp) (by simp)

end MatchTicket

namespace MatchSession

/-- `GetStatus` of a session. -/
def getStatus (session : Nat) : Code := read (.matchSession session)

/-- `ForceSetStatus` of a session. -/
def forceSetStatus (session : Nat) : Code := write (.matchSession session)

/-- `SetStatusReason` of a session and its tickets. -/
def setStatusReason (session : Nat) : Code :=
  hold .exclusive (.matchSession session) (forEach MatchTicket.setStatusReason)

/-- `ChangeStatus` of a session: the tickets are checked, moved and rolled back under its mutex,
each under its own. -/
def changeStatus (session : Nat) : Code :=
  hold .exclusive (.matchSession session)
    (seq (forEach MatchTicket.getStatus)
      (seq (forEach MatchTicket.changeStatusIfCurrent) (forEach MatchTicket.forceSetStatus)))

/-- `IsAllAcceptPlayerSession`. -/
def isAllAcceptPlayerSession (session : Nat) : Code := read (.matchSession session)

/-- `AcceptPlayerSession`. -/
def acceptPlayerSession (session : Nat) : Code := write (.matchSession session)

variable (session : Nat)

/-- A session is read inside the scopes of groups and zones at most. -/
theorem ranked_read : Ranked 2 (read (.matchSession session)) := climbs_read (by simp)

/-- A session is written inside the scopes of groups and zones at most. -/
theorem ranked_write : Ranked 2 (write (.matchSession session)) :=
  climbs_write (by simp) (by simp)

/-- The tickets are written inside the scope of their session. -/
theorem ranked_setStatusReason : Ranked 2 (setStatusReason session) := by
  unfold setStatusReason
  apply Climbs.exclusive _ (by simp) (by simp)
  exact .forEach MatchTicket.climbs_write

/-- The three loops run inside the scope of the session. -/
theorem ranked_changeStatus : Ranked 2 (changeStatus session) := by
  unfold changeStatus
  apply Climbs.exclusive _ (by simp) (by simp)
  apply Climbs.seq (.forEach MatchTicket.climbs_read)
  exact .seq (.forEach MatchTicket.climbs_write) (.forEach MatchTicket.climbs_write)

end MatchSession

namespace JobRequest

/-- `SetBaseWorkerIndex`, which is called on new requests only. -/
def setBaseWorkerIndex (request : Nat) : Code := write (.newJobRequest request)

/-- `GetBaseWorkerIndex`, on a new request. -/
def getNewBaseWorkerIndex (request : Nat) : Code := read (.newJobRequest request)

variable (group : ThreadGroup) (request : Nat)

/-- `GetBaseWorkerIndex`, on a request that a group has. -/
def getBaseWorkerIndex : Code := read (.jobRequest group request)

/-- `GetWorkerExpansionLevel`. -/
def getWorkerExpansionLevel : Code := read (.jobRequest group request)

/-- `SetWorkerExpansionLevel`. -/
def setWorkerExpansionLevel : Code := write (.jobRequest group request)

/-- `GetMinWorkerIndex`, which reads the level in a scope inside its own. -/
def getMinWorkerIndex : Code :=
  hold .shared (.jobRequest group request) (getWorkerExpansionLevel group request)

/-- `GetMaxWorkerIndex`, which reads the level in a scope inside its own. -/
def getMaxWorkerIndex : Code :=
  hold .shared (.jobRequest group request) (getWorkerExpansionLevel group request)

/-- A new request is written inside any other scope. -/
theorem ranked_setBaseWorkerIndex : Ranked 3 (setBaseWorkerIndex request) :=
  climbs_write (by simp) (by simp)

/-- A new request is read inside any other scope. -/
theorem ranked_getNewBaseWorkerIndex : Ranked 3 (getNewBaseWorkerIndex request) :=
  climbs_read (by simp)

/-- The index is read under the mutex of the group. -/
theorem climbs_getBaseWorkerIndex :
    lockOrder.Climbs [.workerGroup group] 2 (getBaseWorkerIndex group request) :=
  climbs_read (by simp)

/-- The level is read under the mutex of the group. -/
theorem climbs_getWorkerExpansionLevel :
    lockOrder.Climbs [.workerGroup group] 2 (getWorkerExpansionLevel group request) :=
  climbs_read (by simp)

/-- The level is written under the mutex of the group. -/
theorem climbs_setWorkerExpansionLevel :
    lockOrder.Climbs [.workerGroup group] 2 (setWorkerExpansionLevel group request) :=
  climbs_write (by simp) (by simp)

/-- The nested scopes keep the order under the mutex of the group. -/
theorem climbs_getMinWorkerIndex :
    lockOrder.Climbs [.workerGroup group] 2 (getMinWorkerIndex group request) :=
  climbs_skip.reread (by simp) rfl List.mem_cons_self

/-- The nested scopes of the upper bound, as those of the lower one. -/
theorem climbs_getMaxWorkerIndex :
    lockOrder.Climbs [.workerGroup group] 2 (getMaxWorkerIndex group request) :=
  climbs_skip.reread (by simp) rfl List.mem_cons_self

end JobRequest

/-! ## The maps of the matchmaking managers -/

namespace MatchmakingManager

variable (queue : QueueKind)

/-- `InsertMatchTicket`. -/
def insertMatchTicket : Code := write (.matchmaking queue)

/-- `EraseMatchTicket`. -/
def eraseMatchTicket : Code := write (.matchmaking queue)

/-- `FindMatchTicket`. -/
def findMatchTicket : Code := read (.matchmaking queue)

/-- `FindMatchTicketByPlayerKey`, in two scopes. -/
def findMatchTicketByPlayerKey : Code :=
  seq (read (.matchmaking queue)) (optionally (findMatchTicket queue))

/-- `GetMatchmakingRequestSize`. -/
def getMatchmakingRequestSize : Code := read (.matchmaking queue)

/-- `GetWorkerGroup`, under the mutex of the map of groups. -/
def getWorkerGroup : Code := read (.workerGroupMap queue)

/-- The insertion of a rule, under the mutex of the map of rules. -/
def insertMatchmakingRule : Code := write (.matchmakingRules queue)

/-- `OnExpireMatchmaking`. -/
def onExpireMatchmaking : Code := eraseMatchTicket queue

/-- The ticket is erased and told the reason unless its status refuses the change. -/
def onFailedMatchmaking (ticket : Nat) : Code :=
  seq (MatchTicket.changeStatus ticket)
    (optionally (seq (eraseMatchTicket queue) (MatchTicket.setStatusReason ticket)))

variable {guards : List Mutex} {queue}

/-- The maps of a manager are read inside any other scope. -/
theorem ranked_read : Ranked 3 (read (.matchmaking queue)) := climbs_read (by simp)

/-- The maps of a manager are written inside any other scope. -/
theorem ranked_write : Ranked 3 (write (.matchmaking queue)) := climbs_write (by simp) (by simp)

/-- The two scopes follow each other. -/
theorem ranked_findMatchTicketByPlayerKey : Ranked 3 (findMatchTicketByPlayerKey queue) :=
  .seq ranked_read (.optionally ranked_read)

/-- The map of groups is read inside any other scope. -/
theorem ranked_getWorkerGroup : Ranked 3 (getWorkerGroup queue) := climbs_read (by simp)

/-- The map of rules is written inside any other scope. -/
theorem ranked_insertMatchmakingRule : Ranked 3 (insertMatchmakingRule queue) :=
  climbs_write (by simp) (by simp)

/-- The ticket and the maps are locked one after the other. -/
theorem ranked_onFailedMatchmaking (ticket : Nat) :
    Ranked 3 (onFailedMatchmaking queue ticket) := by
  unfold onFailedMatchmaking
  apply Climbs.seq (MatchTicket.climbs_write ticket)
  exact .optionally (.seq ranked_write (MatchTicket.climbs_write ticket))

end MatchmakingManager

/-! ## Deferred jobs -/

namespace AsyncJobWorkerGroup

variable (group : JobGroup)

/-- Enqueue at the only worker of the group. -/
def enqueueJobRequest (request : Nat) : Code :=
  seq (JobRequest.setBaseWorkerIndex request)
    (seq (JobRequest.getNewBaseWorkerIndex request)
      (optionally (hold .exclusive (.workerGroup (.jobs group)) (write (.worker (.jobs group) 0)))))

/-- `DoAsyncJob`, with a new request. -/
def doAsyncJob : Code := any (enqueueJobRequest group)

/-- The mutex of the worker is taken under that of the group. -/
theorem ranked_doAsyncJob : Ranked 1 (doAsyncJob group) := by
  unfold doAsyncJob
  apply Climbs.any
  intro request
  unfold enqueueJobRequest
  apply Climbs.seq ((JobRequest.ranked_setBaseWorkerIndex request).mono (by simp) (by simp))
  apply Climbs.seq ((JobRequest.ranked_getNewBaseWorkerIndex request).mono (by simp) (by simp))
  apply Climbs.optionally
  apply Climbs.exclusive _ (by simp) (by simp)
  exact climbs_write (by simp) (by simp)

end AsyncJobWorkerGroup

namespace MatchPenaltyManager

/-- `AddDodgePenalty`, and the job that expires the penalty. -/
def addDodgePenalty : Code :=
  seq (write .penalty) (AsyncJobWorkerGroup.doAsyncJob .penalty)

/-- The removal of a penalty. -/
def clearDodgePenalty : Code := write .penalty

/-- `FindDodgePenalty`. -/
def findDodgePenalty : Code := read .penalty

/-- `HasDodgePenalty` of a request: each of its players. -/
def hasDodgePenalty : Code := loop findDodgePenalty

/-- The deferred job of a penalty. -/
def expireDodgePenalty : Code := seq findDodgePenalty (optionally clearDodgePenalty)

/-- The penalties are read inside any other scope. -/
theorem ranked_read : Ranked 3 (read .penalty) := climbs_read (by simp)

/-- The penalties are written inside any other scope. -/
theorem ranked_write : Ranked 3 (write .penalty) := climbs_write (by simp) (by simp)

/-- The job is scheduled after the scope of the penalties. -/
theorem ranked_addDodgePenalty : Ranked 1 addDodgePenalty :=
  .seq (ranked_write.mono (by simp) (by simp)) (AsyncJobWorkerGroup.ranked_doAsyncJob .penalty)

/-- The players are looked up one by one. -/
theorem ranked_hasDodgePenalty : Ranked 3 hasDodgePenalty := ranked_read.loop

/-- The penalty is found and cleared in two scopes. -/
theorem ranked_expireDodgePenalty : Ranked 3 expireDodgePenalty :=
  .seq ranked_read (.optionally ranked_write)

end MatchPenaltyManager

/-! ## Zones -/

namespace IntegrationZoneInstanceManager

/-- Removal under the recursive mutex of the map. -/
def erase : Code :=
  hold .exclusive .zoneInstances
    (seq (write .zoneInstances)
      (optionally (seq (any fun zone => read (.zoneInstance zone)) (loop (write .zonePlayers)))))

/-- Insertion of a new zone, which is removed again if a player is indexed already. -/
def insert (zone : Nat) : Code :=
  seq (hold .exclusive .zoneInstances
      (seq (write .zoneInstances)
        (optionally (seq (read (.zoneInstance zone)) (loop (write .zonePlayers))))))
    (either erase (AsyncJobWorkerGroup.doAsyncJob .zone))

/-- `Find`, under the recursive mutex of the map. -/
def find : Code := write .zoneInstances

/-- `FindByPlayerKey`: the index, and then the map. -/
def findByPlayerKey : Code := seq (write .zonePlayers) (optionally (write .zoneInstances))

/-- `EraseByPlayerKey`: the zone, perhaps its removal, and the index. -/
def eraseByPlayerKey : Code :=
  seq findByPlayerKey
    (optionally (any fun zone =>
      seq (write (.zoneInstance zone))
        (seq (read (.zoneInstance zone)) (seq (optionally erase) (write .zonePlayers)))))

/-- The job of a closed server is scheduled. -/
def processIntegrationServerClosed : Code := AsyncJobWorkerGroup.doAsyncJob .zone

/-- The zones are listed under the mutex of the map and erased without it. -/
def processIntegrationServerClosedAsync : Code := seq (write .zoneInstances) (loop erase)

/-- A zone is found, and erased or scheduled again. -/
def processZoneInstanceExpireAsync : Code :=
  seq find (optionally (either (AsyncJobWorkerGroup.doAsyncJob .zone) erase))

/-- A player is found, and its leave scheduled. -/
def processPlayerLeaveToIntegrationServer : Code :=
  seq findByPlayerKey (optionally (AsyncJobWorkerGroup.doAsyncJob .zone))

/-- A player leaves, perhaps with a penalty, which is looked up again. -/
def processPlayerLeavedFromIntegrationServer : Code :=
  seq eraseByPlayerKey
    (optionally (seq (optionally MatchPenaltyManager.addDodgePenalty)
      MatchPenaltyManager.findDodgePenalty))

/-- A zone is found and updated. -/
def processZoneInstanceInfoUpdatedFromIntegrationServer : Code :=
  seq find (optionally (any fun zone => write (.zoneInstance zone)))

/-- A zone is found, its players leave, and it is erased. -/
def processZoneInstanceTerminatedFromIntegrationServer : Code :=
  seq find (optionally (seq (loop processPlayerLeavedFromIntegrationServer) erase))

/-- The map of zones is locked outside the scopes of zones. -/
theorem ranked_instances : Ranked 1 (write .zoneInstances) := climbs_write (by simp) (by simp)

/-- The index is locked inside the scope of the map. -/
theorem climbs_players {guards : List Mutex} : lockOrder.Climbs guards 2 (write .zonePlayers) :=
  climbs_write (by simp) (by simp)

/-- A zone is read inside the scope of the map. -/
theorem climbs_readZone {guards : List Mutex} (zone : Nat) :
    lockOrder.Climbs guards 2 (read (.zoneInstance zone)) :=
  climbs_read (by simp)

/-- A zone is written inside the scope of the map. -/
theorem climbs_writeZone {guards : List Mutex} (zone : Nat) :
    lockOrder.Climbs guards 2 (write (.zoneInstance zone)) :=
  climbs_write (by simp) (by simp)

/-- An operation of the map and what follows it, under the mutex of the map. -/
private theorem ranked_underMap {code : Code}
    (climbs : lockOrder.Climbs [.zoneInstances] 2 code) :
    Ranked 1 (hold .exclusive .zoneInstances (seq (write .zoneInstances) (optionally code))) := by
  apply Climbs.exclusive _ (by simp) (by simp)
  apply Climbs.seq
  · exact climbs_skip.reentrant trivial List.mem_cons_self
  · exact .optionally climbs

/-- The zone and the index are locked under the map. -/
theorem ranked_erase : Ranked 1 erase := by
  unfold erase
  apply ranked_underMap
  exact .seq (.any climbs_readZone) climbs_players.loop

/-- The index is filled under the map, and undone or followed by a job without it. -/
theorem ranked_insert (zone : Nat) : Ranked 1 (insert zone) := by
  unfold insert
  apply Climbs.seq
  · apply ranked_underMap
    exact .seq (climbs_readZone zone) climbs_players.loop
  · exact .either ranked_erase (AsyncJobWorkerGroup.ranked_doAsyncJob .zone)

/-- The index and the map are locked one after the other. -/
theorem ranked_findByPlayerKey : Ranked 1 findByPlayerKey :=
  .seq (climbs_players.mono (by simp) (List.nil_subset _)) (.optionally ranked_instances)

/-- The scopes of the zone, its removal and the index follow each other. -/
theorem ranked_eraseByPlayerKey : Ranked 1 eraseByPlayerKey := by
  unfold eraseByPlayerKey
  apply Climbs.seq ranked_findByPlayerKey
  apply Climbs.optionally
  apply Climbs.any
  intro zone
  apply Climbs.seq ((climbs_writeZone zone).mono (by simp) (List.nil_subset _))
  apply Climbs.seq ((climbs_readZone zone).mono (by simp) (List.nil_subset _))
  exact .seq (.optionally ranked_erase) (climbs_players.mono (by simp) (List.nil_subset _))

/-- The zones are erased after the scope that lists them. -/
theorem ranked_processIntegrationServerClosedAsync :
    Ranked 1 processIntegrationServerClosedAsync :=
  .seq ranked_instances ranked_erase.loop

/-- The scopes follow each other. -/
theorem ranked_processZoneInstanceExpireAsync : Ranked 1 processZoneInstanceExpireAsync :=
  .seq ranked_instances
    (.optionally (.either (AsyncJobWorkerGroup.ranked_doAsyncJob .zone) ranked_erase))

/-- The job is scheduled after the look. -/
theorem ranked_processPlayerLeaveToIntegrationServer :
    Ranked 1 processPlayerLeaveToIntegrationServer :=
  .seq ranked_findByPlayerKey (.optionally (AsyncJobWorkerGroup.ranked_doAsyncJob .zone))

/-- The penalty is written after the zone is left. -/
theorem ranked_processPlayerLeavedFromIntegrationServer :
    Ranked 1 processPlayerLeavedFromIntegrationServer := by
  unfold processPlayerLeavedFromIntegrationServer
  apply Climbs.seq ranked_eraseByPlayerKey
  apply Climbs.optionally
  apply Climbs.seq (.optionally MatchPenaltyManager.ranked_addDodgePenalty)
  exact MatchPenaltyManager.ranked_read.mono (by simp) (by simp)

/-- The zone is written after the look. -/
theorem ranked_processZoneInstanceInfoUpdatedFromIntegrationServer :
    Ranked 1 processZoneInstanceInfoUpdatedFromIntegrationServer :=
  .seq ranked_instances (.optionally (.any fun zone =>
    (climbs_writeZone zone).mono (by simp) (List.nil_subset _)))

/-- The players leave one by one, and then the zone is erased. -/
theorem ranked_processZoneInstanceTerminatedFromIntegrationServer :
    Ranked 1 processZoneInstanceTerminatedFromIntegrationServer :=
  .seq ranked_instances
    (.optionally (.seq ranked_processPlayerLeavedFromIntegrationServer.loop ranked_erase))

end IntegrationZoneInstanceManager

/-! ## Sessions -/

namespace MatchSessionManager

/-- `InsertMatchSession`. -/
def insertMatchSession : Code := write .matchSessions

/-- `EraseMatchSession`. -/
def eraseMatchSession : Code := write .matchSessions

/-- `FindMatchSession`. -/
def findMatchSession : Code := read .matchSessions

/-- `FindMatchSessionByPlayerKey`, in two scopes. -/
def findMatchSessionByPlayerKey : Code :=
  seq (read .matchSessions) (optionally findMatchSession)

/-- `GetMatchSessionSize`. -/
def getMatchSessionSize : Code := read .matchSessions

/-- `SetMatchCreatedObserver`. -/
def setMatchCreatedObserver : Code := write .matchCreatedObserver

/-- `DoAsyncJob` of the session manager. -/
def doAsyncJob : Code := AsyncJobWorkerGroup.doAsyncJob .session

/-- `NotifyMatchmakingFailure`, to either manager. -/
def notifyMatchmakingFailure (ticket : Nat) : Code :=
  either (MatchmakingManager.onFailedMatchmaking .party ticket)
    (MatchmakingManager.onFailedMatchmaking .solo ticket)

/-- `ExpireMatchmakingOwnership`, at either manager. -/
def expireMatchmakingOwnership : Code :=
  optionally (either (MatchmakingManager.onExpireMatchmaking .party)
    (MatchmakingManager.onExpireMatchmaking .solo))

/-- `OnFailedMatchSession`. Where the change is refused only the status is read. -/
def onFailedMatchSession : Code :=
  seq findMatchSession (optionally (any fun session =>
    seq (MatchSession.changeStatus session)
      (either (MatchSession.getStatus session)
        (seq eraseMatchSession (MatchSession.setStatusReason session)))))

/-- Creation of a session. The observer is called under the mutex of the observer. -/
def createMatchSession (observer : Code) : Code :=
  optionally (either (forEach notifyMatchmakingFailure) (any fun session =>
    seq (MatchSession.forceSetStatus session)
      (seq (hold .shared .matchCreatedObserver (optionally observer))
        (seq insertMatchSession
          (either (seq eraseMatchSession (forEach notifyMatchmakingFailure))
            (seq (MatchSession.changeStatus session)
              (either onFailedMatchSession
                (seq (loop expireMatchmakingOwnership) (seq doAsyncJob (loop doAsyncJob))))))))))

/-- What both timeouts do to a session. -/
def onTimeOut : Code :=
  seq findMatchSession (optionally (any fun session =>
    seq (MatchSession.getStatus session)
      (optionally (seq (MatchSession.changeStatus session)
        (optionally (seq eraseMatchSession (MatchSession.setStatusReason session)))))))

/-- `OnTimeOutAcceptMatchSession`. -/
def onTimeOutAcceptMatchSession : Code := onTimeOut

/-- `OnTimeOutPlaceMatchSession`. -/
def onTimeOutPlaceMatchSession : Code := onTimeOut

/-- `PlaceMatchSession`. -/
def placeMatchSession : Code :=
  seq findMatchSession (optionally (any fun session =>
    seq (MatchSession.getStatus session)
      (optionally (seq (MatchSession.changeStatus session)
        (either onFailedMatchSession (seq doAsyncJob doAsyncJob))))))

/-- `AcceptMatchSession`. -/
def acceptMatchSession : Code :=
  seq findMatchSessionByPlayerKey (optionally (any fun session =>
    seq (MatchSession.isAllAcceptPlayerSession session)
      (optionally (seq (MatchSession.getStatus session)
        (optionally (seq (MatchSession.acceptPlayerSession session)
          (optionally (either
            (seq MatchPenaltyManager.addDodgePenalty onFailedMatchSession)
            (seq (MatchSession.isAllAcceptPlayerSession session)
              (optionally placeMatchSession))))))))))

/-- Completion of a session. What fails is reported at the end. -/
def onCompleteMatchSession : Code :=
  either onFailedMatchSession
    (seq findMatchSession
      (either onFailedMatchSession (any fun session => any fun zone =>
        seq (IntegrationZoneInstanceManager.insert zone)
          (either onFailedMatchSession
            (seq (MatchSession.changeStatus session)
              (either (seq IntegrationZoneInstanceManager.erase onFailedMatchSession)
                eraseMatchSession))))))

/-- The sessions are read outside the scope of a session. -/
theorem ranked_read : Ranked 1 (read .matchSessions) := climbs_read (by simp)

/-- The sessions are written outside the scope of a session. -/
theorem ranked_write : Ranked 1 (write .matchSessions) := climbs_write (by simp) (by simp)

/-- The two scopes follow each other. -/
theorem ranked_findMatchSessionByPlayerKey : Ranked 1 findMatchSessionByPlayerKey :=
  .seq ranked_read (.optionally ranked_read)

/-- The observer is set outside all other scopes. -/
theorem ranked_setMatchCreatedObserver : Ranked 0 setMatchCreatedObserver :=
  climbs_write (by simp) (by simp)

/-- The failure of a ticket, whichever manager it is reported to. -/
theorem ranked_notifyMatchmakingFailure (ticket : Nat) :
    Ranked 1 (notifyMatchmakingFailure ticket) :=
  .mono (.either (MatchmakingManager.ranked_onFailedMatchmaking ticket)
    (MatchmakingManager.ranked_onFailedMatchmaking ticket)) (by simp) (List.Subset.refl _)

/-- The maps of one manager are written. -/
theorem ranked_expireMatchmakingOwnership : Ranked 1 expireMatchmakingOwnership :=
  .mono (.optionally (.either MatchmakingManager.ranked_write MatchmakingManager.ranked_write))
    (by simp) (List.Subset.refl _)

/-- The change of a session's status, with its tickets. -/
theorem ranked_changeStatus (session : Nat) : Ranked 1 (MatchSession.changeStatus session) :=
  (MatchSession.ranked_changeStatus session).mono (by simp) (by simp)

/-- The look at a session's status. -/
theorem ranked_getStatus (session : Nat) : Ranked 1 (read (.matchSession session)) :=
  (MatchSession.ranked_read session).mono (by simp) (by simp)

/-- The change of a session alone. -/
theorem ranked_set (session : Nat) : Ranked 1 (write (.matchSession session)) :=
  (MatchSession.ranked_write session).mono (by simp) (by simp)

/-- A session that has ended is erased and told the reason. -/
private theorem ranked_erased (session : Nat) :
    Ranked 1 (seq eraseMatchSession (MatchSession.setStatusReason session)) :=
  .seq ranked_write ((MatchSession.ranked_setStatusReason session).mono (by simp) (by simp))

/-- The session is found, changed and erased in scopes of their own. -/
theorem ranked_onFailedMatchSession : Ranked 1 onFailedMatchSession := by
  unfold onFailedMatchSession
  apply Climbs.seq ranked_read
  refine .optionally (.any fun session => ?_)
  apply Climbs.seq (ranked_changeStatus session)
  exact .either (ranked_getStatus session) (ranked_erased session)

/-- The job of a session. -/
theorem ranked_doAsyncJob : Ranked 1 doAsyncJob := AsyncJobWorkerGroup.ranked_doAsyncJob .session

/-- The observer is called under its own mutex, and everything else after it. -/
theorem ranked_createMatchSession {observer : Code} (ranked : Ranked 1 observer) :
    Ranked 0 (createMatchSession observer) := by
  have failures : Ranked 0 (forEach notifyMatchmakingFailure) :=
    .forEach fun ticket => (ranked_notifyMatchmakingFailure ticket).mono (by simp) (by simp)
  unfold createMatchSession
  apply Climbs.optionally
  apply Climbs.either failures
  apply Climbs.any
  intro session
  apply Climbs.seq ((ranked_set session).mono (by simp) (by simp))
  apply Climbs.seq
  · exact .shared (.optionally ranked) (by simp)
  apply Climbs.seq (ranked_write.mono (by simp) (by simp))
  apply Climbs.either
  · exact .seq (ranked_write.mono (by simp) (by simp)) failures
  apply Climbs.seq ((ranked_changeStatus session).mono (by simp) (by simp))
  apply Climbs.either (ranked_onFailedMatchSession.mono (by simp) (by simp))
  apply Climbs.seq (ranked_expireMatchmakingOwnership.mono (by simp) (by simp)).loop
  exact .mono (.seq ranked_doAsyncJob ranked_doAsyncJob.loop) (by simp) (by simp)

/-- The session is found, read, changed and erased in scopes of their own. -/
theorem ranked_onTimeOut : Ranked 1 onTimeOut := by
  unfold onTimeOut
  apply Climbs.seq ranked_read
  refine .optionally (.any fun session => ?_)
  apply Climbs.seq (ranked_getStatus session)
  exact .optionally (.seq (ranked_changeStatus session) (.optionally (ranked_erased session)))

/-- The session is found, read and changed, and the jobs follow. -/
theorem ranked_placeMatchSession : Ranked 1 placeMatchSession := by
  unfold placeMatchSession
  apply Climbs.seq ranked_read
  refine .optionally (.any fun session => ?_)
  apply Climbs.seq (ranked_getStatus session)
  apply Climbs.optionally
  apply Climbs.seq (ranked_changeStatus session)
  exact .either ranked_onFailedMatchSession (.seq ranked_doAsyncJob ranked_doAsyncJob)

/-- The response is recorded in a scope of its own, and what follows from it comes after. -/
theorem ranked_acceptMatchSession : Ranked 1 acceptMatchSession := by
  unfold acceptMatchSession
  apply Climbs.seq ranked_findMatchSessionByPlayerKey
  refine .optionally (.any fun session => ?_)
  apply Climbs.seq (ranked_getStatus session)
  apply Climbs.optionally
  apply Climbs.seq (ranked_getStatus session)
  apply Climbs.optionally
  apply Climbs.seq (ranked_set session)
  apply Climbs.optionally
  apply Climbs.either
  · exact .seq MatchPenaltyManager.ranked_addDodgePenalty ranked_onFailedMatchSession
  · exact .seq (ranked_getStatus session) (.optionally ranked_placeMatchSession)

/-- The zone is inserted and the session completed one after the other. -/
theorem ranked_onCompleteMatchSession : Ranked 1 onCompleteMatchSession := by
  unfold onCompleteMatchSession
  apply Climbs.either ranked_onFailedMatchSession
  apply Climbs.seq ranked_read
  apply Climbs.either ranked_onFailedMatchSession
  refine .any fun session => .any fun zone => ?_
  apply Climbs.seq (IntegrationZoneInstanceManager.ranked_insert zone)
  apply Climbs.either ranked_onFailedMatchSession
  apply Climbs.seq (ranked_changeStatus session)
  exact .either (.seq IntegrationZoneInstanceManager.ranked_erase ranked_onFailedMatchSession)
    ranked_write

end MatchSessionManager

end MatchmakingMvp.Locks
