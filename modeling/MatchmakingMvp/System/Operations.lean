import MatchmakingMvp.Foundation.Interleaving
import MatchmakingMvp.System.World

/-! # The operations of the managers

Every member function of the managers as a program of critical sections. A
program continues with what a section returned; a complete operation is its
run, and concurrent operations are an interleaving of their programs.
-/

namespace MatchmakingMvp

open Foundation

/-- An operation of the system: a program of critical sections on its state. -/
abbrev Operation (Result : Type) := Program Section World Result

/-- Read the state without changing it. -/
def readWorld {Result : Type} (reading : World → Result) : Operation Result :=
  Program.atomically .read reading

/-- `time_msec`: the time now. -/
def timeMsec : Operation Int := readWorld fun world => world.timeMsec

/-- Perform an operation for every element, in order. -/
def forAll {Element : Type} (elements : List Element) (operation : Element → Operation Unit) :
    Operation Unit :=
  match elements with
  | [] => pure ()
  | element :: rest => do
      operation element
      forAll rest operation

/-- Perform an operation for every element, in order, and return whether one of
them returned true. -/
def anyOf {Element : Type} (elements : List Element) (operation : Element → Operation Bool) :
    Operation Bool :=
  match elements with
  | [] => pure false
  | element :: rest => do
      let processed ← operation element
      let others ← anyOf rest operation
      return processed || others

/-! ## Penalties -/

namespace MatchPenaltyManager

/-- `AddDodgePenalty`: record when the penalty of a player expires, and schedule its expiry. -/
def addDodgePenalty (playerKey : PlayerKey) (penaltyExpireTimeMsec : Int) : Operation Unit := do
  Program.atomically (.setDodgePenalty playerKey penaltyExpireTimeMsec) fun _ => ()
  Program.atomically (.addPenaltyJob penaltyExpireTimeMsec playerKey) fun _ => ()

/-- `FindDodgePenalty`: when the penalty of a player expires, if there is one. -/
def findDodgePenalty (playerKey : PlayerKey) : Operation (Option Int) :=
  readWorld fun world => world.dodgePenalties playerKey

/-- The job that expires a penalty. -/
def expireDodgePenalty (playerKey : PlayerKey) : Operation Unit := do
  match ← findDodgePenalty playerKey with
  | none => return ()
  | some penaltyExpireTimeMsec =>
      if penaltyExpireTimeMsec % 2 ^ 64 ≤ (← timeMsec) then
        Program.atomically (.clearDodgePenalty playerKey) fun _ => ()

/-- Whether one of the players has a penalty at a moment. -/
def hasDodgePenaltyAt (currTimeMsec : Int) : List PlayerKey → Operation Bool
  | [] => pure false
  | playerKey :: rest => do
      match ← findDodgePenalty playerKey with
      | none => hasDodgePenaltyAt currTimeMsec rest
      | some penaltyExpireTimeMsec =>
          if penaltyExpireTimeMsec > currTimeMsec then return true
          else hasDodgePenaltyAt currTimeMsec rest

/-- `HasDodgePenalty` of a request: whether one of its players has a penalty now. -/
def hasDodgePenalty (request : MatchTicketRequest) : Operation Bool := do
  hasDodgePenaltyAt (← timeMsec) request.players.elements

end MatchPenaltyManager

/-! ## Zone instances -/

namespace IntegrationZoneInstanceManager

/-- `Find`: the zone under a key. -/
def find (key : IntegrationZoneInstanceKey) : Operation (Option IntegrationZoneInstance) :=
  readWorld fun world => world.zones.find key

/-- `FindByPlayerKey`: the zone a player is indexed under. -/
def findByPlayerKey (playerKey : PlayerKey) : Operation (Option IntegrationZoneInstance) := do
  match ← readWorld fun world => world.zones.findMapByPlayerKey playerKey with
  | none => return none
  | some key => find key

/-- `Erase`: remove the zone under a key, whichever it is, and its players from the index. -/
def erase (key : IntegrationZoneInstanceKey) : Operation (Option IntegrationZoneInstance) :=
  Program.atomically (.eraseZoneInstance key)
    fun world => (world.zones.erase key world.playerSessions).1

/-- How long a zone lives without an update. -/
def kExpireDelayMsec : Int := 10 * 1000

/-- `GetExpireTimeMSec`: when a zone expires unless it is updated again. -/
def getExpireTimeMsec (zone : IntegrationZoneInstance) : Operation Int :=
  readWorld fun world => world.zoneUpdateTimeMsec zone + kExpireDelayMsec

/-- `Insert`: make a zone, index its players and schedule its expiry. Where a player is indexed
already, the zone under the key is erased again. -/
def insert (info : Option IntegrationZoneInstanceInfo) :
    Operation (Option IntegrationZoneInstance) := do
  match info with
  | none => return none
  | some info =>
      let zone ← Program.atomically (.newZoneInstance info) fun world => world.newZoneInstance info
      let insertResult ← Program.atomically (.insertZoneInstance zone)
        fun world => (world.zones.insertSection zone (world.playerSessions zone)).1
      if insertResult = false then
        let _ ← erase zone.integrationZoneInstanceKey
        return none
      let expireTimeMsec ← getExpireTimeMsec zone
      Program.atomically (.addZoneJob expireTimeMsec (.expire zone.integrationZoneInstanceKey))
        fun _ => ()
      return some zone

/-- `EraseByPlayerKey`: take a player out of the zone it is indexed under, and erase a zone
without players. -/
def eraseByPlayerKey (playerKey : PlayerKey) : Operation (Option IntegrationZoneInstance) := do
  match ← findByPlayerKey playerKey with
  | none => return none
  | some zone =>
      Program.atomically (.removePlayerSession zone playerKey) fun _ => ()
      if ← readWorld fun world => (world.playerSessions zone).elements.isEmpty then
        let _ ← erase zone.integrationZoneInstanceKey
      Program.atomically (.eraseZonePlayer playerKey) fun _ => ()
      return some zone

/-- Schedule the removal of the zones of an integration server. -/
def processIntegrationServerClosed (sessionKey : Int) (worldNo : Int) : Operation Unit := do
  let now ← timeMsec
  Program.atomically (.addZoneJob now (.serverClosed sessionKey worldNo)) fun _ => ()

/-- Erase the zones of an integration server that was closed. -/
def processIntegrationServerClosedAsync (sessionKey : Int) (worldNo : Int) : Operation Unit := do
  let zones ← readWorld fun world => world.zones.instanceMap.values
  forAll zones fun zone =>
    if zone.worldNo ≠ worldNo then return ()
    else if zone.worldSessionKey < 0 ∨ sessionKey < 0 then return ()
    else if zone.worldSessionKey = sessionKey then do
      let _ ← erase zone.integrationZoneInstanceKey
    else return ()

/-- The deferred job of a zone: erase it, or schedule the job again if the zone was updated. -/
def processZoneInstanceExpireAsync (key : IntegrationZoneInstanceKey) : Operation Unit := do
  match ← find key with
  | none => return ()
  | some zone =>
      let expireTimeMsec ← getExpireTimeMsec zone
      if expireTimeMsec % 2 ^ 64 > (← timeMsec) then
        let expireTimeMsec ← getExpireTimeMsec zone
        Program.atomically (.addZoneJob expireTimeMsec (.expire zone.integrationZoneInstanceKey))
          fun _ => ()
      else
        let _ ← erase key

/-- Schedule that a player leaves the zone it is in, and return whether there is one. -/
def processPlayerLeaveToIntegrationServer (playerKey : PlayerKey) (isDodge : Bool) :
    Operation Bool := do
  match ← findByPlayerKey playerKey with
  | none => return false
  | some _ =>
      let now ← timeMsec
      Program.atomically (.addZoneJob now (.playerLeaved playerKey isDodge)) fun _ => ()
      return true

/-- A player leaves its zone, with a penalty if it dodges. -/
def processPlayerLeavedFromIntegrationServer (playerKey : PlayerKey) (isDodge : Bool) :
    Operation Unit := do
  match ← eraseByPlayerKey playerKey with
  | none => return ()
  | some _ =>
      if isDodge then
        MatchPenaltyManager.addDodgePenalty playerKey ((← timeMsec) + 15000)
      let _ ← MatchPenaltyManager.findDodgePenalty playerKey

/-- A zone is updated, which puts off its expiry. -/
def processZoneInstanceInfoUpdatedFromIntegrationServer (key : IntegrationZoneInstanceKey) :
    Operation Unit := do
  match ← find key with
  | none => return ()
  | some zone => Program.atomically (.updateZoneInstance zone) fun _ => ()

/-- A zone ends: its players leave, those who did not pay as dodgers, and it is erased. -/
def processZoneInstanceTerminatedFromIntegrationServer (info : IntegrationZoneInstanceInfo) :
    Operation Unit := do
  let key : IntegrationZoneInstanceKey := toLex (info.worldNo, info.zoneGuid)
  match ← find key with
  | none => return ()
  | some _ =>
      forAll info.players.elements fun playerKey =>
        processPlayerLeavedFromIntegrationServer playerKey
          (!info.paidPlayers.elements.contains playerKey)
      let _ ← erase key

end IntegrationZoneInstanceManager

/-! ## What both matchmaking managers do alike -/

namespace MatchmakingManager

variable (queue : QueueKind)

/-- `InsertMatchTicket`: record a ticket under its id and its players, all or nothing. -/
def insertMatchTicket (ticket : MatchTicket) : Operation Bool :=
  Program.atomically (.insertMatchTicket queue ticket)
    fun world => ((world.tickets queue).insertMatchTicket ticket).1

/-- `EraseMatchTicket`: forget the ticket recorded under an id. -/
def eraseMatchTicket (matchTicketId : MatchTicketId) : Operation (Option MatchTicket) :=
  Program.atomically (.eraseMatchTicket queue matchTicketId)
    fun world => ((world.tickets queue).eraseMatchTicket matchTicketId).1

/-- `FindMatchTicket`: the ticket recorded under an id. -/
def findMatchTicket (matchTicketId : MatchTicketId) : Operation (Option MatchTicket) :=
  readWorld fun world => (world.tickets queue).items matchTicketId

/-- `FindMatchTicketByPlayerKey`: the ticket a player is indexed under, looked up by its id in a
section of its own. -/
def findMatchTicketByPlayerKey (playerKey : PlayerKey) : Operation (Option MatchTicket) := do
  match ← readWorld fun world => (world.tickets queue).owner playerKey with
  | none => return none
  | some matchTicketId => findMatchTicket queue matchTicketId

end MatchmakingManager

/-- `CMatchTicket::ChangeStatus` as a section of its own. -/
def changeTicketStatus (ticket : MatchTicket) (status : MatchTicketStatus) : Operation Bool :=
  Program.atomically (.changeTicketStatus ticket status)
    fun world => (ticket.changeStatus status world.ticketStatus).1

namespace MatchmakingManager

variable (queue : QueueKind)

/-- `OnFailedMatchmaking`: fail a ticket and forget what is recorded under its id. -/
def onFailedMatchmaking (ticket : MatchTicket) : Operation Unit := do
  if (← changeTicketStatus ticket .failed) = false then
    return ()
  let _ ← eraseMatchTicket queue ticket.matchTicketId

/-- `OnExpireMatchmaking`: forget the ticket recorded under an id. -/
def onExpireMatchmaking (matchTicketId : MatchTicketId) : Operation Unit := do
  let _ ← eraseMatchTicket queue matchTicketId

/-- Make a ticket and the request that carries it to a worker group. -/
def makeMatchTicket (matchWorldGroupId : Int) (request : MatchTicketRequest) :
    Operation MatchTicket :=
  Program.atomically (.newMatchTicket queue matchWorldGroupId request)
    fun world => world.newMatchTicket matchWorldGroupId request

end MatchmakingManager

/-! ## Sessions -/

/-- Whether the session manager takes a ticket for one of the party queue. -/
def MatchTicket.isPartyTicket (ticket : MatchTicket) : Bool :=
  decide (ticket.matchTicketRequest.partyKey > 0 ∨ ticket.players.length > 1)

/-- The queue the session manager reports a ticket to. -/
def MatchTicket.presumedQueue (ticket : MatchTicket) : QueueKind :=
  if ticket.isPartyTicket then .party else .solo

namespace MatchSessionManager

/-- `NotifyMatchmakingFailure`: report a failed ticket to its presumed queue. -/
def notifyMatchmakingFailure (ticket : MatchTicket) : Operation Unit :=
  MatchmakingManager.onFailedMatchmaking ticket.presumedQueue ticket

/-- `ExpireMatchmakingOwnership`: make the presumed queue of a ticket forget it. -/
def expireMatchmakingOwnership (ticket : MatchTicket) : Operation Unit :=
  MatchmakingManager.onExpireMatchmaking ticket.presumedQueue ticket.matchTicketId

/-- `InsertMatchSession`: register a session under its match id and its players, all or nothing.
-/
def insertMatchSession (session : MatchSession) : Operation Bool :=
  Program.atomically (.insertMatchSession session)
    fun world => (world.matchSessions.insertMatchSession session).1

/-- `EraseMatchSession`: deregister the session under a match id, whichever it is. -/
def eraseMatchSession (matchId : MatchId) : Operation (Option MatchSession) :=
  Program.atomically (.eraseMatchSession matchId)
    fun world => (world.matchSessions.eraseMatchSession matchId).1

/-- `FindMatchSession`: the session registered under a match id. -/
def findMatchSession (matchId : MatchId) : Operation (Option MatchSession) :=
  readWorld fun world => world.matchSessions.items matchId

/-- `FindMatchSessionByPlayerKey`: the session a player is indexed under, looked up by its match
id in a section of its own. -/
def findMatchSessionByPlayerKey (playerKey : PlayerKey) : Operation (Option MatchSession) := do
  match ← readWorld fun world => world.matchSessions.owner playerKey with
  | none => return none
  | some matchId => findMatchSession matchId

/-- `CMatchSession::GetStatus`. -/
def getStatus (session : MatchSession) : Operation MatchTicketStatus :=
  readWorld fun world => (world.sessionState session).status

/-- `CMatchSession::ChangeStatus`: move a session and all its tickets, or none of them. -/
def changeStatus (session : MatchSession) (status : MatchTicketStatus) : Operation Bool :=
  Program.atomically (.changeSessionStatus session status)
    fun world => (world.changeSessionStatus session status).1

/-- `DoAsyncJob`: schedule a job of the session manager. -/
def doAsyncJob (executeTimeMsec : Int) (job : SessionJob) : Operation Unit :=
  Program.atomically (.addSessionJob executeTimeMsec job) fun _ => ()

/-- `OnFailedMatchSession`: fail the session under a match id with its tickets, and deregister it.
-/
def onFailedMatchSession (matchId : MatchId) : Operation Unit := do
  match ← findMatchSession matchId with
  | none => return ()
  | some session =>
      if (← changeStatus session .failed) = false then
        return ()
      let _ ← eraseMatchSession matchId

/-- How long the players may take to accept. -/
def kAcceptTimeoutMsec : Int := 60 * 1000

/-- How long the placement may take. -/
def kPlaceTimeoutMsec : Int := 10 * 1000

/-- After how long the demo completes a placement. -/
def kDemoCompletionDelayMsec : Int := 2 * 1000

/-- After how long the demo accepts for the next player. -/
def kDemoAutoAcceptDelayMsec : Int := 1000

/-- Schedule the demo's acceptance of every player, one second after another. -/
def scheduleAutoAccepts : Int → List PlayerKey → Operation Unit
  | _, [] => pure ()
  | order, playerKey :: rest => do
      let now ← timeMsec
      doAsyncJob (now + kDemoAutoAcceptDelayMsec * (order + 1)) (.accept playerKey)
      scheduleAutoAccepts (order + 1) rest

/-- `CreateMatchSession`: register a session of the tickets, ask its players, take the tickets
from their queues and schedule the timeout and the demo's acceptances. A registration that is
refused erases what is registered under the match id. -/
def createMatchSession (key : MatchmakingGroupKey) (tickets : TicketSet) : Operation Unit := do
  Program.atomically (.enterCreateMatchSession key tickets) fun _ => ()
  match tickets.1.head? with
  | none => return ()
  | some ticket =>
      let matchId := ticket.matchTicketId
      match ← Program.atomically (.nextIntegrationWorldNo key.1)
          (fun world => world.getNextIntegrationWorldNo key.1) with
      | none => return ()
      | some integrationWorldNo =>
          if integrationWorldNo = -1 then
            forAll tickets.1 notifyMatchmakingFailure
            return ()
          let session ← Program.atomically
            (.newMatchSession key.2 integrationWorldNo matchId tickets)
            fun world => world.newMatchSession key.2 integrationWorldNo matchId tickets
          Program.atomically (.forceSessionStatus session .searching) fun _ => ()
          if (← insertMatchSession session) = false then
            let _ ← eraseMatchSession matchId
            forAll tickets.1 notifyMatchmakingFailure
            return ()
          if (← changeStatus session .requiresAcceptance) = false then
            onFailedMatchSession matchId
            return ()
          forAll tickets.1 expireMatchmakingOwnership
          let now ← timeMsec
          doAsyncJob (now + kAcceptTimeoutMsec) (.timeOutAccept matchId)
          scheduleAutoAccepts 0 session.ticketPlayers

/-- `OnTimeOutAcceptMatchSession`: the session times out if it still asks its players. -/
def onTimeOutAcceptMatchSession (matchId : MatchId) : Operation Unit := do
  match ← findMatchSession matchId with
  | none => return ()
  | some session =>
      if (← getStatus session) ≠ .requiresAcceptance then
        return ()
      if (← changeStatus session .timedOut) = false then
        return ()
      let _ ← eraseMatchSession matchId

/-- `OnTimeOutPlaceMatchSession`: the session times out if it is still being placed. -/
def onTimeOutPlaceMatchSession (matchId : MatchId) : Operation Unit := do
  match ← findMatchSession matchId with
  | none => return ()
  | some session =>
      if (← getStatus session) ≠ .placing then
        return ()
      if (← changeStatus session .timedOut) = false then
        return ()
      let _ ← eraseMatchSession matchId

/-- `IsAllAcceptPlayerSession`: whether every player of the session has accepted. -/
def isAllAcceptPlayerSession (session : MatchSession) : Operation Bool :=
  readWorld fun world => (world.sessionState session).isAllAcceptPlayerSession

/-- `AcceptPlayerSession`: record the first response of a player. -/
def acceptPlayerSession (session : MatchSession) (acceptInfo : PlayerMatchAcceptInfo) :
    Operation Bool :=
  Program.atomically (.acceptPlayerSession session acceptInfo)
    fun world => ((world.sessionState session).acceptPlayerSession acceptInfo).1

/-- `PlaceMatchSession`: move the session to placing and schedule its timeout and the demo's
completion. A move that is refused fails the session. -/
def placeMatchSession (matchId : MatchId) : Operation Unit := do
  match ← findMatchSession matchId with
  | none => return ()
  | some session =>
      if (← getStatus session) = .placing then
        return ()
      if (← changeStatus session .placing) = false then
        onFailedMatchSession session.matchId
        return ()
      let currTimeMsec ← timeMsec
      doAsyncJob (currTimeMsec + kPlaceTimeoutMsec) (.timeOutPlace matchId)
      let players ← readWorld fun world => (world.sessionState session).players
      doAsyncJob (currTimeMsec + kDemoCompletionDelayMsec)
        (.complete
          { matchId := matchId
            zoneGuid := matchId
            zoneId := session.matchZoneId
            worldNo := session.matchWorldNo
            worldSessionKey := matchId
            players := players })

/-- `AcceptMatchSession`: a player's response to the session it is indexed under. A decline fails
the session and is penalised, and the last acceptance places the session. -/
def acceptMatchSession (acceptInfo : PlayerMatchAcceptInfo) : Operation Unit := do
  match ← findMatchSessionByPlayerKey acceptInfo.playerKey with
  | none => return ()
  | some session =>
      if ← isAllAcceptPlayerSession session then
        return ()
      if (← getStatus session) ≠ .requiresAcceptance then
        return ()
      if (← acceptPlayerSession session acceptInfo) = false then
        return ()
      if acceptInfo.isAccept = false then
        MatchPenaltyManager.addDodgePenalty acceptInfo.playerKey ((← timeMsec) + 15000)
        onFailedMatchSession session.matchId
        return ()
      if ← isAllAcceptPlayerSession session then
        placeMatchSession session.matchId

/-- `OnCompleteMatchSession`: insert the zone of a placed session and complete the session, or
fail it. -/
def onCompleteMatchSession (info : IntegrationZoneInstanceInfo) (success : Bool) :
    Operation Unit := do
  if success = false then
    onFailedMatchSession info.matchId
    return ()
  match ← findMatchSession info.matchId with
  | none => onFailedMatchSession info.matchId
  | some session =>
      match ← IntegrationZoneInstanceManager.insert (some info) with
      | none => onFailedMatchSession info.matchId
      | some zone =>
          if (← changeStatus session .completed) = false then
            let _ ← IntegrationZoneInstanceManager.erase zone.integrationZoneInstanceKey
            onFailedMatchSession info.matchId
            return ()
          let _ ← eraseMatchSession info.matchId

end MatchSessionManager

/-! ## Worker groups -/

namespace SoloMatchmakingWorkerGroup

/-- `EnqueueJobRequest` of a solo group: the ticket becomes queued, and then the worker of its id
takes it. -/
def enqueueJobRequest (group : WorkerGroup) (request : MatchmakingRequest) : Operation Bool := do
  match request.matchTicketPtr with
  | none => return false
  | some ticket =>
      if group.matchmakingRule.combination.contains request.playerCount = false then
        return false
      if (← changeTicketStatus ticket .queued) = false then
        return false
      let baseWorkerIndex := getWorkerIndex group.workerCount ticket.matchTicketId
      Program.atomically (.setBaseWorkerIndex request baseWorkerIndex) fun _ => ()
      if hasWorker group.workerCount baseWorkerIndex = false then
        return false
      Program.atomically (.soloEnqueue group baseWorkerIndex request ticket)
        fun world => (world.soloEnqueue group baseWorkerIndex request ticket).1

/-- `CancelMatchTicket` of a solo group: at the worker of the ticket's id. -/
def cancelMatchTicket (group : WorkerGroup) (ticket : MatchTicket) : Operation Bool := do
  let index := getWorkerIndex group.workerCount ticket.matchTicketId
  if hasWorker group.workerCount index then
    Program.atomically (.soloCancel group index ticket)
      fun world => (world.soloCancel group index ticket).1
  else return false

/-- A run of one worker of the group. -/
def doWorkerAsyncJob (group : WorkerGroup) (workerId : Int) (order : IterationOrder MatchTicket) :
    Operation Bool := do
  if hasWorker group.workerCount workerId = false then
    return false
  match ← Program.atomically (.soloRun group workerId)
      (fun world => (world.soloRun group workerId).1) with
  | .incomplete => return false
  | .matched tickets => do
      MatchSessionManager.createMatchSession group.workerGroupKey (TicketSet.ofList order tickets)
      return true
  | .rejected tickets => do
      forAll (TicketSet.ofList order tickets).1 (MatchmakingManager.onFailedMatchmaking .solo)
      return true

end SoloMatchmakingWorkerGroup

namespace PartyMatchmakingWorkerGroup

/-- `EnqueueJobRequest` of a party group, at the worker of the ticket's id. -/
def enqueueJobRequest (group : WorkerGroup) (request : MatchmakingRequest) : Operation Bool := do
  match request.matchTicketPtr with
  | none => return false
  | some ticket =>
      if group.matchmakingRule.combination.contains request.playerCount = false then
        return false
      let baseWorkerIndex := getWorkerIndex group.workerCount request.matchTicketId
      Program.atomically (.setBaseWorkerIndex request baseWorkerIndex) fun _ => ()
      Program.atomically (.partyEnqueue group baseWorkerIndex request ticket)
        fun world => (world.partyEnqueue group baseWorkerIndex request ticket).1

/-- `CancelMatchTicket` of a party group: at all its workers. -/
def cancel (group : WorkerGroup) (ticket : MatchTicket) : Operation Bool :=
  Program.atomically (.partyCancel group ticket) fun world => (world.partyCancel group ticket).1

/-- `TryCommitMatchmakingRequests`: claim the tickets of all requests, or none of them. -/
def tryCommit (group : WorkerGroup) (requests : List (Option MatchmakingRequest)) :
    Operation Bool :=
  Program.atomically (.partyCommit group requests)
    fun world => (world.partyCommit group requests).1

/-- The matching list of a worker at the moment of the reading. -/
def makeMatchmaking (group : WorkerGroup) (workerId : Int) (countOrder : IterationOrder Int) :
    Operation (List MatchmakingRequest) :=
  readWorld fun world => ((world.partyGroup group).workers workerId).makeMatchmaking
    world.ticketStatus countOrder group.matchmakingRule

/-- A run of one worker of the group. There is no result where the statistics
have no entry for the size of a matched party, which throws. -/
def doWorkerAsyncJob (group : WorkerGroup) (workerId : Int) (countOrder : IterationOrder Int)
    (order : IterationOrder MatchTicket) : Operation (Option Bool) := do
  if hasWorker group.workerCount workerId = false then
    return some false
  let requests ← makeMatchmaking group workerId countOrder
  if requests.isEmpty then
    return some false
  if (← tryCommit group (requests.map some)) = false then
    return some false
  let withTicket := requests.filter fun request => request.matchTicketPtr.isSome
  if withTicket.any fun request =>
      !group.matchmakingRule.combination.contains request.playerCount then
    return none
  let tickets := TicketSet.ofList order (requests.filterMap MatchmakingRequest.matchTicketPtr)
  let sumPlayerCount := (withTicket.map MatchmakingRequest.playerCount).sum
  if withTicket.length = requests.length ∧
      group.matchmakingRule.matchPlayerCount = sumPlayerCount then
    MatchSessionManager.createMatchSession group.workerGroupKey tickets
  else
    forAll tickets.1 (MatchmakingManager.onFailedMatchmaking .party)
  return some true

/-- `ExpandMatchmakingWorkerSlot`: pass the requests that are due on to further workers. -/
def expandMatchmakingWorkerSlots (group : WorkerGroup) : Operation Unit :=
  Program.atomically (.partyExpand group) fun _ => ()

end PartyMatchmakingWorkerGroup

/-! ## The solo manager -/

namespace SoloMatchmakingManager

variable (deployment : Deployment)

/-- `EnqueueWorkerJobRequest`: record a ticket and give it to its solo group, or undo the record.
-/
def enqueueWorkerJobRequest (ticket : MatchTicket) : Operation Bool := do
  match deployment.getWorkerGroup .solo ticket.matchingGroupKey with
  | none => return false
  | some group =>
      if (← MatchmakingManager.insertMatchTicket .solo ticket) = false then
        return false
      if (← SoloMatchmakingWorkerGroup.enqueueJobRequest group ticket.matchmakingRequest) =
          false then
        let _ ← MatchmakingManager.eraseMatchTicket .solo ticket.matchTicketId
        return false
      return true

/-- `StopMatchmaking`: decline for a player whose ticket waits for acceptance, and cancel its
ticket otherwise. -/
def stopMatchmaking (playerKey : PlayerKey) (applyDodgePenalty : Bool) :
    Operation (Option MatchTicket) := do
  match ← MatchmakingManager.findMatchTicketByPlayerKey .solo playerKey with
  | none => return none
  | some ticket =>
      if (← readWorld fun world => world.ticketStatus ticket) = .requiresAcceptance then
        MatchSessionManager.acceptMatchSession { playerKey := playerKey, isAccept := false }
        return some ticket
      if canChangeStatus (← readWorld fun world => world.ticketStatus ticket) .cancelled =
          false then
        return some ticket
      if let some group := deployment.getWorkerGroup .solo ticket.matchingGroupKey then
        if (← SoloMatchmakingWorkerGroup.cancelMatchTicket group ticket) = false then
          return some ticket
      let _ ← MatchmakingManager.eraseMatchTicket .solo ticket.matchTicketId
      if applyDodgePenalty then
        MatchPenaltyManager.addDodgePenalty playerKey ((← timeMsec) + 15000)
      return some ticket

/-- `CleanupPrevMatchmaking`: stop what a player does, without a penalty, and let it leave its
zone. -/
def cleanupPrevMatchmaking (playerKey : PlayerKey) : Operation Bool := do
  let stopped ← stopMatchmaking deployment playerKey false
  let left ← IntegrationZoneInstanceManager.processPlayerLeaveToIntegrationServer playerKey false
  return stopped.isSome || left

/-- `StartMatchmaking`: clean up, refuse penalised players, and submit a new ticket. A ticket that
is refused fails and is erased by its id. -/
def startMatchmaking (request : MatchTicketRequest) : Operation (Option MatchTicket) := do
  if (← readWorld fun world => world.isRunning .solo) = false then
    return none
  if request.players.elements.length > 1 then
    return none
  if ← anyOf request.players.elements (cleanupPrevMatchmaking deployment) then
    return none
  if ← MatchPenaltyManager.hasDodgePenalty request then
    return none
  let ticket ← MatchmakingManager.makeMatchTicket .solo request.worldNo request
  if (← enqueueWorkerJobRequest deployment ticket) = false then
    let _ ← changeTicketStatus ticket .failed
    let _ ← MatchmakingManager.eraseMatchTicket .solo ticket.matchTicketId
    return some ticket
  return some ticket

end SoloMatchmakingManager

/-! ## The party manager -/

namespace PartyMatchmakingManager

variable (deployment : Deployment)

/-- `EnqueueWorkerJobRequest`: record a ticket and give it to its party group, or undo the record.
-/
def enqueueWorkerJobRequest (ticket : MatchTicket) : Operation Bool := do
  match deployment.getWorkerGroup .party ticket.matchingGroupKey with
  | none => return false
  | some group =>
      if (← MatchmakingManager.insertMatchTicket .party ticket) = false then
        return false
      if (← PartyMatchmakingWorkerGroup.enqueueJobRequest group ticket.matchmakingRequest) =
          false then
        let _ ← MatchmakingManager.eraseMatchTicket .party ticket.matchTicketId
        return false
      return true

/-- Cancel a found ticket and forget it if that succeeds. The result says
whether it did. -/
def cancelFound (ticket : MatchTicket) : Operation Bool := do
  let cancelled ←
    match deployment.getWorkerGroup .party ticket.matchingGroupKey with
    | some group => PartyMatchmakingWorkerGroup.cancel group ticket
    | none => changeTicketStatus ticket .cancelled
  if cancelled = false then
    return false
  let _ ← MatchmakingManager.eraseMatchTicket .party ticket.matchTicketId
  return true

/-- `StopMatchmaking`: cancel the ticket of a player's party. -/
def stopMatchmaking (playerKey : PlayerKey) : Operation (Option MatchTicket) := do
  match ← MatchmakingManager.findMatchTicketByPlayerKey .party playerKey with
  | none => return none
  | some ticket =>
      let _ ← cancelFound deployment ticket
      return some ticket

/-- `CleanupPrevMatchmaking`: stop what a player's party does, and let the player leave its zone.
-/
def cleanupPrevMatchmaking (playerKey : PlayerKey) : Operation Bool := do
  let found ← MatchmakingManager.findMatchTicketByPlayerKey .party playerKey
  let stopped ← if found.isSome then stopMatchmaking deployment playerKey else pure none
  let left ← IntegrationZoneInstanceManager.processPlayerLeaveToIntegrationServer playerKey false
  return stopped.isSome || left

/-- `StartMatchmaking`: clean up for every player, refuse penalised players, and submit a new
ticket. A ticket that is refused fails and is erased by its id. -/
def startMatchmaking (request : MatchTicketRequest) : Operation (Option MatchTicket) := do
  if (← readWorld fun world => world.isRunning .party) = false then
    return none
  if ← anyOf request.players.elements (cleanupPrevMatchmaking deployment) then
    return none
  if ← MatchPenaltyManager.hasDodgePenalty request then
    return none
  let ticket ← MatchmakingManager.makeMatchTicket .party request.worldNo request
  if (← enqueueWorkerJobRequest deployment ticket) = false then
    let _ ← changeTicketStatus ticket .failed
    let _ ← MatchmakingManager.eraseMatchTicket .party ticket.matchTicketId
    return some ticket
  return some ticket

/-- The ticket is returned for the record; the code returns nothing. -/
def startMatchBackfill (request : MatchTicketRequest) : Operation MatchTicket := do
  let ticket ← MatchmakingManager.makeMatchTicket .party request.worldNo request
  if (← enqueueWorkerJobRequest deployment ticket) = false then
    let _ ← MatchmakingManager.eraseMatchTicket .party ticket.matchTicketId
    let _ ← changeTicketStatus ticket .failed
  return ticket

/-- `StopMatchBackfill`: cancel the ticket recorded under an id. -/
def stopMatchBackfill (matchTicketId : MatchTicketId) : Operation Unit := do
  match ← MatchmakingManager.findMatchTicket .party matchTicketId with
  | none => return ()
  | some ticket =>
      let _ ← cancelFound deployment ticket

end PartyMatchmakingManager

end MatchmakingMvp
