import MatchmakingMvp.Foundation.Registry
import MatchmakingMvp.Worker.Solo
import Mathlib.Data.List.Dedup
import Mathlib.Tactic.Simps.Basic

/-! # The state of the system and its critical sections

All managers, worker groups and shared objects form one state
(`MatchmakingMvp.World`). The code changes it in critical sections, each under
one outermost mutex or one atomic variable; `MatchmakingMvp.Section` lists them
and `MatchmakingMvp.perform` is their effect. A section that only reads is
`Section.read`.
-/

namespace MatchmakingMvp

open Foundation

/-- The two matchmaking managers. -/
inductive QueueKind
  | solo | party
deriving DecidableEq

/-- A manager's tickets with the index of their players. -/
abbrev TicketRegistry := Registry MatchTicketId PlayerKey MatchTicket

namespace TicketRegistry

def insertMatchTicket (registry : TicketRegistry) (ticket : MatchTicket) : Bool × TicketRegistry :=
  registry.insert MatchTicket.matchTicketId MatchTicket.players ticket

def eraseMatchTicket (registry : TicketRegistry) (matchTicketId : MatchTicketId) :
    Option MatchTicket × TicketRegistry :=
  registry.erase MatchTicket.matchTicketId MatchTicket.players matchTicketId

end TicketRegistry

/-- The registered sessions with the index of their players. -/
abbrev SessionRegistry := Registry MatchId PlayerKey MatchSession

namespace SessionRegistry

def insertMatchSession (registry : SessionRegistry) (session : MatchSession) :
    Bool × SessionRegistry :=
  registry.insert MatchSession.matchId MatchSession.ticketPlayers session

def eraseMatchSession (registry : SessionRegistry) (matchId : MatchId) :
    Option MatchSession × SessionRegistry :=
  registry.erase MatchSession.matchId MatchSession.ticketPlayers matchId

end SessionRegistry

/-! ## Deferred jobs -/

/-- The waiting jobs of an async job worker by due time, equal due times in the
order they were enqueued. -/
abbrev AsyncJobQueue (Job : Type) := List (Int × Job)

namespace AsyncJobQueue

variable {Job : Type}

def enqueueJobRequest (queue : AsyncJobQueue Job) (executeTimeMsec : Int) (job : Job) :
    AsyncJobQueue Job :=
  insertMulti executeTimeMsec job queue

/-- Take the first job if it is due. The due time is converted to unsigned for
the comparison with the clock. -/
def takeJob (queue : AsyncJobQueue Job) (timeMsec : Nat) : Option Job × AsyncJobQueue Job :=
  match queue with
  | [] => (none, [])
  | (executeTimeMsec, job) :: rest =>
      if executeTimeMsec % 2 ^ 64 > timeMsec then (none, queue) else (some job, rest)

theorem takeJob_cases (queue : AsyncJobQueue Job) (timeMsec : Nat) :
    queue.takeJob timeMsec = (none, queue) ∨
      ∃ dueTimeMsec job rest, queue = (dueTimeMsec, job) :: rest ∧
        queue.takeJob timeMsec = (some job, rest) := by
  cases queue with
  | nil => exact Or.inl rfl
  | cons entry rest =>
      rw [takeJob]
      split_ifs
      · exact Or.inl rfl
      · exact Or.inr ⟨_, _, _, rfl, rfl⟩

end AsyncJobQueue

/-- The callbacks the session manager schedules. -/
inductive SessionJob
  | timeOutAccept (matchId : MatchId)
  | accept (playerKey : PlayerKey)
  | timeOutPlace (matchId : MatchId)
  | complete (info : IntegrationZoneInstanceInfo)
deriving DecidableEq

/-- The callbacks the zone manager schedules. -/
inductive ZoneJob
  | serverClosed (sessionKey : Int) (worldNo : Int)
  | expire (key : IntegrationZoneInstanceKey)
  | playerLeaved (playerKey : PlayerKey) (isDodge : Bool)
deriving DecidableEq

/-! ## Zone instances -/

/-- The registered zone instances with the index of their players. -/
structure IntegrationZones where
  instanceMap : OrderedMap IntegrationZoneInstanceKey IntegrationZoneInstance := OrderedMap.empty
  findMapByPlayerKey : PlayerKey → Option IntegrationZoneInstanceKey := fun _ => none

namespace IntegrationZones

/-- Index players one after another, up to the first who is indexed already. -/
def indexPlayers (key : IntegrationZoneInstanceKey) : List PlayerKey →
    (PlayerKey → Option IntegrationZoneInstanceKey) →
    Bool × (PlayerKey → Option IntegrationZoneInstanceKey)
  | [], findMap => (true, findMap)
  | playerKey :: rest, findMap =>
      match findMap playerKey with
      | some _ => (false, findMap)
      | none => indexPlayers key rest (Function.update findMap playerKey (some key))

/-- The section of an insertion: register the zone, then index its players. -/
def insertSection (zones : IntegrationZones) (zone : IntegrationZoneInstance)
    (activePlayers : OrderedSet PlayerKey) : Bool × IntegrationZones :=
  let key := zone.integrationZoneInstanceKey
  if zones.instanceMap.contains key then (false, zones)
  else
    match indexPlayers key activePlayers.elements zones.findMapByPlayerKey with
    | (inserted, findMap) => (inserted, ⟨zones.instanceMap.insertOrAssign key zone, findMap⟩)

/-- Forget the zone of every listed player. -/
def dropPlayers (players : List PlayerKey)
    (findMap : PlayerKey → Option IntegrationZoneInstanceKey) :
    PlayerKey → Option IntegrationZoneInstanceKey :=
  players.foldl (fun findMap playerKey => Function.update findMap playerKey none) findMap

/-- Remove the zone stored under a key, and its active players from the index. -/
def erase (zones : IntegrationZones) (key : IntegrationZoneInstanceKey)
    (activePlayers : IntegrationZoneInstance → OrderedSet PlayerKey) :
    Option IntegrationZoneInstance × IntegrationZones :=
  match zones.instanceMap.find? key with
  | none => (none, zones)
  | some zone =>
      (some zone, ⟨zones.instanceMap.erase key,
        dropPlayers (activePlayers zone).elements zones.findMapByPlayerKey⟩)

def find (zones : IntegrationZones) (key : IntegrationZoneInstanceKey) :
    Option IntegrationZoneInstance :=
  zones.instanceMap.find? key

end IntegrationZones

/-! ## Configuration -/

def kDefaultWorldGroups : List Int := [0, 1, 2, 3]

/-- A worker group: its constant members. -/
structure WorkerGroup where
  workerGroupKey : MatchmakingGroupKey
  matchmakingRule : MatchmakingRule
  workerCount : Nat
  hasWorkers : 0 < workerCount
deriving DecidableEq

/-- The rules inserted into the managers before they were initialized, in the
order of insertion, and the number of workers of their groups. -/
structure Deployment where
  matchmakingRules : QueueKind → List MatchmakingRule
  workerCount : QueueKind → Nat
  hasWorkers : ∀ queue, 0 < workerCount queue

/-- Initialization makes one group for every world group and rule. Of two rules
for one zone the first is kept. -/
def Deployment.getWorkerGroup (deployment : Deployment) (queue : QueueKind)
    (key : MatchmakingGroupKey) : Option WorkerGroup :=
  if key.1 ∈ kDefaultWorldGroups then
    ((deployment.matchmakingRules queue).find? fun rule => rule.matchZoneId = key.2).map
      fun rule => ⟨key, rule, deployment.workerCount queue, deployment.hasWorkers queue⟩
  else none

theorem Deployment.getWorkerGroup_key {deployment : Deployment} {queue : QueueKind}
    {key : MatchmakingGroupKey} {group : WorkerGroup}
    (found : deployment.getWorkerGroup queue key = some group) : group.workerGroupKey = key := by
  rw [getWorkerGroup] at found
  split_ifs at found
  obtain ⟨rule, -, rfl⟩ := Option.map_eq_some_iff.mp found
  rfl

theorem Deployment.integrated_of_getWorkerGroup {deployment : Deployment} {queue : QueueKind}
    {key : MatchmakingGroupKey} {group : WorkerGroup}
    (found : deployment.getWorkerGroup queue key = some group) :
    group.workerGroupKey.1 ∈ kDefaultWorldGroups := by
  rw [getWorkerGroup_key found]
  rw [getWorkerGroup] at found
  split_ifs at found with integrated
  exact integrated

theorem ne_neg_one_of_integrated {worldNo : Int} (integrated : worldNo ∈ kDefaultWorldGroups) :
    worldNo ≠ -1 := by
  rintro rfl
  exact absurd integrated (by decide)

/-! ## The state -/

/-- The state. `matchTickets` records the tickets made so far and the managers
that made them. -/
structure World where
  timeMsec : Nat := 0
  matchTickets : List (QueueKind × MatchTicket) := []
  nextMatchTicketId : MatchTicketId := 1000
  ticketStatus : TicketStatuses := fun _ => .none
  workerSlot : MatchmakingRequest → WorkerSlot := fun _ => {}
  isRunning : QueueKind → Bool := fun _ => true
  tickets : QueueKind → TicketRegistry := fun _ => Registry.empty
  soloWorkers : MatchmakingGroupKey → Int → SoloMatchmakingWorker := fun _ _ => {}
  partyGroups : MatchmakingGroupKey → PartyMatchmakingWorkerGroup := fun _ => {}
  matchSessionCount : Nat := 0
  sessionState : MatchSession → MatchSessionState :=
    fun session => { playerMatchAcceptInfos := session.initialAcceptInfos }
  matchSessions : SessionRegistry := Registry.empty
  sessionJobs : AsyncJobQueue SessionJob := []
  lastIntegrationWorldNo : Int := -1
  dodgePenalties : PlayerKey → Option Int := fun _ => none
  penaltyJobs : AsyncJobQueue PlayerKey := []
  zoneInstanceCount : Nat := 0
  playerSessions : IntegrationZoneInstance → OrderedSet PlayerKey := fun _ => default
  zoneUpdateTimeMsec : IntegrationZoneInstance → Int := fun _ => 0
  zones : IntegrationZones := {}
  zoneJobs : AsyncJobQueue ZoneJob := []

namespace World

def timeSec (world : World) : Int := world.timeMsec / 1000

/-- A request without a ticket id is given the next one. -/
def normalizeRequest (world : World) (request : MatchTicketRequest) : MatchTicketRequest :=
  if request.matchTicketId < 0 then { request with matchTicketId := world.nextMatchTicketId }
  else request

/-- The ticket object the next construction makes. -/
def newMatchTicket (world : World) (matchWorldGroupId : Int) (request : MatchTicketRequest) :
    MatchTicket :=
  ⟨world.matchTickets.length, world.normalizeRequest request, matchWorldGroupId⟩

def soloWorker (world : World) (group : WorkerGroup) (index : Int) : SoloMatchmakingWorker :=
  world.soloWorkers group.workerGroupKey index

def partyGroup (world : World) (group : WorkerGroup) : PartyMatchmakingWorkerGroup :=
  world.partyGroups group.workerGroupKey

/-- The world number a session is placed in: the world group itself if it is
integrated, and the next integrated world otherwise. There is no result where
the counter indexes outside of the worlds. -/
def getNextIntegrationWorldNo (world : World) (worldGroupNo : Int) : Option Int :=
  if worldGroupNo ∈ kDefaultWorldGroups then some worldGroupNo
  else
    let nextIndex := (world.lastIntegrationWorldNo + 1).tmod kDefaultWorldGroups.length
    if nextIndex < 0 then none else kDefaultWorldGroups[nextIndex.toNat]?

end World

/-- A set of ticket pointers, in the order the set iterates in. -/
abbrev TicketSet := { tickets : List MatchTicket // tickets.Nodup }

/-- The set of the given tickets. Its order is by address: any permutation. -/
def TicketSet.ofList (order : IterationOrder MatchTicket) (tickets : List MatchTicket) :
    TicketSet :=
  ⟨order.1 tickets.dedup, (order.2 _).nodup_iff.mpr tickets.nodup_dedup⟩

/-- The set of one ticket. -/
def TicketSet.single (ticket : MatchTicket) : TicketSet := ⟨[ticket], List.nodup_singleton _⟩

/-- The session object the next construction makes. -/
def World.newMatchSession (world : World) (matchZoneId : String) (worldNo : Int)
    (matchId : MatchId) (tickets : TicketSet) : MatchSession :=
  ⟨world.matchSessionCount, matchId, tickets.1.map some,
    tickets.2.map (Option.some_injective _), worldNo, matchZoneId⟩

@[simp] theorem World.newMatchSession_tickets (world : World) (matchZoneId : String)
    (worldNo : Int) (matchId : MatchId) (tickets : TicketSet) :
    (world.newMatchSession matchZoneId worldNo matchId tickets).tickets = tickets.1 := by
  simp [newMatchSession, MatchSession.tickets, List.reduceOption]

/-- The zone object the next construction makes. -/
def World.newZoneInstance (world : World) (info : IntegrationZoneInstanceInfo) :
    IntegrationZoneInstance :=
  ⟨world.zoneInstanceCount, info.worldNo, info.worldSessionKey, info.zoneGuid, info.zoneId⟩

/-! ## Critical sections -/

/-- One critical section of the code. `enterCreateMatchSession` marks the call
that hands tickets to the session manager and has no effect. -/
inductive Section
  | read
  | tick (timeMsec : Nat)
  | newMatchTicket (queue : QueueKind) (matchWorldGroupId : Int) (request : MatchTicketRequest)
  | changeTicketStatus (ticket : MatchTicket) (status : MatchTicketStatus)
  | setBaseWorkerIndex (request : MatchmakingRequest) (baseWorkerIndex : Int)
  | insertMatchTicket (queue : QueueKind) (ticket : MatchTicket)
  | eraseMatchTicket (queue : QueueKind) (matchTicketId : MatchTicketId)
  | soloEnqueue (group : WorkerGroup) (index : Int) (request : MatchmakingRequest)
      (ticket : MatchTicket)
  | soloCancel (group : WorkerGroup) (index : Int) (ticket : MatchTicket)
  | soloRun (group : WorkerGroup) (index : Int)
  | partyEnqueue (group : WorkerGroup) (index : Int) (request : MatchmakingRequest)
      (ticket : MatchTicket)
  | partyCancel (group : WorkerGroup) (ticket : MatchTicket)
  | partyCommit (group : WorkerGroup) (requests : List (Option MatchmakingRequest))
  | partyExpand (group : WorkerGroup)
  | enterCreateMatchSession (key : MatchmakingGroupKey) (tickets : TicketSet)
  | nextIntegrationWorldNo (worldGroupNo : Int)
  | newMatchSession (matchZoneId : String) (worldNo : Int) (matchId : MatchId)
      (tickets : TicketSet)
  | forceSessionStatus (session : MatchSession) (status : MatchTicketStatus)
  | changeSessionStatus (session : MatchSession) (status : MatchTicketStatus)
  | acceptPlayerSession (session : MatchSession) (acceptInfo : PlayerMatchAcceptInfo)
  | insertMatchSession (session : MatchSession)
  | eraseMatchSession (matchId : MatchId)
  | addSessionJob (executeTimeMsec : Int) (job : SessionJob)
  | takeSessionJob
  | setDodgePenalty (playerKey : PlayerKey) (penaltyExpireTimeMsec : Int)
  | clearDodgePenalty (playerKey : PlayerKey)
  | addPenaltyJob (executeTimeMsec : Int) (playerKey : PlayerKey)
  | takePenaltyJob
  | newZoneInstance (info : IntegrationZoneInstanceInfo)
  | insertZoneInstance (zone : IntegrationZoneInstance)
  | eraseZoneInstance (key : IntegrationZoneInstanceKey)
  | removePlayerSession (zone : IntegrationZoneInstance) (playerKey : PlayerKey)
  | eraseZonePlayer (playerKey : PlayerKey)
  | updateZoneInstance (zone : IntegrationZoneInstance)
  | addZoneJob (executeTimeMsec : Int) (job : ZoneJob)
  | takeZoneJob
deriving DecidableEq

namespace World

/-- Enqueue at a solo worker. A request it refuses is erased from it. -/
def soloEnqueue (world : World) (group : WorkerGroup) (index : Int)
    (request : MatchmakingRequest) (ticket : MatchTicket) : Bool × SoloMatchmakingWorker :=
  match (world.soloWorker group index).enqueueJobRequest world.ticketStatus request with
  | (false, worker) => (false, worker.erase ticket)
  | (true, worker) => (true, worker)

def soloCancel (world : World) (group : WorkerGroup) (index : Int) (ticket : MatchTicket) :
    Bool × SoloMatchmakingWorker × TicketStatuses :=
  (world.soloWorker group index).cancel ticket world.ticketStatus

def soloRun (world : World) (group : WorkerGroup) (index : Int) :
    SoloMatchmakingWorker.JobOutcome × SoloMatchmakingWorker × TicketStatuses :=
  (world.soloWorker group index).doWorkerAsyncJob group.matchmakingRule world.ticketStatus

def partyEnqueue (world : World) (group : WorkerGroup) (index : Int)
    (request : MatchmakingRequest) (ticket : MatchTicket) :
    Bool × PartyMatchmakingWorkerGroup × TicketStatuses :=
  (world.partyGroup group).enqueueSection group.workerCount index world.timeSec request ticket
    world.ticketStatus

def partyCancel (world : World) (group : WorkerGroup) (ticket : MatchTicket) :
    Bool × PartyMatchmakingWorkerGroup × TicketStatuses :=
  (world.partyGroup group).cancelMatchTicket group.workerCount ticket world.ticketStatus

def partyCommit (world : World) (group : WorkerGroup)
    (requests : List (Option MatchmakingRequest)) :
    Bool × PartyMatchmakingWorkerGroup × TicketStatuses :=
  (world.partyGroup group).tryCommitMatchmakingRequests group.workerCount world.workerSlot
    requests world.ticketStatus

def partyExpand (world : World) (group : WorkerGroup) :
    PartyMatchmakingWorkerGroup × (MatchmakingRequest → WorkerSlot) :=
  (world.partyGroup group).expandMatchmakingWorkerSlot group.workerCount world.timeSec
    world.ticketStatus world.workerSlot

def changeSessionStatus (world : World) (session : MatchSession) (status : MatchTicketStatus) :
    Bool × MatchSessionState × TicketStatuses :=
  session.changeStatus status (world.sessionState session) world.ticketStatus

@[simps] def withSoloWorker (world : World) (group : WorkerGroup) (index : Int)
    (worker : SoloMatchmakingWorker) : World :=
  { world with
    soloWorkers := Function.update world.soloWorkers group.workerGroupKey
      (Function.update (world.soloWorkers group.workerGroupKey) index worker) }

@[simps] def withPartyGroup (world : World) (group : WorkerGroup)
    (state : PartyMatchmakingWorkerGroup) :
    World :=
  { world with partyGroups := Function.update world.partyGroups group.workerGroupKey state }

@[simps] def withTickets (world : World) (queue : QueueKind) (registry : TicketRegistry) : World :=
  { world with tickets := Function.update world.tickets queue registry }

@[simps] def withTicketStatus (world : World) (statuses : TicketStatuses) : World :=
  { world with ticketStatus := statuses }

@[simps] def withMatchSessions (world : World) (registry : SessionRegistry) : World :=
  { world with matchSessions := registry }

@[simps] def withSessionState (world : World) (session : MatchSession) (state : MatchSessionState) :
    World :=
  { world with sessionState := Function.update world.sessionState session state }

@[simp] theorem withSoloWorker_self (world : World) (group : WorkerGroup) (index : Int) :
    world.withSoloWorker group index (world.soloWorker group index) = world := by
  simp [withSoloWorker, soloWorker]

@[simp] theorem withPartyGroup_self (world : World) (group : WorkerGroup) :
    world.withPartyGroup group (world.partyGroup group) = world := by
  simp [withPartyGroup, partyGroup]

end World

/-- The effect of a critical section. -/
def perform : Section → World → World
  | .read, world => world
  | .tick timeMsec, world => { world with timeMsec := max world.timeMsec timeMsec }
  | .newMatchTicket queue matchWorldGroupId request, world =>
      { world with
        matchTickets :=
          (queue, world.newMatchTicket matchWorldGroupId request) :: world.matchTickets
        nextMatchTicketId :=
          if request.matchTicketId < 0 then world.nextMatchTicketId + 1
          else world.nextMatchTicketId }
  | .changeTicketStatus ticket status, world =>
      world.withTicketStatus (ticket.changeStatus status world.ticketStatus).2
  | .setBaseWorkerIndex request baseWorkerIndex, world =>
      { world with
        workerSlot := Function.update world.workerSlot request
          { world.workerSlot request with baseWorkerIndex := baseWorkerIndex } }
  | .insertMatchTicket queue ticket, world =>
      world.withTickets queue ((world.tickets queue).insertMatchTicket ticket).2
  | .eraseMatchTicket queue matchTicketId, world =>
      world.withTickets queue ((world.tickets queue).eraseMatchTicket matchTicketId).2
  | .soloEnqueue group index request ticket, world =>
      world.withSoloWorker group index (world.soloEnqueue group index request ticket).2
  | .soloCancel group index ticket, world =>
      let (_, worker, statuses) := world.soloCancel group index ticket
      (world.withSoloWorker group index worker).withTicketStatus statuses
  | .soloRun group index, world =>
      let (_, worker, statuses) := world.soloRun group index
      (world.withSoloWorker group index worker).withTicketStatus statuses
  | .partyEnqueue group index request ticket, world =>
      let (_, state, statuses) := world.partyEnqueue group index request ticket
      (world.withPartyGroup group state).withTicketStatus statuses
  | .partyCancel group ticket, world =>
      let (_, state, statuses) := world.partyCancel group ticket
      (world.withPartyGroup group state).withTicketStatus statuses
  | .partyCommit group requests, world =>
      let (_, state, statuses) := world.partyCommit group requests
      (world.withPartyGroup group state).withTicketStatus statuses
  | .partyExpand group, world =>
      let (state, slots) := world.partyExpand group
      { world.withPartyGroup group state with workerSlot := slots }
  | .enterCreateMatchSession _ _, world => world
  | .nextIntegrationWorldNo worldGroupNo, world =>
      if worldGroupNo ∈ kDefaultWorldGroups then world
      else { world with lastIntegrationWorldNo := (world.lastIntegrationWorldNo + 1).bmod (2 ^ 32) }
  | .newMatchSession _ _ _ _, world =>
      { world with matchSessionCount := world.matchSessionCount + 1 }
  | .forceSessionStatus session status, world =>
      world.withSessionState session { world.sessionState session with status := status }
  | .changeSessionStatus session status, world =>
      let (_, state, statuses) := world.changeSessionStatus session status
      (world.withSessionState session state).withTicketStatus statuses
  | .acceptPlayerSession session acceptInfo, world =>
      world.withSessionState session ((world.sessionState session).acceptPlayerSession acceptInfo).2
  | .insertMatchSession session, world =>
      world.withMatchSessions (world.matchSessions.insertMatchSession session).2
  | .eraseMatchSession matchId, world =>
      world.withMatchSessions (world.matchSessions.eraseMatchSession matchId).2
  | .addSessionJob executeTimeMsec job, world =>
      { world with sessionJobs := world.sessionJobs.enqueueJobRequest executeTimeMsec job }
  | .takeSessionJob, world =>
      { world with sessionJobs := (world.sessionJobs.takeJob world.timeMsec).2 }
  | .setDodgePenalty playerKey penaltyExpireTimeMsec, world =>
      { world with
        dodgePenalties :=
          Function.update world.dodgePenalties playerKey (some penaltyExpireTimeMsec) }
  | .clearDodgePenalty playerKey, world =>
      { world with dodgePenalties := Function.update world.dodgePenalties playerKey none }
  | .addPenaltyJob executeTimeMsec playerKey, world =>
      { world with penaltyJobs := world.penaltyJobs.enqueueJobRequest executeTimeMsec playerKey }
  | .takePenaltyJob, world =>
      { world with penaltyJobs := (world.penaltyJobs.takeJob world.timeMsec).2 }
  | .newZoneInstance info, world =>
      { world with
        zoneInstanceCount := world.zoneInstanceCount + 1
        playerSessions :=
          Function.update world.playerSessions (world.newZoneInstance info) info.players
        zoneUpdateTimeMsec := Function.update world.zoneUpdateTimeMsec
          (world.newZoneInstance info) world.timeMsec }
  | .insertZoneInstance zone, world =>
      { world with zones := (world.zones.insertSection zone (world.playerSessions zone)).2 }
  | .eraseZoneInstance key, world =>
      { world with zones := (world.zones.erase key world.playerSessions).2 }
  | .removePlayerSession zone playerKey, world =>
      { world with
        playerSessions := Function.update world.playerSessions zone
          ((world.playerSessions zone).erase playerKey) }
  | .eraseZonePlayer playerKey, world =>
      { world with
        zones := ⟨world.zones.instanceMap,
          Function.update world.zones.findMapByPlayerKey playerKey none⟩ }
  | .updateZoneInstance zone, world =>
      { world with
        zoneUpdateTimeMsec := Function.update world.zoneUpdateTimeMsec zone world.timeMsec }
  | .addZoneJob executeTimeMsec job, world =>
      { world with zoneJobs := world.zoneJobs.enqueueJobRequest executeTimeMsec job }
  | .takeZoneJob, world => { world with zoneJobs := (world.zoneJobs.takeJob world.timeMsec).2 }

end MatchmakingMvp
