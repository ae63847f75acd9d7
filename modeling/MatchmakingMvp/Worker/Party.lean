import MatchmakingMvp.Core.Rule
import MatchmakingMvp.Core.Objects

/-! # Party workers and party worker groups

A party worker keeps its waiting requests in one queue, in one bucket for each
party size and as a count for each party size. A group owns several workers and
the requests whose search range still grows. Every function is one critical
section of its worker or group, as a function of the state it protects and of
the tickets' statuses.
-/

namespace MatchmakingMvp

open Foundation

/-- The requests a worker keeps, by ticket id. -/
abbrev WaitingQueue := OrderedMap MatchTicketId MatchmakingRequest

/-- The order in which an unordered container lists its elements: any
permutation. -/
abbrev IterationOrder (Element : Type) :=
  { order : List Element → List Element // ∀ elements, (order elements).Perm elements }

/-- The order that lists the elements as they are. -/
def IterationOrder.asListed (Element : Type) : IterationOrder Element :=
  ⟨id, fun _ => List.Perm.refl _⟩

structure PartyMatchmakingWorker where
  waitingQueue : WaitingQueue := OrderedMap.empty
  waitingQueueByPlayerCount : OrderedMap Int WaitingQueue := OrderedMap.empty
  queuedCountByPlayerCount : OrderedMap Int Int := OrderedMap.empty
deriving DecidableEq

namespace PartyMatchmakingWorker

/-- The bucket of a party size, empty when there is none. -/
def bucket (worker : PartyMatchmakingWorker) (playerCount : Int) : WaitingQueue :=
  (worker.waitingQueueByPlayerCount.find? playerCount).getD OrderedMap.empty

/-- The count of a party size, zero when there is none. -/
def queuedCount (worker : PartyMatchmakingWorker) (playerCount : Int) : Int :=
  (worker.queuedCountByPlayerCount.find? playerCount).getD 0

def enqueueJobRequest (worker : PartyMatchmakingWorker) (request : MatchmakingRequest) :
    Bool × PartyMatchmakingWorker :=
  if worker.waitingQueue.contains request.matchTicketId then (false, worker)
  else
    let bucket := worker.bucket request.playerCount
    if bucket.contains request.matchTicketId then
      (false, { worker with
        waitingQueueByPlayerCount :=
          worker.waitingQueueByPlayerCount.insertOrAssign request.playerCount bucket })
    else
      (true,
        { waitingQueue := worker.waitingQueue.insertOrAssign request.matchTicketId request
          waitingQueueByPlayerCount :=
            worker.waitingQueueByPlayerCount.insertOrAssign request.playerCount
              (bucket.insertOrAssign request.matchTicketId request)
          queuedCountByPlayerCount :=
            worker.queuedCountByPlayerCount.insertOrAssign request.playerCount
              (worker.queuedCount request.playerCount + 1) })

/-- The count of a party size after one ticket of that size is gone. -/
def dropQueuedCount (counts : OrderedMap Int Int) (playerCount : Int) : OrderedMap Int Int :=
  match counts.find? playerCount with
  | none => counts
  | some queuedCount =>
      if queuedCount - 1 ≤ 0 then counts.erase playerCount
      else counts.insertOrAssign playerCount (queuedCount - 1)

/-- Remove the entries stored under a ticket's id. -/
def erase (worker : PartyMatchmakingWorker) (ticket : MatchTicket) : PartyMatchmakingWorker :=
  let playerCount : Int := ticket.players.length
  { waitingQueue := worker.waitingQueue.erase ticket.matchTicketId
    waitingQueueByPlayerCount :=
      match worker.waitingQueueByPlayerCount.find? playerCount with
      | none => worker.waitingQueueByPlayerCount
      | some bucket => worker.waitingQueueByPlayerCount.insertOrAssign playerCount
          (bucket.erase ticket.matchTicketId)
    queuedCountByPlayerCount :=
      if worker.waitingQueue.contains ticket.matchTicketId ∧
          (worker.bucket playerCount).contains ticket.matchTicketId then
        dropQueuedCount worker.queuedCountByPlayerCount playerCount
      else worker.queuedCountByPlayerCount }

/-- The tickets of a waiting queue that are still queued, by increasing id. -/
def queuedRequests (statuses : TicketStatuses) (queue : WaitingQueue) : List MatchmakingRequest :=
  queue.values.filter fun request =>
    match request.matchTicketPtr with
    | none => false
    | some ticket => decide (statuses ticket = .queued)

/-- For every party size of a combination, the first queued tickets of that size. -/
def selectRequests (worker : PartyMatchmakingWorker) (statuses : TicketStatuses) :
    List (Int × Int) → Option (List MatchmakingRequest)
  | [] => some []
  | (needPlayerCount, needTicketCount) :: rest =>
      match worker.waitingQueueByPlayerCount.find? needPlayerCount with
      | none => none
      | some queue =>
          let selected := (queuedRequests statuses queue).take needTicketCount.toNat
          if (selected.length : Int) < needTicketCount then none
          else (worker.selectRequests statuses rest).map (selected ++ ·)

/-- The requests that fill a combination, if there are enough. -/
def buildCandidate (worker : PartyMatchmakingWorker) (statuses : TicketStatuses)
    (combination : GroupedCombination) : Option (List MatchmakingRequest) :=
  if combination.entries.all fun need =>
      match worker.queuedCountByPlayerCount.find? need.1 with
      | none => false
      | some queuedCount => decide (need.2 ≤ queuedCount) then
    match worker.selectRequests statuses combination.entries with
    | none => none
    | some [] => none
    | some matchingList => some matchingList
  else none

/-- `std::numeric_limits<MATCH_TICKET_ID>::max()` -/
def maxMatchTicketId : MatchTicketId := 2 ^ 63 - 1

/-- The smallest ticket id of a candidate. -/
def oldestTicketId (matchingList : List MatchmakingRequest) : MatchTicketId :=
  matchingList.foldl (fun oldest request => min oldest request.matchTicketId) maxMatchTicketId

/-- The best candidate so far, with its smallest ticket id. -/
structure Best where
  oldestTicketId : MatchTicketId := maxMatchTicketId
  matchingList : List MatchmakingRequest := []

/-- Compare a combination's candidate with the best so far. -/
def considerCombination (worker : PartyMatchmakingWorker) (statuses : TicketStatuses)
    (rule : MatchmakingRule) (best : Best) (combination : GroupedCombination) : Best :=
  match worker.buildCandidate statuses combination with
  | none => best
  | some matchingList =>
      let sumPlayerCount := (matchingList.map MatchmakingRequest.playerCount).sum
      let oldest := oldestTicketId matchingList
      if sumPlayerCount ≠ rule.matchPlayerCount ∨ oldest = maxMatchTicketId then best
      else if best.matchingList.isEmpty ∨ oldest < best.oldestTicketId then
        ⟨oldest, matchingList⟩
      else best

/-- Consider the combinations of a party size that has waiting tickets. -/
def considerPlayerCount (worker : PartyMatchmakingWorker) (statuses : TicketStatuses)
    (rule : MatchmakingRule) (best : Best) (playerCount : Int) : Best :=
  if worker.queuedCount playerCount ≤ 0 then best
  else (rule.getCombination playerCount).foldl (worker.considerCombination statuses rule) best

/-- The candidate with the oldest ticket. The party sizes are visited in the
order the unordered map lists them. -/
def makeMatchmaking (worker : PartyMatchmakingWorker) (statuses : TicketStatuses)
    (order : IterationOrder Int) (rule : MatchmakingRule) : List MatchmakingRequest :=
  if worker.waitingQueue.isEmpty then []
  else ((order.1 worker.queuedCountByPlayerCount.keys).foldl
    (worker.considerPlayerCount statuses rule) {}).matchingList

end PartyMatchmakingWorker

/-! ## Worker groups -/

/-- The workers of a group, by index, and the requests whose range still grows
by the second of their last expansion. -/
structure PartyMatchmakingWorkerGroup where
  workers : Int → PartyMatchmakingWorker := fun _ => {}
  matchmakingRequestSlotExpandTimeMap : List (Int × MatchmakingRequest) := []

/-- A worker exists for every index below the worker count. -/
def hasWorker (workerCount : Nat) (index : Int) : Bool := decide (0 ≤ index ∧ index < workerCount)

/-- The largest worker index. -/
def getMaxWorkerIndex (workerCount : Nat) : Int := workerCount - 1

/-- The worker a ticket id is assigned to. -/
def getWorkerIndex (workerCount : Nat) (matchTicketId : MatchTicketId) : Int :=
  matchTicketId.tmod workerCount

namespace PartyMatchmakingWorkerGroup

variable (workerCount : Nat)

def isAvailableMatchmakingExpandSlot : Bool := decide (1 < workerCount)

/-- Change one worker, if it exists. -/
def updateWorker (group : PartyMatchmakingWorkerGroup) (index : Int)
    (worker : PartyMatchmakingWorker) : PartyMatchmakingWorkerGroup :=
  { group with workers := Function.update group.workers index worker }

/-- Schedule the first expansion of a request, if there are workers to expand to. -/
def scheduleExpansion (group : PartyMatchmakingWorkerGroup) (timeSec : Int)
    (request : MatchmakingRequest) : PartyMatchmakingWorkerGroup :=
  if isAvailableMatchmakingExpandSlot workerCount then
    { group with matchmakingRequestSlotExpandTimeMap :=
        insertMulti timeSec request group.matchmakingRequestSlotExpandTimeMap }
  else group

/-- The section of an enqueue that holds the group's mutex. -/
def enqueueSection (group : PartyMatchmakingWorkerGroup) (baseWorkerIndex : Int) (timeSec : Int)
    (request : MatchmakingRequest) (ticket : MatchTicket) (statuses : TicketStatuses) :
    Bool × PartyMatchmakingWorkerGroup × TicketStatuses :=
  let group := group.scheduleExpansion workerCount timeSec request
  if hasWorker workerCount baseWorkerIndex then
    match (group.workers baseWorkerIndex).enqueueJobRequest request with
    | (false, worker) =>
        (false, group.updateWorker baseWorkerIndex (worker.erase ticket), statuses)
    | (true, worker) =>
        (true, group.updateWorker baseWorkerIndex worker,
          (ticket.changeStatus .queued statuses).2)
  else (false, group, statuses)

/-- Remove a ticket's entries from every worker. -/
def eraseFromWorkers (group : PartyMatchmakingWorkerGroup) (ticket : MatchTicket) :
    PartyMatchmakingWorkerGroup :=
  { group with workers := fun index =>
      if hasWorker workerCount index then (group.workers index).erase ticket
      else group.workers index }

/-- Cancel a ticket and remove it from every worker. -/
def cancelMatchTicket (group : PartyMatchmakingWorkerGroup) (ticket : MatchTicket)
    (statuses : TicketStatuses) : Bool × PartyMatchmakingWorkerGroup × TicketStatuses :=
  match ticket.changeStatus .cancelled statuses with
  | (false, statuses) => (false, group, statuses)
  | (true, statuses) => (true, group.eraseFromWorkers workerCount ticket, statuses)

/-- The tickets of a matching list, unless a request or ticket pointer is null
or a ticket is not queued. -/
def queuedTickets (statuses : TicketStatuses) :
    List (Option MatchmakingRequest) → Option (List MatchTicket)
  | [] => some []
  | none :: _ => none
  | some request :: rest =>
      match request.matchTicketPtr with
      | none => none
      | some ticket =>
          if statuses ticket ≠ .queued then none
          else (queuedTickets statuses rest).map (ticket :: ·)

/-- Remove a request from the workers of its range. -/
def eraseFromRange (slots : MatchmakingRequest → WorkerSlot) (group : PartyMatchmakingWorkerGroup)
    (request : MatchmakingRequest) : PartyMatchmakingWorkerGroup :=
  match request.matchTicketPtr with
  | none => group
  | some ticket =>
      { group with workers := fun index =>
          if (slots request).minWorkerIndex (getMaxWorkerIndex workerCount) ≤ index ∧
              index ≤ (slots request).maxWorkerIndex (getMaxWorkerIndex workerCount) ∧
              hasWorker workerCount index then (group.workers index).erase ticket
          else group.workers index }

/-- Move all tickets of a matching list from queued to searching and take their
requests out of the workers, or change nothing. -/
def tryCommitMatchmakingRequests (slots : MatchmakingRequest → WorkerSlot)
    (group : PartyMatchmakingWorkerGroup) (matchingRequestList : List (Option MatchmakingRequest))
    (statuses : TicketStatuses) : Bool × PartyMatchmakingWorkerGroup × TicketStatuses :=
  if matchingRequestList.isEmpty then (false, group, statuses)
  else
    match queuedTickets statuses matchingRequestList with
    | none => (false, group, statuses)
    | some tickets =>
        match changeAllIfCurrent .searching [] (tickets.map fun ticket => (ticket, .queued))
            statuses with
        | (false, statuses) => (false, group, statuses)
        | (true, statuses) =>
            (true, matchingRequestList.reduceOption.foldl (eraseFromRange workerCount slots) group,
              statuses)

/-- Give a request to a worker, if it exists. -/
def enqueueAt (group : PartyMatchmakingWorkerGroup) (index : Int) (request : MatchmakingRequest) :
    PartyMatchmakingWorkerGroup :=
  if hasWorker workerCount index then
    group.updateWorker index ((group.workers index).enqueueJobRequest request).2
  else group

/-- Extend a queued request by one worker on each side. The result says whether
its range can still grow. -/
def expandRequest (request : MatchmakingRequest) (group : PartyMatchmakingWorkerGroup)
    (slots : MatchmakingRequest → WorkerSlot) :
    Bool × PartyMatchmakingWorkerGroup × (MatchmakingRequest → WorkerSlot) :=
  let slot := slots request
  let last := getMaxWorkerIndex workerCount
  let newLevel := slot.workerExpansionLevel + 1
  let newMin := clamp (slot.baseWorkerIndex - newLevel) 0 last
  let group :=
    if newMin ≠ slot.minWorkerIndex last then group.enqueueAt workerCount newMin request else group
  let newMax := clamp (slot.baseWorkerIndex + newLevel) 0 last
  let group :=
    if newMax ≠ slot.maxWorkerIndex last then group.enqueueAt workerCount newMax request else group
  (decide (newMin > 0 ∨ newMax < last), group,
    Function.update slots request { slot with workerExpansionLevel := newLevel })

/-- Expand the requests that are due and still queued, and collect those to
schedule again. -/
def expandDue (statuses : TicketStatuses) :
    List (Int × MatchmakingRequest) → PartyMatchmakingWorkerGroup →
    (MatchmakingRequest → WorkerSlot) →
    List MatchmakingRequest × PartyMatchmakingWorkerGroup × (MatchmakingRequest → WorkerSlot)
  | [], group, slots => ([], group, slots)
  | (_, request) :: rest, group, slots =>
      let queued : Bool :=
        match request.matchTicketPtr with
        | none => false
        | some ticket => decide (statuses ticket = .queued)
      if queued then
        let (grows, group, slots) := expandRequest workerCount request group slots
        let (scheduled, group, slots) := expandDue statuses rest group slots
        (if grows then request :: scheduled else scheduled, group, slots)
      else expandDue statuses rest group slots

/-- Expand the ranges whose time has come. -/
def expandMatchmakingWorkerSlot (timeSec : Int) (statuses : TicketStatuses)
    (group : PartyMatchmakingWorkerGroup) (slots : MatchmakingRequest → WorkerSlot) :
    PartyMatchmakingWorkerGroup × (MatchmakingRequest → WorkerSlot) :=
  let due := group.matchmakingRequestSlotExpandTimeMap.takeWhile (·.1 ≤ timeSec - 1)
  let later := group.matchmakingRequestSlotExpandTimeMap.dropWhile (·.1 ≤ timeSec - 1)
  let (scheduled, group, slots) := expandDue workerCount statuses due group slots
  ({ group with matchmakingRequestSlotExpandTimeMap :=
      scheduled.foldl (fun entries request => insertMulti timeSec request entries) later }, slots)

end PartyMatchmakingWorkerGroup

end MatchmakingMvp
