import MatchmakingMvp.Worker.Party

/-! # Solo workers

A solo worker moves its waiting requests into a list in progress until the list
fills a match. Every function is one critical section of the worker.
-/

namespace MatchmakingMvp

open Foundation

structure SoloMatchmakingWorker where
  waitingQueue : WaitingQueue := OrderedMap.empty
  sendProgressingList : WaitingQueue := OrderedMap.empty
deriving DecidableEq

/-- Comparison of a container's size with an `int`, which is converted to an
unsigned 64-bit number. -/
def sizeAtLeast (size : Nat) (count : Int) : Bool := decide (count % 2 ^ 64 ≤ size)

namespace SoloMatchmakingWorker

def enqueueJobRequest (worker : SoloMatchmakingWorker) (statuses : TicketStatuses)
    (request : MatchmakingRequest) : Bool × SoloMatchmakingWorker :=
  match request.matchTicketPtr with
  | none => (false, worker)
  | some ticket =>
      if statuses ticket ≠ .queued then (false, worker)
      else if worker.waitingQueue.contains request.matchTicketId then (false, worker)
      else (true, { worker with
        waitingQueue := worker.waitingQueue.insertOrAssign request.matchTicketId request })

/-- Remove the entries stored under a ticket's id. -/
def erase (worker : SoloMatchmakingWorker) (ticket : MatchTicket) : SoloMatchmakingWorker :=
  { waitingQueue := worker.waitingQueue.erase ticket.matchTicketId
    sendProgressingList := worker.sendProgressingList.erase ticket.matchTicketId }

/-- Cancel a ticket and remove it from the worker. -/
def cancel (worker : SoloMatchmakingWorker) (ticket : MatchTicket) (statuses : TicketStatuses) :
    Bool × SoloMatchmakingWorker × TicketStatuses :=
  match ticket.changeStatus .cancelled statuses with
  | (false, statuses) => (false, worker, statuses)
  | (true, statuses) => (true, worker.erase ticket, statuses)

/-- Move waiting requests into the list in progress until it holds a match. -/
def fillProgressingList (matchPlayerCount : Int) :
    List (MatchTicketId × MatchmakingRequest) → WaitingQueue → WaitingQueue →
    WaitingQueue × WaitingQueue
  | [], waitingQueue, progressing => (waitingQueue, progressing)
  | (matchTicketId, request) :: rest, waitingQueue, progressing =>
      if sizeAtLeast progressing.size matchPlayerCount then (waitingQueue, progressing)
      else fillProgressingList matchPlayerCount rest (waitingQueue.erase matchTicketId)
        (progressing.emplace request.matchTicketId request)

/-- Move the tickets of the list in progress to searching. The result holds the
tickets and whether all of them moved. -/
def searchTickets : List MatchmakingRequest → TicketStatuses →
    Bool × List MatchTicket × TicketStatuses
  | [], statuses => (true, [], statuses)
  | request :: rest, statuses =>
      match request.matchTicketPtr with
      | none =>
          let (_, tickets, statuses) := searchTickets rest statuses
          (false, tickets, statuses)
      | some ticket =>
          let (changed, statuses) := ticket.changeStatus .searching statuses
          let (success, tickets, statuses) := searchTickets rest statuses
          (changed && success, ticket :: tickets, statuses)

/-- What a run of the worker found. -/
inductive JobOutcome
  | incomplete
  | matched (tickets : List MatchTicket)
  | rejected (tickets : List MatchTicket)
deriving DecidableEq

/-- The queue and the list in progress after the latter was filled. -/
def filled (rule : MatchmakingRule) (worker : SoloMatchmakingWorker) : SoloMatchmakingWorker :=
  let (waitingQueue, progressing) := fillProgressingList rule.matchPlayerCount
    worker.waitingQueue.entries worker.waitingQueue worker.sendProgressingList
  ⟨waitingQueue, progressing⟩

/-- The critical section of a run. -/
def doWorkerAsyncJob (rule : MatchmakingRule) (worker : SoloMatchmakingWorker)
    (statuses : TicketStatuses) : JobOutcome × SoloMatchmakingWorker × TicketStatuses :=
  let filled := worker.filled rule
  if sizeAtLeast filled.sendProgressingList.size rule.matchPlayerCount then
    let (success, tickets, statuses) := searchTickets filled.sendProgressingList.values statuses
    (if success then .matched tickets else .rejected tickets,
      ⟨filled.waitingQueue, OrderedMap.empty⟩, statuses)
  else (.incomplete, filled, statuses)

end SoloMatchmakingWorker

end MatchmakingMvp
