import MatchmakingMvp.Worker.Solo

/-! # What the workers store

Every section of a worker or group stores only requests that it was given or
stored before. A property of all stored requests therefore holds throughout when
it holds of every request enqueued.
-/

namespace MatchmakingMvp

open Foundation

/-- Every request of a queue has a property. -/
def WaitingQueue.Every (property : MatchmakingRequest → Prop) (queue : WaitingQueue) : Prop :=
  ∀ matchTicketId request, queue.find? matchTicketId = some request → property request

namespace WaitingQueue

variable {property : MatchmakingRequest → Prop} {queue : WaitingQueue}

/-- The empty map holds no value. -/
theorem Every.empty : WaitingQueue.Every property OrderedMap.empty := fun _ _ => nofun

/-- A value that is put under a key has the property. -/
theorem Every.insertOrAssign (every : WaitingQueue.Every property queue) {id : MatchTicketId}
    {request : MatchmakingRequest} (holds : property request) :
    WaitingQueue.Every property (queue.insertOrAssign id request) := by
  intro other stored found
  rw [OrderedMap.find?_insertOrAssign] at found
  split_ifs at found
  · cases found
    exact holds
  · exact every other stored found

/-- An emplacement keeps the value that is there. -/
theorem Every.emplace (every : WaitingQueue.Every property queue) {id : MatchTicketId}
    {request : MatchmakingRequest} (holds : property request) :
    WaitingQueue.Every property (queue.emplace id request) := by
  rw [OrderedMap.emplace]
  split_ifs
  · exact every
  · exact every.insertOrAssign holds

/-- What is left after a removal. -/
theorem Every.erase (every : WaitingQueue.Every property queue) (id : MatchTicketId) :
    WaitingQueue.Every property (queue.erase id) := by
  intro other stored found
  rw [OrderedMap.find?_erase] at found
  split_ifs at found
  exact every other stored found

/-- A weaker property. -/
theorem Every.mono {weaker : MatchmakingRequest → Prop} (every : WaitingQueue.Every property queue)
    (implies : ∀ request, property request → weaker request) : WaitingQueue.Every weaker queue :=
  fun id request found => implies request (every id request found)

/-- The values of the map in order have the property. -/
theorem Every.of_mem_values (every : WaitingQueue.Every property queue)
    {request : MatchmakingRequest} (member : request ∈ queue.values) : property request := by
  obtain ⟨entry, inside, rfl⟩ := List.mem_map.mp member
  exact every _ _ (OrderedMap.find?_eq_some_iff.mpr inside)

end WaitingQueue

/-! ## Party workers -/

namespace PartyMatchmakingWorker

variable {property : MatchmakingRequest → Prop} {worker : PartyMatchmakingWorker}

/-- Every request of the queue and of the buckets has a property. -/
structure Every (property : MatchmakingRequest → Prop) (worker : PartyMatchmakingWorker) :
    Prop where
  waiting : WaitingQueue.Every property worker.waitingQueue
  buckets : ∀ playerCount queue, worker.waitingQueueByPlayerCount.find? playerCount = some queue →
    WaitingQueue.Every property queue

/-- A new worker holds nothing. -/
theorem Every.default : Every property {} := ⟨WaitingQueue.Every.empty, fun _ _ => nofun⟩

/-- A weaker property of the waiting requests. -/
theorem Every.mono {weaker : MatchmakingRequest → Prop} (every : worker.Every property)
    (implies : ∀ request, property request → weaker request) : worker.Every weaker :=
  ⟨every.waiting.mono implies, fun playerCount queue found =>
    (every.buckets playerCount queue found).mono implies⟩

/-- The requests of one size. -/
theorem Every.bucket (every : worker.Every property) (playerCount : Int) :
    WaitingQueue.Every property (worker.bucket playerCount) := by
  rw [PartyMatchmakingWorker.bucket]
  cases found : worker.waitingQueueByPlayerCount.find? playerCount with
  | none => exact WaitingQueue.Every.empty
  | some queue => exact every.buckets _ _ found

/-- The buckets after one of them changes. -/
private theorem every_insertOrAssign {buckets : OrderedMap Int WaitingQueue} {playerCount : Int}
    {queue : WaitingQueue}
    (every : ∀ playerCount queue, buckets.find? playerCount = some queue →
      WaitingQueue.Every property queue)
    (holds : WaitingQueue.Every property queue) {other : Int} {stored : WaitingQueue}
    (found : (buckets.insertOrAssign playerCount queue).find? other = some stored) :
    WaitingQueue.Every property stored := by
  rw [OrderedMap.find?_insertOrAssign] at found
  split_ifs at found
  · cases found
    exact holds
  · exact every _ _ found

/-- A worker that takes a request, or refuses it. -/
theorem Every.enqueueJobRequest (every : worker.Every property) {request : MatchmakingRequest}
    (holds : property request) : (worker.enqueueJobRequest request).2.Every property := by
  simp only [PartyMatchmakingWorker.enqueueJobRequest]
  split_ifs
  · exact every
  · exact ⟨every.waiting, fun _ _ => every_insertOrAssign every.buckets (every.bucket _)⟩
  · exact ⟨every.waiting.insertOrAssign holds, fun _ _ =>
      every_insertOrAssign every.buckets ((every.bucket _).insertOrAssign holds)⟩

/-- A worker that drops a ticket. -/
theorem Every.erase (every : worker.Every property) (ticket : MatchTicket) :
    (worker.erase ticket).Every property := by
  refine ⟨every.waiting.erase _, fun playerCount queue found => ?_⟩
  rw [PartyMatchmakingWorker.erase] at found
  simp only at found
  cases present : worker.waitingQueueByPlayerCount.find? (ticket.players.length : Int) with
  | none =>
      rw [present] at found
      exact every.buckets _ _ found
  | some bucket =>
      rw [present] at found
      exact every_insertOrAssign every.buckets ((every.buckets _ _ present).erase _) found

end PartyMatchmakingWorker

/-! ## Party worker groups -/

/-- A property of workers that enqueueing the admitted requests and erasing the known tickets
keep. -/
structure PartyMatchmakingWorker.Maintained (admitted : MatchmakingRequest → Prop)
    (known : MatchTicket → Prop) (property : PartyMatchmakingWorker → Prop) : Prop where
  enqueueJobRequest : ∀ {worker request}, property worker → admitted request →
    property (worker.enqueueJobRequest request).2
  erase : ∀ {worker ticket}, property worker → known ticket → property (worker.erase ticket)

namespace PartyMatchmakingWorker

variable {worker : PartyMatchmakingWorker}

/-- Every request of a bucket is stored under its own id and has the size of the bucket. -/
def Filed (worker : PartyMatchmakingWorker) : Prop :=
  ∀ playerCount matchTicketId request,
    (worker.bucket playerCount).find? matchTicketId = some request →
      request.matchTicketId = matchTicketId ∧ request.playerCount = playerCount

/-- A new worker has no buckets. -/
theorem Filed.default : Filed {} := fun _ _ _ => nofun

/-- A bucket after one of the buckets changes. -/
theorem bucket_insertOrAssign (playerCount size : Int) (queue : WaitingQueue) :
    bucket { worker with waitingQueueByPlayerCount :=
        worker.waitingQueueByPlayerCount.insertOrAssign playerCount queue } size =
      if size = playerCount then queue else worker.bucket size := by
  rw [bucket, OrderedMap.find?_insertOrAssign]
  split_ifs <;> rfl

/-- A request is put into the bucket of its size, under its own id. -/
theorem Filed.enqueueJobRequest (filed : worker.Filed) (request : MatchmakingRequest) :
    (worker.enqueueJobRequest request).2.Filed := by
  intro size id stored found
  simp only [PartyMatchmakingWorker.enqueueJobRequest] at found
  split_ifs at found with taken counted
  · exact filed size id stored found
  · rw [bucket_insertOrAssign] at found
    split_ifs at found with same
    · subst same
      exact filed _ id stored found
    · exact filed size id stored found
  · rw [bucket, OrderedMap.find?_insertOrAssign] at found
    split_ifs at found with same
    · rw [Option.getD_some, OrderedMap.find?_insertOrAssign] at found
      split_ifs at found with own
      · cases found
        exact ⟨own.symm, same.symm⟩
      · subst same
        exact filed _ id stored found
    · exact filed size id stored found

/-- What is left in the buckets after a removal. -/
theorem Filed.erase (filed : worker.Filed) (ticket : MatchTicket) :
    (worker.erase ticket).Filed := by
  intro size id stored found
  refine filed size id stored ?_
  simp only [PartyMatchmakingWorker.erase, bucket] at found ⊢
  cases present : worker.waitingQueueByPlayerCount.find? (ticket.players.length : Int) with
  | none =>
      simp only [present] at found
      exact found
  | some queue =>
      simp only [present, OrderedMap.find?_insertOrAssign] at found
      split_ifs at found with same
      · rw [Option.getD_some, OrderedMap.find?_erase] at found
        split_ifs at found
        rw [same, present]
        exact found
      · exact found

/-- Whatever is enqueued and erased, the buckets stay in order. -/
theorem filed_maintained : Maintained (fun _ => True) (fun _ => True) Filed :=
  ⟨fun filed _ => filed.enqueueJobRequest _, fun filed _ => filed.erase _⟩

end PartyMatchmakingWorker

namespace PartyMatchmakingWorkerGroup

variable {workerCount : Nat}

/-- Every worker has a property, and the requests of the expansion schedule are admitted. -/
structure Upholds (property : PartyMatchmakingWorker → Prop)
    (admitted : MatchmakingRequest → Prop) (group : PartyMatchmakingWorkerGroup) : Prop where
  workers : ∀ index, property (group.workers index)
  expanding : ∀ entry ∈ group.matchmakingRequestSlotExpandTimeMap, admitted entry.2

namespace Upholds

variable {property : PartyMatchmakingWorker → Prop} {admitted : MatchmakingRequest → Prop}
  {known : MatchTicket → Prop} {group : PartyMatchmakingWorkerGroup}
  {request : MatchmakingRequest} {ticket : MatchTicket} {statuses : TicketStatuses}
  {slots : MatchmakingRequest → WorkerSlot}
  (maintained : PartyMatchmakingWorker.Maintained admitted known property)

/-- One worker changes. -/
theorem updateWorker (upholds : group.Upholds property admitted) (index : Int)
    {worker : PartyMatchmakingWorker} (holds : property worker) :
    (group.updateWorker index worker).Upholds property admitted := by
  refine ⟨fun other => ?_, upholds.expanding⟩
  by_cases same : other = index
  · subst same
    simpa [PartyMatchmakingWorkerGroup.updateWorker] using holds
  · simpa [PartyMatchmakingWorkerGroup.updateWorker, same] using upholds.workers other

/-- A request is scheduled for its first expansion. -/
theorem scheduleExpansion (upholds : group.Upholds property admitted) (workerCount : Nat)
    (timeSec : Int) (holds : admitted request) :
    (group.scheduleExpansion workerCount timeSec request).Upholds property admitted := by
  rw [PartyMatchmakingWorkerGroup.scheduleExpansion]
  split_ifs
  · refine ⟨upholds.workers, fun entry member => ?_⟩
    rcases mem_insertMulti.mp member with rfl | inside
    · exact holds
    · exact upholds.expanding entry inside
  · exact upholds

include maintained

/-- A request is scheduled and given to a worker, which may refuse it. -/
theorem enqueueSection (upholds : group.Upholds property admitted) {index timeSec : Int}
    (holds : admitted request) (own : known ticket) :
    (group.enqueueSection workerCount index timeSec request ticket statuses).2.1.Upholds property
      admitted := by
  have scheduled := upholds.scheduleExpansion workerCount timeSec holds
  rw [PartyMatchmakingWorkerGroup.enqueueSection]
  generalize group.scheduleExpansion workerCount timeSec request = current at scheduled ⊢
  have enqueued := maintained.enqueueJobRequest (scheduled.workers index) holds
  split_ifs
  · split
    next worker refused =>
      rw [refused] at enqueued
      exact scheduled.updateWorker index (maintained.erase enqueued own)
    next worker accepted =>
      rw [accepted] at enqueued
      exact scheduled.updateWorker index enqueued
  · exact scheduled

/-- A ticket leaves all workers. -/
theorem eraseFromWorkers (upholds : group.Upholds property admitted) (own : known ticket) :
    (group.eraseFromWorkers workerCount ticket).Upholds property admitted := by
  refine ⟨fun index => ?_, upholds.expanding⟩
  rw [PartyMatchmakingWorkerGroup.eraseFromWorkers]
  simp only
  split_ifs
  · exact maintained.erase (upholds.workers index) own
  · exact upholds.workers index

/-- A cancel leaves the group alone, or takes the ticket from all workers. -/
theorem cancelMatchTicket (upholds : group.Upholds property admitted) (own : known ticket) :
    (group.cancelMatchTicket workerCount ticket statuses).2.1.Upholds property admitted := by
  rw [PartyMatchmakingWorkerGroup.cancelMatchTicket]
  split
  · exact upholds
  · exact upholds.eraseFromWorkers maintained own

/-- A request leaves the workers of its range. -/
theorem eraseFromRange (upholds : group.Upholds property admitted)
    (own : ∀ ticket, request.matchTicketPtr = some ticket → known ticket) :
    (group.eraseFromRange workerCount slots request).Upholds property admitted := by
  rw [PartyMatchmakingWorkerGroup.eraseFromRange]
  cases pointer : request.matchTicketPtr with
  | none => exact upholds
  | some ticket =>
      refine ⟨fun index => ?_, upholds.expanding⟩
      simp only
      split_ifs
      · exact maintained.erase (upholds.workers index) (own ticket pointer)
      · exact upholds.workers index

/-- A commit leaves the group alone, or takes its requests out one by one. -/
theorem tryCommitMatchmakingRequests (upholds : group.Upholds property admitted)
    {requests : List (Option MatchmakingRequest)}
    (own : ∀ request, some request ∈ requests →
      ∀ ticket, request.matchTicketPtr = some ticket → known ticket) :
    (group.tryCommitMatchmakingRequests workerCount slots requests statuses).2.1.Upholds property
      admitted := by
  rw [PartyMatchmakingWorkerGroup.tryCommitMatchmakingRequests]
  split_ifs
  · exact upholds
  · split
    · exact upholds
    · split
      · exact upholds
      · have listed : ∀ request ∈ requests.reduceOption,
            ∀ ticket, request.matchTicketPtr = some ticket → known ticket :=
          fun request inside => own request (List.reduceOption_mem_iff.mp inside)
        generalize requests.reduceOption = erased at listed
        clear * - upholds listed maintained
        induction erased generalizing group with
        | nil => exact upholds
        | cons head rest ih =>
            exact ih (upholds.eraseFromRange maintained (listed head List.mem_cons_self))
              fun request inside => listed request (List.mem_cons_of_mem _ inside)

/-- A request is given to a worker that exists. -/
theorem enqueueAt (upholds : group.Upholds property admitted) (index : Int)
    (holds : admitted request) :
    (group.enqueueAt workerCount index request).Upholds property admitted := by
  rw [PartyMatchmakingWorkerGroup.enqueueAt]
  split_ifs
  · exact upholds.updateWorker index
      (maintained.enqueueJobRequest (upholds.workers index) holds)
  · exact upholds

/-- An expansion gives a request to one or two further workers. -/
theorem expandRequest (upholds : group.Upholds property admitted) (holds : admitted request) :
    (PartyMatchmakingWorkerGroup.expandRequest workerCount request group slots).2.1.Upholds
      property admitted := by
  rw [PartyMatchmakingWorkerGroup.expandRequest]
  simp only
  split_ifs
  · exact (upholds.enqueueAt maintained _ holds).enqueueAt maintained _ holds
  · exact upholds.enqueueAt maintained _ holds
  · exact upholds.enqueueAt maintained _ holds
  · exact upholds

/-- The due requests are expanded one by one, and those to be scheduled again are admitted. -/
theorem expandDue {due : List (Int × MatchmakingRequest)}
    (upholds : group.Upholds property admitted) (workerCount : Nat) (statuses : TicketStatuses)
    (slots : MatchmakingRequest → WorkerSlot) (holds : ∀ entry ∈ due, admitted entry.2) :
    let expanded := PartyMatchmakingWorkerGroup.expandDue workerCount statuses due group slots
    (∀ request ∈ expanded.1, admitted request) ∧ expanded.2.1.Upholds property admitted := by
  induction due generalizing group slots with
  | nil => exact ⟨nofun, upholds⟩
  | cons head rest ih =>
      obtain ⟨timeSec, request⟩ := head
      have first : admitted request := holds _ List.mem_cons_self
      have others : ∀ entry ∈ rest, admitted entry.2 :=
        fun entry inside => holds entry (List.mem_cons_of_mem _ inside)
      rw [PartyMatchmakingWorkerGroup.expandDue]
      simp only
      split_ifs
      · obtain ⟨scheduled, kept⟩ := ih (upholds.expandRequest maintained first) _ others
        refine ⟨fun other member => ?_, kept⟩
        rcases List.mem_cons.mp member with rfl | inside
        · exact first
        · exact scheduled other inside
      · exact ih (upholds.expandRequest maintained first) _ others
      · exact ih upholds _ others

/-- The due requests are expanded, and some of them scheduled again. -/
theorem expandMatchmakingWorkerSlot (upholds : group.Upholds property admitted)
    (timeSec : Int) :
    (group.expandMatchmakingWorkerSlot workerCount timeSec statuses slots).1.Upholds property
      admitted := by
  have due := upholds.expandDue maintained workerCount statuses slots
    (fun entry (inside : entry ∈
      group.matchmakingRequestSlotExpandTimeMap.takeWhile (·.1 ≤ timeSec - 1)) =>
      upholds.expanding entry ((List.takeWhile_sublist _).mem inside))
  have later : ∀ entry ∈ group.matchmakingRequestSlotExpandTimeMap.dropWhile (·.1 ≤ timeSec - 1),
      admitted entry.2 :=
    fun entry inside => upholds.expanding entry ((List.dropWhile_sublist _).mem inside)
  refine ⟨due.2.workers, ?_⟩
  rw [PartyMatchmakingWorkerGroup.expandMatchmakingWorkerSlot]
  simp only
  generalize group.matchmakingRequestSlotExpandTimeMap.dropWhile (·.1 ≤ timeSec - 1) = entries
    at later
  have scheduled := due.1
  generalize (PartyMatchmakingWorkerGroup.expandDue workerCount statuses _ group slots).1 =
    requests at scheduled ⊢
  clear due
  induction requests generalizing entries with
  | nil => exact later
  | cons head rest ih =>
      refine ih (insertMulti timeSec head entries) (fun entry member => ?_)
        fun request inside => scheduled request (List.mem_cons_of_mem _ inside)
      rcases mem_insertMulti.mp member with rfl | inside
      · exact scheduled head List.mem_cons_self
      · exact later entry inside

end Upholds

section Every

variable {property : MatchmakingRequest → Prop} {group : PartyMatchmakingWorkerGroup}

/-- Every request of the workers and of the expansion schedule has a property. -/
structure Every (property : MatchmakingRequest → Prop) (group : PartyMatchmakingWorkerGroup) :
    Prop where
  workers : ∀ index, (group.workers index).Every property
  expanding : ∀ entry ∈ group.matchmakingRequestSlotExpandTimeMap, property entry.2

/-- A new group holds nothing. -/
theorem Every.default : Every property {} :=
  ⟨fun _ => PartyMatchmakingWorker.Every.default, nofun⟩

/-- A weaker property of the requests of a group. -/
theorem Every.mono {weaker : MatchmakingRequest → Prop} (every : group.Every property)
    (implies : ∀ request, property request → weaker request) : group.Every weaker :=
  ⟨fun index => (every.workers index).mono implies,
    fun entry inside => implies _ (every.expanding entry inside)⟩

/-- Whatever is erased, the requests that are left have the property. -/
private theorem every_maintained : PartyMatchmakingWorker.Maintained property (fun _ => True)
    (PartyMatchmakingWorker.Every property) :=
  ⟨fun every holds => every.enqueueJobRequest holds, fun every _ => every.erase _⟩

/-- A property of requests as one of workers. -/
private theorem every_iff_upholds :
    group.Every property ↔ group.Upholds (PartyMatchmakingWorker.Every property) property :=
  ⟨fun every => ⟨every.workers, every.expanding⟩,
    fun upholds => ⟨upholds.workers, upholds.expanding⟩⟩

/-- The group takes one more request. -/
theorem Every.enqueueSection (every : group.Every property) {index timeSec : Int}
    {request : MatchmakingRequest} {ticket : MatchTicket} {statuses : TicketStatuses}
    (holds : property request) :
    (group.enqueueSection workerCount index timeSec request ticket statuses).2.1.Every
      property :=
  every_iff_upholds.mpr
    ((every_iff_upholds.mp every).enqueueSection every_maintained holds trivial)

/-- The group drops a ticket. -/
theorem Every.cancelMatchTicket (every : group.Every property) (ticket : MatchTicket)
    (statuses : TicketStatuses) :
    (group.cancelMatchTicket workerCount ticket statuses).2.1.Every property :=
  every_iff_upholds.mpr ((every_iff_upholds.mp every).cancelMatchTicket every_maintained trivial)

/-- The group hands over the requests of a match. -/
theorem Every.tryCommitMatchmakingRequests (every : group.Every property)
    (slots : MatchmakingRequest → WorkerSlot) (requests : List (Option MatchmakingRequest))
    (statuses : TicketStatuses) :
    (group.tryCommitMatchmakingRequests workerCount slots requests statuses).2.1.Every
      property :=
  every_iff_upholds.mpr ((every_iff_upholds.mp every).tryCommitMatchmakingRequests
    every_maintained fun _ _ _ _ => trivial)

/-- The group passes on requests it has. -/
theorem Every.expandMatchmakingWorkerSlot (every : group.Every property) (timeSec : Int)
    (statuses : TicketStatuses) (slots : MatchmakingRequest → WorkerSlot) :
    (group.expandMatchmakingWorkerSlot workerCount timeSec statuses slots).1.Every property :=
  every_iff_upholds.mpr
    ((every_iff_upholds.mp every).expandMatchmakingWorkerSlot every_maintained timeSec)

/-- An expansion changes the ranges of due requests only. -/
theorem expandDue_slots {statuses : TicketStatuses} (due : List (Int × MatchmakingRequest))
    (slots : MatchmakingRequest → WorkerSlot) {request : MatchmakingRequest}
    (outside : ∀ entry ∈ due, entry.2 ≠ request) :
    (PartyMatchmakingWorkerGroup.expandDue workerCount statuses due group slots).2.2 request =
      slots request := by
  induction due generalizing group slots with
  | nil => rfl
  | cons head rest ih =>
      obtain ⟨timeSec, first⟩ := head
      have different : request ≠ first := (outside _ List.mem_cons_self).symm
      have others : ∀ entry ∈ rest, entry.2 ≠ request :=
        fun entry inside => outside entry (List.mem_cons_of_mem _ inside)
      rw [PartyMatchmakingWorkerGroup.expandDue]
      simp only
      split_ifs
      · rw [ih _ others]
        exact Function.update_of_ne different _ _
      · rw [ih _ others]
        exact Function.update_of_ne different _ _
      · exact ih _ others

/-- Only scheduled requests have their range extended. -/
theorem expandMatchmakingWorkerSlot_slots {timeSec : Int} {statuses : TicketStatuses}
    {slots : MatchmakingRequest → WorkerSlot} {request : MatchmakingRequest}
    (outside : ∀ entry ∈ group.matchmakingRequestSlotExpandTimeMap, entry.2 ≠ request) :
    (group.expandMatchmakingWorkerSlot workerCount timeSec statuses slots).2 request =
      slots request :=
  expandDue_slots _ slots fun entry inside =>
    outside entry ((List.takeWhile_sublist _).mem inside)

end Every

end PartyMatchmakingWorkerGroup

/-! ## Solo workers -/

namespace SoloMatchmakingWorker

variable {property : MatchmakingRequest → Prop} {worker : SoloMatchmakingWorker}

/-- Every request waiting or in progress has a property. -/
structure Every (property : MatchmakingRequest → Prop) (worker : SoloMatchmakingWorker) :
    Prop where
  waiting : WaitingQueue.Every property worker.waitingQueue
  progressing : WaitingQueue.Every property worker.sendProgressingList

/-- A new worker has an empty queue and an empty list. -/
theorem Every.default : Every property {} := ⟨WaitingQueue.Every.empty, WaitingQueue.Every.empty⟩

/-- A weaker property of the tickets of a worker. -/
theorem Every.mono {weaker : MatchmakingRequest → Prop} (every : worker.Every property)
    (implies : ∀ request, property request → weaker request) : worker.Every weaker :=
  ⟨every.waiting.mono implies, every.progressing.mono implies⟩

/-- The worker takes a request that has the property. -/
theorem Every.enqueueJobRequest (every : worker.Every property) {request : MatchmakingRequest}
    (holds : property request) (statuses : TicketStatuses) :
    (worker.enqueueJobRequest statuses request).2.Every property := by
  rw [SoloMatchmakingWorker.enqueueJobRequest]
  split
  · exact every
  · split_ifs
    · exact every
    · exact every
    · exact ⟨every.waiting.insertOrAssign holds, every.progressing⟩

/-- The worker drops a ticket. -/
theorem Every.erase (every : worker.Every property) (ticket : MatchTicket) :
    (worker.erase ticket).Every property :=
  ⟨every.waiting.erase _, every.progressing.erase _⟩

/-- A cancel drops the ticket or nothing. -/
theorem Every.cancel (every : worker.Every property) (ticket : MatchTicket)
    (statuses : TicketStatuses) : (worker.cancel ticket statuses).2.1.Every property := by
  rw [SoloMatchmakingWorker.cancel]
  split
  · exact every
  · exact every.erase ticket

/-- What is moved from the queue to the list in progress keeps the property. -/
theorem every_fillProgressingList {matchPlayerCount : Int}
    {entries : List (MatchTicketId × MatchmakingRequest)} {waitingQueue progressing : WaitingQueue}
    (holds : ∀ entry ∈ entries, property entry.2)
    (waiting : WaitingQueue.Every property waitingQueue)
    (inProgress : WaitingQueue.Every property progressing) :
    WaitingQueue.Every property
        (fillProgressingList matchPlayerCount entries waitingQueue progressing).1 ∧
      WaitingQueue.Every property
        (fillProgressingList matchPlayerCount entries waitingQueue progressing).2 := by
  induction entries generalizing waitingQueue progressing with
  | nil => exact ⟨waiting, inProgress⟩
  | cons head rest ih =>
      obtain ⟨matchTicketId, request⟩ := head
      rw [fillProgressingList]
      split_ifs
      · exact ⟨waiting, inProgress⟩
      · exact ih (fun entry inside => holds entry (List.mem_cons_of_mem _ inside))
          (waiting.erase _) (inProgress.emplace (holds _ List.mem_cons_self))

/-- A worker whose list in progress was filled. -/
theorem Every.filled (every : worker.Every property) (rule : MatchmakingRule) :
    (worker.filled rule).Every property := by
  obtain ⟨waiting, progressing⟩ := every_fillProgressingList
    (fun _ inside => every.waiting _ _ (OrderedMap.find?_eq_some_iff.mpr inside))
    every.waiting every.progressing
  exact ⟨waiting, progressing⟩

/-- A run moves, hands over or fails tickets of the worker only. -/
theorem Every.doWorkerAsyncJob (every : worker.Every property) (rule : MatchmakingRule)
    (statuses : TicketStatuses) : (worker.doWorkerAsyncJob rule statuses).2.1.Every property := by
  have filled := every.filled rule
  simp only [SoloMatchmakingWorker.doWorkerAsyncJob]
  by_cases complete : sizeAtLeast (worker.filled rule).sendProgressingList.size
      rule.matchPlayerCount
  · rw [if_pos complete]
    exact ⟨filled.waiting, WaitingQueue.Every.empty⟩
  · rw [if_neg complete]
    exact filled

end SoloMatchmakingWorker

end MatchmakingMvp
