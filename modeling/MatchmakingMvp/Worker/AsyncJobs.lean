import MatchmakingMvp.System.World

/-! # Async job workers

The worker behind every timeout, penalty and zone expiry: a queue of requests ordered by
their due times, from which `doWorkerAsyncJob` removes the first and calls its function once
it is due. Due times are signed, the clock is unsigned, and a due time is converted for the
comparison with the clock.

In a run of any enqueues and calls, nothing is lost, repeated or early
(`MatchmakingMvp.asyncJobs_executed_in_order`). A due job is executed unless a pending job
has a negative due time (`MatchmakingMvp.AsyncJobWorker.unblocked_iff`). -/

namespace MatchmakingMvp

open Foundation

/-- A request object. The serial number is the number of requests enqueued before it. -/
structure AsyncJobRequest (Job : Type) where
  serial : Nat
  jobExecuteTimeMsec : Int64
  jobFunc : Job
deriving DecidableEq

variable {Job : Type}

/-- The comparison with the clock, which is between unsigned integers. -/
def AsyncJobRequest.IsDue (request : AsyncJobRequest Job) (timeMsec : UInt64) : Prop :=
  request.jobExecuteTimeMsec.toUInt64 ≤ timeMsec

instance (request : AsyncJobRequest Job) (timeMsec : UInt64) :
    Decidable (request.IsDue timeMsec) :=
  inferInstanceAs (Decidable (_ ≤ _))

/-- A worker. Its queue maps due times to pointers, in the order of the due times and, where
they are equal, of the insertions. -/
structure AsyncJobWorker (Job : Type) where
  waitingQueue : List (Int × Option (AsyncJobRequest Job)) := []
  ascending : waitingQueue.Pairwise (fun earlier later => earlier.1 ≤ later.1) := by simp
  keyed : ∀ entry ∈ waitingQueue, ∃ request,
    entry = (request.jobExecuteTimeMsec.toInt, some request) := by simp

namespace AsyncJobWorker

def isWorkerJobAvailable (worker : AsyncJobWorker Job) (timeMsec : UInt64) : Bool :=
  match worker.waitingQueue with
  | [] => false
  | (_, none) :: _ => false
  | (_, some nextJob) :: _ => nextJob.IsDue timeMsec

/-- The queue without its first entry. -/
def eraseFirst (worker : AsyncJobWorker Job) : AsyncJobWorker Job where
  waitingQueue := worker.waitingQueue.tail
  ascending := worker.ascending.sublist (List.tail_sublist _)
  keyed := fun entry inside => worker.keyed entry (List.mem_of_mem_tail inside)

/-- The request whose function the call executes, if it returns true, and the worker after
the call has let go of its lock. -/
def doWorkerAsyncJob (worker : AsyncJobWorker Job) (timeMsec : UInt64) :
    Option (AsyncJobRequest Job) × AsyncJobWorker Job :=
  match worker.waitingQueue with
  | [] => (none, worker)
  | (_, none) :: _ => (none, worker.eraseFirst)
  | (_, some request) :: _ =>
      if request.IsDue timeMsec then (some request, worker.eraseFirst) else (none, worker)

/-- Requests of another type are null after the cast, and refused. -/
def enqueueJobRequest (worker : AsyncJobWorker Job) (request : Option (AsyncJobRequest Job)) :
    Bool × AsyncJobWorker Job :=
  match request with
  | none => (false, worker)
  | some request =>
      (true,
        { waitingQueue := insertMulti request.jobExecuteTimeMsec.toInt (some request)
            worker.waitingQueue
          ascending := insertMulti_pairwise worker.ascending (fun _ _ ordered => ordered)
            (fun _ _ follows => follows) (fun _ _ leads => leads.le)
          keyed := fun entry inside => (mem_insertMulti.mp inside).elim
            (fun added => ⟨request, added⟩) (worker.keyed entry) })

/-- The pending requests, in their order. -/
def requests (worker : AsyncJobWorker Job) : List (AsyncJobRequest Job) :=
  worker.waitingQueue.filterMap Prod.snd

end AsyncJobWorker

/-- The workers of a group. -/
structure AsyncJobWorkerGroup (Job : Type) where
  workerCount : Int
  workers : Int → AsyncJobWorker Job := fun _ => {}

namespace AsyncJobWorkerGroup

def getWorkerIndex (group : AsyncJobWorkerGroup Job) (request : AsyncJobRequest Job) : Int :=
  request.jobExecuteTimeMsec.toInt.tmod group.workerCount

/-- `DoAsyncJob`. The request is refused where its remainder is no index of a worker. -/
def doAsyncJob (group : AsyncJobWorkerGroup Job) (request : AsyncJobRequest Job) :
    Bool × AsyncJobWorkerGroup Job :=
  let index := group.getWorkerIndex request
  if 0 ≤ index ∧ index < group.workerCount then
    let enqueued := (group.workers index).enqueueJobRequest (some request)
    (enqueued.1, { group with workers := Function.update group.workers index enqueued.2 })
  else (false, group)

end AsyncJobWorkerGroup

/-! ## Due times -/

theorem AsyncJobRequest.isDue_iff (request : AsyncJobRequest Job) (timeMsec : UInt64) :
    request.IsDue timeMsec ↔ request.jobExecuteTimeMsec.toInt % 2 ^ 64 ≤ timeMsec.toNat := by
  have converted : request.jobExecuteTimeMsec.toInt % 2 ^ 64 =
      request.jobExecuteTimeMsec.toUInt64.toNat := by
    rw [← Int64.toInt_toBitVec, BitVec.toInt_eq_toNat_bmod, Int64.toNat_toBitVec]
    have small := request.jobExecuteTimeMsec.toUInt64.toNat_lt
    rw [show (2 : Int) ^ 64 = ((2 ^ 64 : Nat) : Int) from rfl, Int.bmod_emod]
    exact Int.emod_eq_of_lt (Int.natCast_nonneg _) (by exact_mod_cast small)
  rw [converted, IsDue, UInt64.le_iff_toNat_le, Int.ofNat_le]

/-- A due time that has passed is no obstacle, unless it is negative. -/
theorem AsyncJobRequest.isDue_iff_of_nonneg {request : AsyncJobRequest Job} {timeMsec : UInt64}
    (later : 0 ≤ request.jobExecuteTimeMsec.toInt) :
    request.IsDue timeMsec ↔ request.jobExecuteTimeMsec.toInt ≤ timeMsec.toNat := by
  have small := request.jobExecuteTimeMsec.toInt_lt
  rw [request.isDue_iff, Int.emod_eq_of_lt later (by omega)]

theorem AsyncJobRequest.isDue_iff_of_neg {request : AsyncJobRequest Job} {timeMsec : UInt64}
    (early : request.jobExecuteTimeMsec.toInt < 0) :
    request.IsDue timeMsec ↔ request.jobExecuteTimeMsec.toInt + 2 ^ 64 ≤ timeMsec.toNat := by
  have large := request.jobExecuteTimeMsec.le_toInt
  rw [request.isDue_iff, ← Int.add_emod_right, Int.emod_eq_of_lt (by omega) (by omega)]

/-- No job is executed before its due time. -/
theorem AsyncJobRequest.IsDue.le {request : AsyncJobRequest Job} {timeMsec : UInt64}
    (due : request.IsDue timeMsec) :
    request.jobExecuteTimeMsec.toInt ≤ timeMsec.toNat := by
  rcases lt_or_ge request.jobExecuteTimeMsec.toInt 0 with early | later
  · omega
  · exact (isDue_iff_of_nonneg later).mp due

/-! ## The queue of a worker -/

namespace AsyncJobWorker

theorem waitingQueue_eq (worker : AsyncJobWorker Job) :
    worker.waitingQueue = worker.requests.map
      (fun request => (request.jobExecuteTimeMsec.toInt, some request)) := by
  rw [requests, List.map_filterMap]
  have same : ∀ entry ∈ worker.waitingQueue,
      entry.2.map (fun request => (request.jobExecuteTimeMsec.toInt, some request)) =
        some entry := by
    intro entry inside
    obtain ⟨request, rfl⟩ := worker.keyed entry inside
    rfl
  rw [List.filterMap_congr same, List.filterMap_some]

@[simp] theorem requests_eraseFirst (worker : AsyncJobWorker Job) :
    worker.eraseFirst.requests = worker.requests.tail := by
  have queue := worker.waitingQueue_eq
  cases pending : worker.requests with
  | nil =>
      rw [pending] at queue
      simp [requests, eraseFirst, queue]
  | cons request rest =>
      rw [pending] at queue
      simp [requests, eraseFirst, queue, List.filterMap_map]

/-- The due times ascend. -/
theorem requests_ascending (worker : AsyncJobWorker Job) :
    worker.requests.Pairwise fun earlier later =>
      earlier.jobExecuteTimeMsec.toInt ≤ later.jobExecuteTimeMsec.toInt := by
  have ascending := worker.ascending
  rw [worker.waitingQueue_eq, List.pairwise_map] at ascending
  exact ascending

/-- The first request decides whether a job is available. -/
theorem isWorkerJobAvailable_eq (worker : AsyncJobWorker Job) (timeMsec : UInt64) :
    worker.isWorkerJobAvailable timeMsec =
      worker.requests.head?.any fun request => request.IsDue timeMsec := by
  rw [isWorkerJobAvailable, worker.waitingQueue_eq]
  cases worker.requests with
  | nil => rfl
  | cons request rest => rfl

/-- A call executes the first request if it is due, and does nothing otherwise. -/
theorem doWorkerAsyncJob_eq (worker : AsyncJobWorker Job) (timeMsec : UInt64) :
    worker.doWorkerAsyncJob timeMsec =
      match worker.requests with
      | [] => (none, worker)
      | request :: _ =>
          if request.IsDue timeMsec then (some request, worker.eraseFirst)
          else (none, worker) := by
  rw [doWorkerAsyncJob, worker.waitingQueue_eq]
  cases worker.requests with
  | nil => rfl
  | cons request rest => rfl

/-- The due time and the request. -/
private def timed (request : AsyncJobRequest Job) : Int × AsyncJobRequest Job :=
  (request.jobExecuteTimeMsec.toInt, request)

/-- An enqueued request follows the pending ones with its due time or an earlier one. -/
theorem requests_enqueueJobRequest (worker : AsyncJobWorker Job)
    (request : AsyncJobRequest Job) :
    (worker.enqueueJobRequest (some request)).2.requests =
      (insertMulti request.jobExecuteTimeMsec.toInt request
        (worker.requests.map timed)).map Prod.snd := by
  have queue : worker.waitingQueue = (worker.requests.map timed).map (Prod.map id some) := by
    rw [worker.waitingQueue_eq, List.map_map]
    rfl
  have inserted : (worker.enqueueJobRequest (some request)).2.waitingQueue =
      (insertMulti request.jobExecuteTimeMsec.toInt request
        (worker.requests.map timed)).map (Prod.map id some) := by
    rw [insertMulti_map, ← queue]
    rfl
  rw [requests, inserted, List.filterMap_map]
  exact congrFun List.filterMap_eq_map _

theorem perm_enqueueJobRequest (worker : AsyncJobWorker Job) (request : AsyncJobRequest Job) :
    (worker.enqueueJobRequest (some request)).2.requests.Perm (request :: worker.requests) := by
  rw [requests_enqueueJobRequest]
  refine ((insertMulti_perm _ _ _).map Prod.snd).trans ?_
  rw [List.map_cons, List.map_map]
  exact (List.Perm.of_eq (List.map_id _)).cons request

/-- An order that agrees with the due times and has the new request after the ones with its
due time is kept. -/
theorem pairwise_enqueueJobRequest {worker : AsyncJobWorker Job}
    {precedes : AsyncJobRequest Job → AsyncJobRequest Job → Prop}
    (sorted : worker.requests.Pairwise precedes) {request : AsyncJobRequest Job}
    (follows : ∀ pending ∈ worker.requests,
      pending.jobExecuteTimeMsec.toInt ≤ request.jobExecuteTimeMsec.toInt →
        precedes pending request)
    (leads : ∀ pending ∈ worker.requests,
      request.jobExecuteTimeMsec.toInt < pending.jobExecuteTimeMsec.toInt →
        precedes request pending) :
    (worker.enqueueJobRequest (some request)).2.requests.Pairwise precedes := by
  let ordered (earlier later : Int × AsyncJobRequest Job) : Prop :=
    earlier.1 ≤ later.1 ∧ precedes earlier.2 later.2
  have inserted : (insertMulti request.jobExecuteTimeMsec.toInt request
      (worker.requests.map timed)).Pairwise ordered := by
    refine insertMulti_pairwise ?_ (fun _ _ ordered => ordered.1)
      (fun entry inside least => ⟨least, ?_⟩) fun entry inside greater => ⟨greater.le, ?_⟩
    · exact List.pairwise_map.mpr (worker.requests_ascending.and sorted)
    · obtain ⟨pending, waiting, rfl⟩ := List.mem_map.mp inside
      exact follows pending waiting least
    · obtain ⟨pending, waiting, rfl⟩ := List.mem_map.mp inside
      exact leads pending waiting greater
  rw [requests_enqueueJobRequest]
  exact List.pairwise_map.mpr (inserted.imp And.right)

/-! ## No job waits behind another -/

/-- Some pending job's due time has passed, as integers. -/
def HasDueJob (worker : AsyncJobWorker Job) (timeMsec : UInt64) : Prop :=
  ∃ request ∈ worker.requests, request.jobExecuteTimeMsec.toInt ≤ timeMsec.toNat

/-- The worker after a number of calls at one time. -/
def doWorkerAsyncJobs (worker : AsyncJobWorker Job) (timeMsec : UInt64) : Nat → AsyncJobWorker Job
  | 0 => worker
  | calls + 1 => (worker.doWorkerAsyncJob timeMsec).2.doWorkerAsyncJobs timeMsec calls

/-- Where a job's due time has passed, a job is available and is executed, and repeated calls
execute every job whose due time has passed. -/
structure Unblocked (worker : AsyncJobWorker Job) (timeMsec : UInt64) : Prop where
  available : worker.HasDueJob timeMsec → worker.isWorkerJobAvailable timeMsec = true
  executes : worker.HasDueJob timeMsec → (worker.doWorkerAsyncJob timeMsec).1.isSome = true
  drains : ∃ calls, ¬ (worker.doWorkerAsyncJobs timeMsec calls).HasDueJob timeMsec

/-- A request that is not due by the comparison with the clock stays. -/
theorem mem_requests_doWorkerAsyncJobs {worker : AsyncJobWorker Job} {timeMsec : UInt64}
    {request : AsyncJobRequest Job} (pending : request ∈ worker.requests)
    (early : ¬ request.IsDue timeMsec) (calls : Nat) :
    request ∈ (worker.doWorkerAsyncJobs timeMsec calls).requests := by
  induction calls generalizing worker with
  | zero => exact pending
  | succ calls ih =>
      apply ih
      rw [doWorkerAsyncJob_eq]
      cases waiting : worker.requests with
      | nil => simp [waiting] at pending
      | cons first rest =>
          simp only
          split_ifs with due
          · rw [requests_eraseFirst, waiting]
            rw [waiting] at pending
            refine (List.mem_cons.mp pending).resolve_left ?_
            rintro rfl
            exact early due
          · exact pending

theorem doWorkerAsyncJobs_of_idle {worker : AsyncJobWorker Job} {timeMsec : UInt64}
    (idle : (worker.doWorkerAsyncJob timeMsec).2 = worker) (calls : Nat) :
    worker.doWorkerAsyncJobs timeMsec calls = worker := by
  induction calls with
  | zero => rfl
  | succ calls ih => rw [doWorkerAsyncJobs, idle, ih]

/-- Where the comparison with the clock agrees with the integers, the first job is due as
soon as any job's due time has passed. -/
theorem HasDueJob.first {worker : AsyncJobWorker Job} {timeMsec : UInt64}
    (passed : worker.HasDueJob timeMsec)
    (agree : ∀ request ∈ worker.requests,
      request.jobExecuteTimeMsec.toInt ≤ timeMsec.toNat → request.IsDue timeMsec) :
    ∃ first rest, worker.requests = first :: rest ∧ first.IsDue timeMsec := by
  obtain ⟨request, pending, past⟩ := passed
  have ascending := worker.requests_ascending
  cases waiting : worker.requests with
  | nil => simp [waiting] at pending
  | cons first rest =>
      rw [waiting] at pending ascending agree
      refine ⟨first, rest, rfl, agree first List.mem_cons_self ?_⟩
      rcases List.mem_cons.mp pending with rfl | later
      · exact past
      · exact ((List.pairwise_cons.mp ascending).1 request later).trans past

/-- Then calls for every pending job leave no job whose due time has passed. -/
theorem not_hasDueJob_doWorkerAsyncJobs {worker : AsyncJobWorker Job} {timeMsec : UInt64}
    (agree : ∀ request ∈ worker.requests,
      request.jobExecuteTimeMsec.toInt ≤ timeMsec.toNat → request.IsDue timeMsec) :
    ¬ (worker.doWorkerAsyncJobs timeMsec worker.requests.length).HasDueJob timeMsec := by
  generalize length : worker.requests.length = calls
  induction calls generalizing worker with
  | zero =>
      rintro ⟨request, pending, -⟩
      rw [doWorkerAsyncJobs, List.length_eq_zero_iff.mp length] at pending
      exact absurd pending List.not_mem_nil
  | succ calls ih =>
      by_cases passed : worker.HasDueJob timeMsec
      · obtain ⟨first, rest, waiting, due⟩ := passed.first agree
        have taken : (worker.doWorkerAsyncJob timeMsec).2 = worker.eraseFirst := by
          simp [doWorkerAsyncJob_eq, waiting, due]
        have left : worker.eraseFirst.requests = rest := by
          rw [requests_eraseFirst, waiting, List.tail_cons]
        rw [waiting] at agree length
        rw [doWorkerAsyncJobs, taken]
        refine ih (fun request later => agree request ?_) ?_
        · exact List.mem_cons_of_mem _ (left ▸ later)
        · rw [left]
          exact Nat.succ.inj length
      · rw [doWorkerAsyncJobs_of_idle]
        · exact passed
        · rw [doWorkerAsyncJob_eq]
          cases waiting : worker.requests with
          | nil => rfl
          | cons first rest =>
              have early : ¬ first.IsDue timeMsec := fun due =>
                passed ⟨first, waiting ▸ List.mem_cons_self, due.le⟩
              simp [early]

/-- **A due job is executed exactly where no negative due time is pending.** A negative due
time is compared as the unsigned integer it converts to, so it counts as due only for a clock
that has reached that integer, and every job behind it waits as long. -/
theorem unblocked_iff (worker : AsyncJobWorker Job) (timeMsec : UInt64) :
    worker.Unblocked timeMsec ↔ ∀ request ∈ worker.requests,
      request.jobExecuteTimeMsec.toInt < 0 →
        request.jobExecuteTimeMsec.toInt + 2 ^ 64 ≤ timeMsec.toNat := by
  constructor
  · intro unblocked request pending negative
    by_contra early
    obtain ⟨calls, drained⟩ := unblocked.drains
    refine drained ⟨request, mem_requests_doWorkerAsyncJobs pending ?_ calls, by omega⟩
    rwa [AsyncJobRequest.isDue_iff_of_neg negative]
  · intro reached
    have agree : ∀ request ∈ worker.requests,
        request.jobExecuteTimeMsec.toInt ≤ timeMsec.toNat → request.IsDue timeMsec := by
      intro request pending passed
      rcases lt_or_ge request.jobExecuteTimeMsec.toInt 0 with negative | later
      · exact (AsyncJobRequest.isDue_iff_of_neg negative).mpr (reached request pending negative)
      · exact (AsyncJobRequest.isDue_iff_of_nonneg later).mpr passed
    refine ⟨fun passed => ?_, fun passed => ?_, _, not_hasDueJob_doWorkerAsyncJobs agree⟩
    · obtain ⟨first, rest, waiting, due⟩ := passed.first agree
      simp [isWorkerJobAvailable_eq, waiting, due]
    · obtain ⟨first, rest, waiting, due⟩ := passed.first agree
      simp [doWorkerAsyncJob_eq, waiting, due]

/-! ## The queues of the world -/

/-- The due times and functions of the pending requests. -/
def toQueue (worker : AsyncJobWorker Job) : AsyncJobQueue Job :=
  worker.requests.map fun request => (request.jobExecuteTimeMsec.toInt, request.jobFunc)

/-- A call takes the job that the world's queue gives up. -/
theorem toQueue_doWorkerAsyncJob (worker : AsyncJobWorker Job) (timeMsec : UInt64) :
    worker.toQueue.takeJob timeMsec.toNat =
      ((worker.doWorkerAsyncJob timeMsec).1.map AsyncJobRequest.jobFunc,
        (worker.doWorkerAsyncJob timeMsec).2.toQueue) := by
  rw [doWorkerAsyncJob_eq, toQueue]
  cases waiting : worker.requests with
  | nil => simp [AsyncJobQueue.takeJob, toQueue, waiting]
  | cons request rest =>
      have late : request.jobExecuteTimeMsec.toInt % 2 ^ 64 > (timeMsec.toNat : Int) ↔
          ¬ request.IsDue timeMsec := by
        rw [request.isDue_iff, not_le]
      rw [List.map_cons, AsyncJobQueue.takeJob]
      by_cases due : request.IsDue timeMsec
      · rw [if_neg (late.not_left.mpr due)]
        simp [due, toQueue, waiting]
      · rw [if_pos (late.mpr due)]
        simp [due, toQueue, waiting]

/-- An enqueued job takes the place it takes in the world's queue. -/
theorem toQueue_enqueueJobRequest (worker : AsyncJobWorker Job) (request : AsyncJobRequest Job) :
    (worker.enqueueJobRequest (some request)).2.toQueue =
      worker.toQueue.enqueueJobRequest request.jobExecuteTimeMsec.toInt request.jobFunc := by
  have keyed : ∀ entry ∈ insertMulti request.jobExecuteTimeMsec.toInt request
      (worker.requests.map timed), entry = timed entry.2 := by
    intro entry inside
    rcases mem_insertMulti.mp inside with rfl | earlier
    · rfl
    · obtain ⟨pending, -, rfl⟩ := List.mem_map.mp earlier
      rfl
  calc (worker.enqueueJobRequest (some request)).2.toQueue
      = (insertMulti request.jobExecuteTimeMsec.toInt request
          (worker.requests.map timed)).map (Prod.map id AsyncJobRequest.jobFunc) := by
        rw [toQueue, requests_enqueueJobRequest, List.map_map]
        exact List.map_congr_left fun entry inside => by rw [keyed entry inside]; rfl
    _ = insertMulti request.jobExecuteTimeMsec.toInt request.jobFunc
          ((worker.requests.map timed).map (Prod.map id AsyncJobRequest.jobFunc)) :=
        insertMulti_map ..
    _ = worker.toQueue.enqueueJobRequest request.jobExecuteTimeMsec.toInt request.jobFunc := by
        rw [List.map_map]
        rfl

end AsyncJobWorker

/-- A group with one worker accepts the due times -1 and 5, and at time 10 the worker
executes neither of the two jobs. -/
theorem asyncJobs_blocked_by_negative :
    let group : AsyncJobWorkerGroup Unit := { workerCount := 1 }
    let first := group.doAsyncJob ⟨0, -1, ()⟩
    let second := first.2.doAsyncJob ⟨1, 5, ()⟩
    first.1 = true ∧ second.1 = true ∧ (second.2.workers 0).HasDueJob 10 ∧
      (second.2.workers 0).isWorkerJobAvailable 10 = false ∧
      ((second.2.workers 0).doWorkerAsyncJob 10).1 = none ∧
      ¬ (second.2.workers 0).Unblocked 10 := by
  refine ⟨by decide, by decide, ⟨⟨1, 5, ()⟩, by decide, by decide⟩, by decide, by decide, ?_⟩
  intro unblocked
  exact absurd (unblocked.available ⟨⟨1, 5, ()⟩, by decide, by decide⟩) (by decide)

/-! ## Runs -/

/-- The calls on a worker. A job's function is called after the worker has let go of its lock,
so the jobs it enqueues are calls of their own. -/
inductive AsyncJobCall (Job : Type)
  | enqueueNull
  | enqueueJobRequest (jobExecuteTimeMsec : Int64) (jobFunc : Job)
  | doWorkerAsyncJob (timeMsec : UInt64)

/-- The due time and function that a call enqueues. -/
def AsyncJobCall.enqueues : AsyncJobCall Job → Option (Int64 × Job)
  | .enqueueJobRequest jobExecuteTimeMsec jobFunc => some (jobExecuteTimeMsec, jobFunc)
  | _ => none

/-- A worker, the requests enqueued to it, and the executed ones with the times of the calls. -/
structure AsyncJobHistory (Job : Type) where
  worker : AsyncJobWorker Job := {}
  enqueued : List (AsyncJobRequest Job) := []
  executed : List (AsyncJobRequest Job × UInt64) := []

/-- The order of execution: by due time, and in the order of enqueueing where it is equal. -/
def AsyncJobRequest.Precedes (request other : AsyncJobRequest Job) : Prop :=
  request.jobExecuteTimeMsec.toInt < other.jobExecuteTimeMsec.toInt ∨
    request.jobExecuteTimeMsec.toInt = other.jobExecuteTimeMsec.toInt ∧
      request.serial < other.serial

namespace AsyncJobHistory

def step (history : AsyncJobHistory Job) : AsyncJobCall Job → AsyncJobHistory Job
  | .enqueueNull => { history with worker := (history.worker.enqueueJobRequest none).2 }
  | .enqueueJobRequest jobExecuteTimeMsec jobFunc =>
      let request := ⟨history.enqueued.length, jobExecuteTimeMsec, jobFunc⟩
      { history with
        worker := (history.worker.enqueueJobRequest (some request)).2
        enqueued := history.enqueued ++ [request] }
  | .doWorkerAsyncJob timeMsec =>
      { history with
        worker := (history.worker.doWorkerAsyncJob timeMsec).2
        executed := history.executed ++
          ((history.worker.doWorkerAsyncJob timeMsec).1.map fun request =>
            (request, timeMsec)).toList }

/-- The history of a worker that starts empty. -/
def run (calls : List (AsyncJobCall Job)) : AsyncJobHistory Job :=
  calls.foldl step {}

theorem run_concat (calls : List (AsyncJobCall Job)) (call : AsyncJobCall Job) :
    run (calls ++ [call]) = (run calls).step call := by
  rw [run, List.foldl_concat]
  rfl

/-- Every enqueued request is executed or pending, under its own serial number, and the pending
ones are in their order. -/
structure Accounted (history : AsyncJobHistory Job) : Prop where
  serials : history.enqueued.map AsyncJobRequest.serial = List.range history.enqueued.length
  kept : (history.executed.map Prod.fst ++ history.worker.requests).Perm history.enqueued
  sorted : history.worker.requests.Pairwise AsyncJobRequest.Precedes
  due : ∀ execution ∈ history.executed,
    execution.1.jobExecuteTimeMsec.toInt ≤ execution.2.toNat

theorem Accounted.serial_lt {history : AsyncJobHistory Job} (accounted : history.Accounted)
    {request : AsyncJobRequest Job} (pending : request ∈ history.worker.requests) :
    request.serial < history.enqueued.length := by
  have inside : request ∈ history.enqueued :=
    accounted.kept.subset (List.mem_append_right _ pending)
  have numbered := List.mem_map_of_mem (f := AsyncJobRequest.serial) inside
  rwa [accounted.serials, List.mem_range] at numbered

theorem Accounted.step {history : AsyncJobHistory Job} (accounted : history.Accounted)
    (call : AsyncJobCall Job) : (history.step call).Accounted := by
  cases call with
  | enqueueNull => exact ⟨accounted.serials, accounted.kept, accounted.sorted, accounted.due⟩
  | enqueueJobRequest jobExecuteTimeMsec jobFunc =>
      refine ⟨?_, ?_, ?_, accounted.due⟩
      · simp [AsyncJobHistory.step, accounted.serials, List.range_succ]
      · have added := (history.worker.perm_enqueueJobRequest
          ⟨history.enqueued.length, jobExecuteTimeMsec, jobFunc⟩).append_left
            (history.executed.map Prod.fst)
        refine added.trans (List.perm_middle.trans ?_)
        exact (accounted.kept.cons _).trans (List.perm_append_singleton _ _).symm
      · refine AsyncJobWorker.pairwise_enqueueJobRequest accounted.sorted
          (fun pending waiting least => ?_) fun pending waiting greater => Or.inl greater
        exact least.lt_or_eq.imp_right fun tie => ⟨tie, accounted.serial_lt waiting⟩
  | doWorkerAsyncJob timeMsec =>
      have kept := accounted.kept
      have sorted := accounted.sorted
      simp only [AsyncJobHistory.step, AsyncJobWorker.doWorkerAsyncJob_eq]
      cases waiting : history.worker.requests with
      | nil =>
          refine ⟨accounted.serials, ?_, ?_, ?_⟩
          · simpa using kept
          · exact sorted
          · simpa using accounted.due
      | cons request rest =>
          rw [waiting] at kept sorted
          by_cases due : request.IsDue timeMsec
          · refine ⟨accounted.serials, ?_, ?_, ?_⟩
            · simpa [due, waiting] using kept
            · simpa [due, waiting] using (List.pairwise_cons.mp sorted).2
            · intro execution inside
              simp only [due, if_true, Option.map_some, Option.toList_some, List.mem_append,
                List.mem_singleton] at inside
              rcases inside with earlier | rfl
              · exact accounted.due execution earlier
              · exact due.le
          · refine ⟨accounted.serials, ?_, ?_, ?_⟩
            · simpa [due, waiting] using kept
            · simpa [due, waiting] using sorted
            · simpa [due] using accounted.due

theorem accounted_run (calls : List (AsyncJobCall Job)) : (run calls).Accounted := by
  induction calls using List.reverseRecOn with
  | nil => exact ⟨rfl, List.Perm.refl _, List.Pairwise.nil, by simp [run]⟩
  | append_singleton calls call ih =>
      rw [run_concat]
      exact ih.step call

/-- The requests made are those of the calls, in their order. -/
theorem enqueued_run (calls : List (AsyncJobCall Job)) :
    (run calls).enqueued.map (fun request => (request.jobExecuteTimeMsec, request.jobFunc)) =
      calls.filterMap AsyncJobCall.enqueues := by
  induction calls using List.reverseRecOn with
  | nil => rfl
  | append_singleton calls call ih =>
      rw [run_concat, List.filterMap_append, ← ih]
      cases call with
      | enqueueNull => simp [AsyncJobHistory.step, AsyncJobCall.enqueues]
      | enqueueJobRequest jobExecuteTimeMsec jobFunc =>
          simp [AsyncJobHistory.step, AsyncJobCall.enqueues]
      | doWorkerAsyncJob timeMsec => simp [AsyncJobHistory.step, AsyncJobCall.enqueues]

/-- What a call may do to a worker: an enqueue adds its request, if it has one, and executes
nothing, and `doWorkerAsyncJob` does nothing or executes the pending request that precedes all
others. -/
def MayFollow (history : AsyncJobHistory Job) (call : AsyncJobCall Job)
    (after : AsyncJobHistory Job) : Prop :=
  match call with
  | .enqueueNull => after = history
  | .enqueueJobRequest jobExecuteTimeMsec jobFunc =>
      after.executed = history.executed ∧
        after.worker.requests.Perm
          (⟨history.enqueued.length, jobExecuteTimeMsec, jobFunc⟩ :: history.worker.requests)
  | .doWorkerAsyncJob timeMsec =>
      after = history ∨ ∃ request ∈ history.worker.requests,
        (∀ other ∈ history.worker.requests, other ≠ request → request.Precedes other) ∧
        request.jobExecuteTimeMsec.toInt ≤ timeMsec.toNat ∧
        after.executed = history.executed ++ [(request, timeMsec)] ∧
        history.worker.requests.Perm (request :: after.worker.requests)

theorem Accounted.mayFollow {history : AsyncJobHistory Job} (accounted : history.Accounted)
    (call : AsyncJobCall Job) : history.MayFollow call (history.step call) := by
  cases call with
  | enqueueNull => rfl
  | enqueueJobRequest jobExecuteTimeMsec jobFunc =>
      exact ⟨rfl, AsyncJobWorker.perm_enqueueJobRequest ..⟩
  | doWorkerAsyncJob timeMsec =>
      have sorted := accounted.sorted
      simp only [MayFollow, AsyncJobHistory.step, AsyncJobWorker.doWorkerAsyncJob_eq]
      cases waiting : history.worker.requests with
      | nil => exact Or.inl (by simp)
      | cons request rest =>
          rw [waiting] at sorted
          by_cases due : request.IsDue timeMsec
          · refine Or.inr ⟨request, List.mem_cons_self, fun other inside different => ?_, due.le,
              by simp [due], by simp [due, waiting]⟩
            exact (List.pairwise_cons.mp sorted).1 other
              ((List.mem_cons.mp inside).resolve_left different)
          · exact Or.inl (by simp [due])

end AsyncJobHistory

/-- **Jobs are executed once, in order and not early.** In every run of enqueues, with due
times of the whole signed range, and calls of `doWorkerAsyncJob`, at whatever times: the
requests executed and the requests pending are together the requests enqueued, no request is
executed twice or before its due time, and each call either changes nothing or executes the
pending request with the least due time, the first enqueued among equal ones. -/
theorem asyncJobs_executed_in_order (calls : List (AsyncJobCall Job)) :
    let history := AsyncJobHistory.run calls
    history.enqueued.map (fun request => (request.jobExecuteTimeMsec, request.jobFunc)) =
        calls.filterMap AsyncJobCall.enqueues ∧
      history.enqueued.map AsyncJobRequest.serial = List.range history.enqueued.length ∧
      (history.executed.map Prod.fst ++ history.worker.requests).Perm history.enqueued ∧
      (history.executed.map Prod.fst ++ history.worker.requests).Nodup ∧
      (∀ execution ∈ history.executed,
        execution.1.jobExecuteTimeMsec.toInt ≤ execution.2.toNat) ∧
      ∀ earlier call later, calls = earlier ++ call :: later →
        (AsyncJobHistory.run earlier).MayFollow call (AsyncJobHistory.run (earlier ++ [call])) := by
  have accounted := AsyncJobHistory.accounted_run calls
  have distinct : (AsyncJobHistory.run calls).enqueued.Nodup :=
    List.Nodup.of_map _ (accounted.serials ▸ List.nodup_range)
  refine ⟨AsyncJobHistory.enqueued_run calls, accounted.serials, accounted.kept,
    accounted.kept.nodup_iff.mpr distinct, accounted.due, fun earlier call later _ => ?_⟩
  rw [AsyncJobHistory.run_concat]
  exact (AsyncJobHistory.accounted_run earlier).mayFollow call

end MatchmakingMvp
