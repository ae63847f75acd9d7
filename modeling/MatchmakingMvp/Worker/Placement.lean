import MatchmakingMvp.Worker.Range

/-! # Where one request is in its worker group

A worker has a request in its queue and in the bucket of its size, or it has nothing
under the request's id. Requests with other ids do not concern it
(`MatchmakingMvp.PartyMatchmakingWorkerGroup.Spares`). The workers that have a request
are the range of its slot, and the request waits in the group's schedule once until its
range is the whole group (`MatchmakingMvp.PartyMatchmakingWorkerGroup.Ranges`).
-/

namespace MatchmakingMvp

open Foundation

namespace WorkerSlot

variable {slot : WorkerSlot} {workerCount : Nat}

/-- The range is the whole group. -/
def Full (slot : WorkerSlot) (workerCount : Nat) : Prop :=
  ∀ index, hasWorker workerCount index = true → slot.Covers workerCount index

theorem full_iff (hasWorkers : 0 < workerCount) : slot.Full workerCount ↔
    ¬ (slot.minWorkerIndex (getMaxWorkerIndex workerCount) > 0 ∨
      slot.maxWorkerIndex (getMaxWorkerIndex workerCount) < getMaxWorkerIndex workerCount) := by
  constructor
  · intro full
    have first := full 0 (by simpa [hasWorker] using hasWorkers)
    have last := full (getMaxWorkerIndex workerCount)
      (by rw [hasWorker, decide_eq_true_eq, getMaxWorkerIndex]; omega)
    rintro (low | high)
    · exact low.not_ge first.1
    · exact high.not_ge last.2
  · intro ends index present
    obtain ⟨low, high⟩ := not_or.mp ends
    rw [hasWorker, decide_eq_true_eq] at present
    rw [getMaxWorkerIndex] at low high
    rw [Covers, getMaxWorkerIndex]
    omega

theorem full_base_iff {base : Int} (present : hasWorker workerCount base = true) :
    WorkerSlot.Full { baseWorkerIndex := base } workerCount ↔ ¬ 1 < workerCount := by
  have within := present
  rw [hasWorker, decide_eq_true_eq] at within
  constructor
  · intro full several
    have first := full 0 (by rw [hasWorker, decide_eq_true_eq]; omega)
    have second := full 1 (by rw [hasWorker, decide_eq_true_eq]; omega)
    rw [covers_base_iff present] at first second
    omega
  · intro single index inside
    rw [hasWorker, decide_eq_true_eq] at inside
    rw [covers_base_iff present]
    omega

end WorkerSlot

namespace PartyMatchmakingWorker

variable {worker earlier : PartyMatchmakingWorker} {request other : MatchmakingRequest}
  {ticket : MatchTicket}

/-- The worker has the request in its queue and in the bucket of its size. -/
structure Keeps (request : MatchmakingRequest) (worker : PartyMatchmakingWorker) : Prop where
  waiting : worker.waitingQueue.find? request.matchTicketId = some request
  buckets : ∀ playerCount, (worker.bucket playerCount).find? request.matchTicketId =
    if playerCount = request.playerCount then some request else none

/-- The worker has nothing under the id of the request. -/
structure Lacks (request : MatchmakingRequest) (worker : PartyMatchmakingWorker) : Prop where
  waiting : worker.waitingQueue.find? request.matchTicketId = none
  buckets : ∀ playerCount, (worker.bucket playerCount).find? request.matchTicketId = none

/-- Both workers have the same entries under the id of the request. -/
structure Spares (request : MatchmakingRequest) (before after : PartyMatchmakingWorker) :
    Prop where
  waiting : after.waitingQueue.find? request.matchTicketId =
    before.waitingQueue.find? request.matchTicketId
  buckets : ∀ playerCount, (after.bucket playerCount).find? request.matchTicketId =
    (before.bucket playerCount).find? request.matchTicketId

theorem Lacks.default : Lacks request {} := ⟨rfl, fun _ => rfl⟩

theorem Lacks.not_keeps (lacks : worker.Lacks request) : ¬ worker.Keeps request := fun keeps => by
  have found := keeps.waiting
  rw [lacks.waiting] at found
  cases found

theorem Spares.refl (worker : PartyMatchmakingWorker) : Spares request worker worker :=
  ⟨rfl, fun _ => rfl⟩

theorem Spares.keeps (spares : Spares request earlier worker) (keeps : earlier.Keeps request) :
    worker.Keeps request :=
  ⟨spares.waiting.trans keeps.waiting, fun playerCount =>
    (spares.buckets playerCount).trans (keeps.buckets playerCount)⟩

theorem Spares.lacks (spares : Spares request earlier worker) (lacks : earlier.Lacks request) :
    worker.Lacks request :=
  ⟨spares.waiting.trans lacks.waiting, fun playerCount =>
    (spares.buckets playerCount).trans (lacks.buckets playerCount)⟩

theorem Lacks.enqueueJobRequest (lacks : worker.Lacks request) :
    (worker.enqueueJobRequest request).1 = true ∧
      (worker.enqueueJobRequest request).2.Keeps request := by
  obtain ⟨accepted, waiting, buckets, -⟩ := enqueueJobRequest_of_free
    (OrderedMap.contains_eq_false_iff.mpr lacks.waiting)
    (OrderedMap.contains_eq_false_iff.mpr (lacks.buckets request.playerCount))
  refine ⟨accepted, ?_, fun playerCount => ?_⟩
  · rw [waiting, OrderedMap.find?_insertOrAssign, if_pos rfl]
  · rw [buckets]
    split_ifs
    · rw [OrderedMap.find?_insertOrAssign, if_pos rfl]
    · exact lacks.buckets playerCount

theorem spares_enqueueJobRequest (different : request.matchTicketId ≠ other.matchTicketId) :
    Spares request worker (worker.enqueueJobRequest other).2 := by
  by_cases taken : worker.waitingQueue.contains other.matchTicketId = true ∨
      (worker.bucket other.playerCount).contains other.matchTicketId = true
  · obtain ⟨-, waiting, buckets⟩ := enqueueJobRequest_of_taken taken
    exact ⟨by rw [waiting], fun playerCount => by rw [buckets]⟩
  · obtain ⟨free, unbucketed⟩ := not_or.mp taken
    obtain ⟨-, waiting, buckets, -⟩ := enqueueJobRequest_of_free (Bool.eq_false_of_not_eq_true free)
      (Bool.eq_false_of_not_eq_true unbucketed)
    refine ⟨?_, fun playerCount => ?_⟩
    · rw [waiting, OrderedMap.find?_insertOrAssign, if_neg different]
    · rw [buckets]
      split_ifs
      · rw [OrderedMap.find?_insertOrAssign, if_neg different]
      · rfl

theorem spares_erase (different : request.matchTicketId ≠ ticket.matchTicketId) :
    Spares request worker (worker.erase ticket) := by
  refine ⟨?_, fun playerCount => ?_⟩
  · rw [erase, OrderedMap.find?_erase, if_neg different]
  · rw [bucket_erase]
    split_ifs
    · rw [OrderedMap.find?_erase, if_neg different]
    · rfl

/-- Erasing the ticket of a request leaves nothing under its id. -/
theorem lacks_erase (pointer : request.matchTicketPtr = some ticket)
    (filed : worker.Keeps request ∨ worker.Lacks request) :
    (worker.erase ticket).Lacks request := by
  have named : request.matchTicketId = ticket.matchTicketId := by
    rw [MatchmakingRequest.matchTicketId, pointer]
  have sized : request.playerCount = ticket.players.length := by
    rw [MatchmakingRequest.playerCount, pointer]
  refine ⟨?_, fun playerCount => ?_⟩
  · rw [erase, OrderedMap.find?_erase, if_pos named]
  · rw [bucket_erase]
    split_ifs with own
    · rw [OrderedMap.find?_erase, if_pos named]
    · rcases filed with keeps | lacks
      · rw [keeps.buckets, if_neg (sized ▸ own)]
      · exact lacks.buckets playerCount

end PartyMatchmakingWorker

namespace PartyMatchmakingWorkerGroup

variable {group earlier middle : PartyMatchmakingWorkerGroup} {workerCount : Nat}
  {request other : MatchmakingRequest} {ticket : MatchTicket}

/-- All workers have the same entries under the id of the request. -/
def Spares (request : MatchmakingRequest) (before after : PartyMatchmakingWorkerGroup) : Prop :=
  ∀ index, PartyMatchmakingWorker.Spares request (before.workers index) (after.workers index)

/-- The request is in the workers of a range and in no others. -/
structure Places (request : MatchmakingRequest) (range : Int → Prop)
    (group : PartyMatchmakingWorkerGroup) : Prop where
  keeps : ∀ index, range index → (group.workers index).Keeps request
  lacks : ∀ index, ¬ range index → (group.workers index).Lacks request

theorem Spares.refl (group : PartyMatchmakingWorkerGroup) : Spares request group group :=
  fun _ => .refl _

theorem Spares.trans (first : Spares request earlier middle)
    (second : Spares request middle group) :
    Spares request earlier group := fun index =>
  ⟨(second index).waiting.trans (first index).waiting, fun playerCount =>
    ((second index).buckets playerCount).trans ((first index).buckets playerCount)⟩

theorem Spares.places {range : Int → Prop} (spares : Spares request earlier group)
    (places : earlier.Places request range) : group.Places request range :=
  ⟨fun index inside => (spares index).keeps (places.keeps index inside),
    fun index outside => (spares index).lacks (places.lacks index outside)⟩

theorem Places.filed {range : Int → Prop} (places : group.Places request range) (index : Int) :
    (group.workers index).Keeps request ∨ (group.workers index).Lacks request := by
  by_cases inside : range index
  · exact Or.inl (places.keeps index inside)
  · exact Or.inr (places.lacks index inside)

theorem Places.congr {range same : Int → Prop} (places : group.Places request range)
    (equal : ∀ index, same index ↔ range index) : group.Places request same :=
  ⟨fun index inside => places.keeps index ((equal index).mp inside),
    fun index outside => places.lacks index (mt (equal index).mpr outside)⟩

theorem Places.of_workers {range : Int → Prop} (places : earlier.Places request range)
    (same : group.workers = earlier.workers) : group.Places request range :=
  ⟨fun index inside => same ▸ places.keeps index inside,
    fun index outside => same ▸ places.lacks index outside⟩

theorem spares_updateWorker {index : Int} {worker : PartyMatchmakingWorker}
    (spares : PartyMatchmakingWorker.Spares request (group.workers index) worker) :
    Spares request group (group.updateWorker index worker) := by
  intro position
  by_cases own : position = index
  · subst own
    simpa [updateWorker] using spares
  · simpa [updateWorker, own] using PartyMatchmakingWorker.Spares.refl _

theorem Places.updateWorker {range : Int → Prop} {index : Int} {worker : PartyMatchmakingWorker}
    (places : group.Places request range) (keeps : worker.Keeps request) :
    (group.updateWorker index worker).Places request fun position =>
      range position ∨ position = index := by
  refine ⟨fun position inside => ?_, fun position outside => ?_⟩
  · by_cases own : position = index
    · simpa [PartyMatchmakingWorkerGroup.updateWorker, own] using keeps
    · simpa [PartyMatchmakingWorkerGroup.updateWorker, own] using
        places.keeps position (inside.resolve_right own)
  · obtain ⟨away, own⟩ := not_or.mp outside
    simpa [PartyMatchmakingWorkerGroup.updateWorker, own] using places.lacks position away

/-- How often the request waits for an expansion. -/
def scheduledCount (group : PartyMatchmakingWorkerGroup) (request : MatchmakingRequest) : Nat :=
  (group.matchmakingRequestSlotExpandTimeMap.map Prod.snd).count request

/-! ## Enqueueing -/

/-- A new request is scheduled if the group has several workers. -/
theorem scheduledCount_scheduleExpansion {timeSec : Int} :
    (group.scheduleExpansion workerCount timeSec other).scheduledCount request =
      if 1 < workerCount ∧ other = request then group.scheduledCount request + 1
      else group.scheduledCount request := by
  rw [scheduleExpansion, isAvailableMatchmakingExpandSlot]
  by_cases several : 1 < workerCount
  · simp only [several, decide_true, if_true, true_and, scheduledCount]
    rw [((insertMulti_perm timeSec other _).map Prod.snd).count_eq, List.map_cons]
    split_ifs with own
    · rw [own, List.count_cons_self]
    · exact List.count_cons_of_ne own
  · simp [several]

theorem scheduledCount_enqueueSection {base timeSec : Int} {statuses : TicketStatuses} :
    (group.enqueueSection workerCount base timeSec other ticket statuses).2.1.scheduledCount
        request = (group.scheduleExpansion workerCount timeSec other).scheduledCount request := by
  rw [enqueueSection]
  split_ifs
  · generalize ((group.scheduleExpansion workerCount timeSec other).workers
      base).enqueueJobRequest other = result
    obtain ⟨accepted, worker⟩ := result
    cases accepted <;> rfl
  · rfl

theorem spares_enqueueSection {base timeSec : Int} {statuses : TicketStatuses}
    (different : request.matchTicketId ≠ other.matchTicketId)
    (pointer : other.matchTicketPtr = some ticket) :
    Spares request group (group.enqueueSection workerCount base timeSec other ticket
      statuses).2.1 := by
  have named : other.matchTicketId = ticket.matchTicketId := by
    rw [MatchmakingRequest.matchTicketId, pointer]
  have scheduled : Spares request group (group.scheduleExpansion workerCount timeSec other) :=
    fun index => by
      rw [scheduleExpansion_workers]
      exact .refl _
  refine scheduled.trans ?_
  have enqueued : PartyMatchmakingWorker.Spares request
      ((group.scheduleExpansion workerCount timeSec other).workers base)
      (((group.scheduleExpansion workerCount timeSec other).workers base).enqueueJobRequest
        other).2 := PartyMatchmakingWorker.spares_enqueueJobRequest different
  rw [enqueueSection]
  split_ifs
  · generalize ((group.scheduleExpansion workerCount timeSec other).workers
      base).enqueueJobRequest other = result at enqueued ⊢
    obtain ⟨accepted, worker⟩ := result
    cases accepted with
    | true => exact spares_updateWorker enqueued
    | false =>
        have erased : PartyMatchmakingWorker.Spares request worker (worker.erase ticket) :=
          PartyMatchmakingWorker.spares_erase (named ▸ different)
        exact spares_updateWorker ⟨erased.waiting.trans enqueued.waiting, fun playerCount =>
          (erased.buckets playerCount).trans (enqueued.buckets playerCount)⟩
  · exact .refl _

/-- A request that no worker has is placed at its base worker. -/
theorem enqueueSection_of_lacks {base timeSec : Int} {statuses : TicketStatuses}
    (present : hasWorker workerCount base = true)
    (lacks : ∀ index, (group.workers index).Lacks request) :
    ∃ enqueued, group.enqueueSection workerCount base timeSec request ticket statuses =
        (true, enqueued, (ticket.changeStatus .queued statuses).2) ∧
      enqueued.Places request (· = base) := by
  have places : (group.scheduleExpansion workerCount timeSec request).Places request
      fun _ => False := by
    refine ⟨fun _ => False.elim, fun index _ => ?_⟩
    rw [scheduleExpansion_workers]
    exact lacks index
  obtain ⟨accepted, keeps⟩ := (places.lacks base not_false).enqueueJobRequest
  rw [enqueueSection, if_pos present]
  generalize ((group.scheduleExpansion workerCount timeSec request).workers
    base).enqueueJobRequest request = result at accepted keeps
  obtain ⟨success, worker⟩ := result
  subst accepted
  exact ⟨_, rfl, (places.updateWorker keeps).congr fun index => by simp⟩

/-! ## Erasing -/

theorem spares_eraseFromWorkers (different : request.matchTicketId ≠ ticket.matchTicketId) :
    Spares request group (group.eraseFromWorkers workerCount ticket) := by
  intro index
  simp only [eraseFromWorkers]
  split_ifs
  · exact PartyMatchmakingWorker.spares_erase different
  · exact .refl _

theorem Places.eraseFromWorkers {range : Int → Prop} (places : group.Places request range)
    (within : ∀ index, range index → hasWorker workerCount index = true)
    (pointer : request.matchTicketPtr = some ticket) (index : Int) :
    ((group.eraseFromWorkers workerCount ticket).workers index).Lacks request := by
  simp only [PartyMatchmakingWorkerGroup.eraseFromWorkers]
  split_ifs with present
  · exact PartyMatchmakingWorker.lacks_erase pointer (places.filed index)
  · exact places.lacks index (mt (within index) present)

theorem spares_eraseFromRange {slots : MatchmakingRequest → WorkerSlot}
    (different : request.matchTicketId ≠ other.matchTicketId) :
    Spares request group (group.eraseFromRange workerCount slots other) := by
  intro index
  rw [eraseFromRange]
  cases pointer : other.matchTicketPtr with
  | none => exact .refl _
  | some ticket =>
      have named : other.matchTicketId = ticket.matchTicketId := by
        rw [MatchmakingRequest.matchTicketId, pointer]
      simp only
      split_ifs
      · exact PartyMatchmakingWorker.spares_erase (named ▸ different)
      · exact .refl _

theorem Places.eraseFromRange {slots : MatchmakingRequest → WorkerSlot}
    (places : group.Places request ((slots request).Covers workerCount))
    (hasWorkers : 0 < workerCount) (pointer : request.matchTicketPtr = some ticket) (index : Int) :
    ((group.eraseFromRange workerCount slots request).workers index).Lacks request := by
  rw [PartyMatchmakingWorkerGroup.eraseFromRange, pointer]
  simp only
  split_ifs with inside
  · exact PartyMatchmakingWorker.lacks_erase pointer (places.filed index)
  · exact places.lacks index fun covers =>
      inside ⟨covers.1, covers.2, covers.hasWorker hasWorkers⟩

theorem spares_eraseAll {slots : MatchmakingRequest → WorkerSlot}
    {requests : List MatchmakingRequest}
    (different : ∀ other ∈ requests, request.matchTicketId ≠ other.matchTicketId) :
    Spares request group (requests.foldl (eraseFromRange workerCount slots) group) := by
  induction requests generalizing group with
  | nil => exact .refl _
  | cons head rest ih =>
      exact (spares_eraseFromRange (different head List.mem_cons_self)).trans
        (ih fun other inside => different other (List.mem_cons_of_mem _ inside))

theorem scheduledCount_eraseAll {slots : MatchmakingRequest → WorkerSlot}
    {requests : List MatchmakingRequest} :
    (requests.foldl (eraseFromRange workerCount slots) group).scheduledCount request =
      group.scheduledCount request := by
  induction requests generalizing group with
  | nil => rfl
  | cons head rest ih =>
      rw [List.foldl_cons, ih, eraseFromRange]
      cases head.matchTicketPtr <;> rfl

/-- A committed request leaves all workers. -/
theorem Places.eraseAll {slots : MatchmakingRequest → WorkerSlot}
    {requests : List MatchmakingRequest}
    (places : group.Places request ((slots request).Covers workerCount))
    (hasWorkers : 0 < workerCount) (pointer : request.matchTicketPtr = some ticket)
    (nodup : (requests.map MatchmakingRequest.matchTicketId).Nodup) (listed : request ∈ requests)
    (index : Int) :
    ((requests.foldl (PartyMatchmakingWorkerGroup.eraseFromRange workerCount slots)
      group).workers index).Lacks request := by
  induction requests generalizing group with
  | nil => cases listed
  | cons head rest ih =>
      obtain ⟨outside, distinct⟩ := List.nodup_cons.mp nodup
      rw [List.foldl_cons]
      rcases List.mem_cons.mp listed with rfl | inside
      · refine (spares_eraseAll (fun other member same => outside ?_) index).lacks
          (places.eraseFromRange hasWorkers pointer index)
        exact List.mem_map.mpr ⟨other, member, same.symm⟩
      · have different : request.matchTicketId ≠ head.matchTicketId := fun same =>
          outside (same ▸ List.mem_map_of_mem inside)
        exact ih ((spares_eraseFromRange different).places places) distinct inside

/-! ## Expanding -/

theorem spares_enqueueAt {index : Int}
    (different : request.matchTicketId ≠ other.matchTicketId) :
    Spares request group (group.enqueueAt workerCount index other) := by
  rw [enqueueAt]
  split_ifs
  · exact spares_updateWorker (PartyMatchmakingWorker.spares_enqueueJobRequest different)
  · exact .refl _

theorem spares_expandRequest {slots : MatchmakingRequest → WorkerSlot}
    (different : request.matchTicketId ≠ other.matchTicketId) :
    Spares request group (expandRequest workerCount other group slots).2.1 := by
  have reaches : ∀ (before : PartyMatchmakingWorkerGroup) (target : Int) (grows : Prop)
      [Decidable grows], Spares request before
        (if grows then before.enqueueAt workerCount target other else before) := by
    intro before target grows _
    split_ifs
    · exact spares_enqueueAt different
    · exact .refl _
  exact (reaches _ _ _).trans (reaches _ _ _)

theorem Places.reach {range : Int → Prop} (places : group.Places request range) {target : Int}
    (present : hasWorker workerCount target = true) (grows : Prop) [Decidable grows]
    (new : grows ↔ ¬ range target) :
    (if grows then group.enqueueAt workerCount target request else group).Places request
      fun index => range index ∨ index = target := by
  split_ifs with growing
  · rw [enqueueAt, if_pos present]
    exact places.updateWorker (places.lacks target (new.mp growing)).enqueueJobRequest.2
  · refine places.congr fun index => ⟨?_, Or.inl⟩
    rintro (inside | rfl)
    · exact inside
    · exact not_not.mp (mt new.mpr growing)

/-- Expanding a request takes it to the workers its range grows by. -/
theorem Places.expandRequest {slots : MatchmakingRequest → WorkerSlot}
    (places : group.Places request ((slots request).Covers workerCount))
    (hasWorkers : 0 < workerCount) (level : 0 ≤ (slots request).workerExpansionLevel) :
    (PartyMatchmakingWorkerGroup.expandRequest workerCount request group slots).2.1.Places request
      (((PartyMatchmakingWorkerGroup.expandRequest workerCount request group slots).2.2
        request).Covers workerCount) := by
  set last := getMaxWorkerIndex workerCount with lastIs
  set expanded : WorkerSlot :=
    { slots request with workerExpansionLevel := (slots request).workerExpansionLevel + 1 }
    with expandedIs
  have grown := fun index => WorkerSlot.covers_expand_iff index level hasWorkers
  obtain ⟨below, ordered, above, -⟩ := grown 0
  have lowNew : expanded.minWorkerIndex last ≠ (slots request).minWorkerIndex last ↔
      ¬ (slots request).Covers workerCount (expanded.minWorkerIndex last) := by
    refine ⟨fun grows covers => grows (below.antisymm covers.1), fun outside same => outside ?_⟩
    exact ⟨same.ge, same.le.trans ordered⟩
  have highNew : expanded.maxWorkerIndex last ≠ (slots request).maxWorkerIndex last ↔
      ¬ ((slots request).Covers workerCount (expanded.maxWorkerIndex last) ∨
        expanded.maxWorkerIndex last = expanded.minWorkerIndex last) := by
    constructor
    · rintro grows (covers | same)
      · exact grows (covers.2.antisymm above)
      · exact grows ((same.le.trans (below.trans ordered)).antisymm above)
    · exact fun outside same => outside (Or.inl ⟨ordered.trans same.ge, same.le⟩)
  have low := places.reach (WorkerSlot.hasWorker_clamp hasWorkers _) _ lowNew
  have high := low.reach (WorkerSlot.hasWorker_clamp hasWorkers _) _ highNew
  refine high.congr fun index => ?_
  simp only [PartyMatchmakingWorkerGroup.expandRequest, Function.update_self]
  exact (grown index).2.2.2.trans or_assoc.symm

theorem count_reschedule {timeSec : Int} (scheduled : List MatchmakingRequest)
    (later : List (Int × MatchmakingRequest)) :
    ((scheduled.foldl (fun entries request => insertMulti timeSec request entries) later).map
      Prod.snd).count request = (later.map Prod.snd).count request + scheduled.count request := by
  induction scheduled generalizing later with
  | nil => rfl
  | cons head rest ih =>
      rw [List.foldl_cons, ih, ((insertMulti_perm timeSec head later).map Prod.snd).count_eq]
      simp only [List.map_cons, List.count_cons]
      omega

/-- Requests with other ids and requests of tickets that are not queued. -/
theorem expandDue_spares {statuses : TicketStatuses} {due : List (Int × MatchmakingRequest)}
    {slots : MatchmakingRequest → WorkerSlot}
    (apart : ∀ entry ∈ due, ∀ ticket, entry.2.matchTicketPtr = some ticket →
      statuses ticket = .queued → request.matchTicketId ≠ entry.2.matchTicketId) :
    let expanded := expandDue workerCount statuses due group slots
    Spares request group expanded.2.1 ∧ expanded.2.2 request = slots request ∧
      request ∉ expanded.1 := by
  induction due generalizing group slots with
  | nil => exact ⟨.refl _, rfl, List.not_mem_nil⟩
  | cons head rest ih =>
      obtain ⟨timeSec, first⟩ := head
      have others := fun entry (inside : entry ∈ rest) =>
        apart entry (List.mem_cons_of_mem _ inside)
      rw [expandDue]
      cases pointer : first.matchTicketPtr with
      | none => exact ih others
      | some ticket =>
          simp only [decide_eq_true_eq]
          by_cases queued : statuses ticket = .queued
          · rw [if_pos queued]
            have different := apart _ List.mem_cons_self ticket pointer queued
            have unequal : request ≠ first := fun same => different (by rw [same])
            obtain ⟨spares, slot, outside⟩ := ih others
            refine ⟨(spares_expandRequest different).trans spares, slot.trans ?_, ?_⟩
            · exact Function.update_of_ne unequal _ _
            · simp only
              split_ifs
              · exact fun inside => (List.mem_cons.mp inside).elim unequal outside
              · exact outside
          · rw [if_neg queued]
            exact ih others

/-- A due request of a queued ticket grows by one level, and is scheduled again
unless it has reached the whole group. -/
theorem Places.expandDue {statuses : TicketStatuses} {due : List (Int × MatchmakingRequest)}
    {slots : MatchmakingRequest → WorkerSlot}
    (places : group.Places request ((slots request).Covers workerCount))
    (hasWorkers : 0 < workerCount) (level : 0 ≤ (slots request).workerExpansionLevel)
    (pointer : request.matchTicketPtr = some ticket) (queued : statuses ticket = .queued)
    (apart : ∀ entry ∈ due, entry.2 ≠ request → request.matchTicketId ≠ entry.2.matchTicketId)
    (once : (due.map Prod.snd).count request = 1) :
    let expanded := PartyMatchmakingWorkerGroup.expandDue workerCount statuses due group slots
    expanded.2.1.Places request ((expanded.2.2 request).Covers workerCount) ∧
      expanded.2.2 request = { slots request with
        workerExpansionLevel := (slots request).workerExpansionLevel + 1 } ∧
      (¬ (expanded.2.2 request).Full workerCount → expanded.1.count request = 1) ∧
      ((expanded.2.2 request).Full workerCount → expanded.1.count request = 0) := by
  induction due generalizing group slots with
  | nil => cases once
  | cons head rest ih =>
      obtain ⟨timeSec, first⟩ := head
      have others := fun entry (inside : entry ∈ rest) =>
        apart entry (List.mem_cons_of_mem _ inside)
      rw [PartyMatchmakingWorkerGroup.expandDue]
      by_cases own : first = request
      · subst own
        rw [List.map_cons, List.count_cons_self, Nat.succ_inj] at once
        have absent : ∀ entry ∈ rest, entry.2 ≠ first := fun entry inside same =>
          List.count_eq_zero.mp once (same ▸ List.mem_map_of_mem inside)
        have expanded := places.expandRequest hasWorkers level
        obtain ⟨spares, slot, outside⟩ := @expandDue_spares
          (PartyMatchmakingWorkerGroup.expandRequest workerCount first group slots).2.1
          workerCount first statuses rest
          (PartyMatchmakingWorkerGroup.expandRequest workerCount first group slots).2.2
          fun entry inside _ _ _ => others entry inside (absent entry inside)
        have ends : (PartyMatchmakingWorkerGroup.expandRequest workerCount first group slots).1 =
            true ↔ ¬ ((PartyMatchmakingWorkerGroup.expandRequest workerCount first group
              slots).2.2 first).Full workerCount := by
          rw [WorkerSlot.full_iff hasWorkers, not_not]
          simp only [PartyMatchmakingWorkerGroup.expandRequest, Function.update_self,
            decide_eq_true_eq]
          rfl
        simp only [pointer, decide_eq_true_eq, queued, if_true, slot]
        refine ⟨spares.places expanded, Function.update_self _ _ _, fun unfinished => ?_,
          fun full => ?_⟩
        · rw [if_pos (ends.mpr unfinished), List.count_cons_self, List.count_eq_zero.mpr outside]
        · rw [if_neg fun grows => ends.mp grows full, List.count_eq_zero.mpr outside]
      · rw [List.map_cons, List.count_cons_of_ne own] at once
        have different := apart _ List.mem_cons_self own
        cases queues : first.matchTicketPtr with
        | none => exact ih places level others once
        | some other =>
            simp only [decide_eq_true_eq]
            by_cases waits : statuses other = .queued
            · rw [if_pos waits]
              have kept : (PartyMatchmakingWorkerGroup.expandRequest workerCount first group
                  slots).2.2 request = slots request := Function.update_of_ne (Ne.symm own) _ _
              obtain ⟨placed, slot, again, finished⟩ := ih (kept ▸
                (spares_expandRequest different).places places) (kept ▸ level) others once
              have uncounted : ∀ (grows : Bool) (scheduled : List MatchmakingRequest),
                  (if grows then first :: scheduled else scheduled).count request =
                    scheduled.count request := fun grows scheduled => by
                cases grows with
                | true => exact List.count_cons_of_ne own
                | false => rfl
              exact ⟨placed, slot.trans (by rw [kept]), fun unfinished =>
                (uncounted _ _).trans (again unfinished), fun full =>
                (uncounted _ _).trans (finished full)⟩
            · rw [if_neg waits]
              exact ih places level others once

/-! ## The range of a request -/

/-- A waiting request is placed in its range, and scheduled once unless the range is
the whole group. -/
structure Ranges (request : MatchmakingRequest) (slot : WorkerSlot) (workerCount : Nat)
    (group : PartyMatchmakingWorkerGroup) : Prop where
  level : 0 ≤ slot.workerExpansionLevel
  places : group.Places request (slot.Covers workerCount)
  scheduled : ¬ slot.Full workerCount → group.scheduledCount request = 1
  finished : slot.Full workerCount → group.scheduledCount request = 0

theorem Ranges.congr {slot : WorkerSlot} (ranges : earlier.Ranges request slot workerCount)
    (spares : Spares request earlier group)
    (scheduled : group.scheduledCount request = earlier.scheduledCount request) :
    group.Ranges request slot workerCount :=
  ⟨ranges.level, spares.places ranges.places, fun unfinished =>
    scheduled.trans (ranges.scheduled unfinished), fun full =>
    scheduled.trans (ranges.finished full)⟩

theorem scheduledCount_expand {timeSec : Int} {statuses : TicketStatuses}
    {slots : MatchmakingRequest → WorkerSlot} :
    (group.expandMatchmakingWorkerSlot workerCount timeSec statuses slots).1.scheduledCount
        request =
      ((group.matchmakingRequestSlotExpandTimeMap.dropWhile (·.1 ≤ timeSec - 1)).map
        Prod.snd).count request +
      (expandDue workerCount statuses (group.matchmakingRequestSlotExpandTimeMap.takeWhile
        (·.1 ≤ timeSec - 1)) group slots).1.count request :=
  count_reschedule _ _

/-- **Expansion.** The range of a waiting request grows, or the request is not due. -/
theorem Ranges.expandMatchmakingWorkerSlot {timeSec : Int} {statuses : TicketStatuses}
    {slots : MatchmakingRequest → WorkerSlot}
    (ranges : group.Ranges request (slots request) workerCount)
    (hasWorkers : 0 < workerCount)
    (pointer : request.matchTicketPtr = some ticket) (queued : statuses ticket = .queued)
    (apart : ∀ entry ∈ group.matchmakingRequestSlotExpandTimeMap, entry.2 ≠ request →
      request.matchTicketId ≠ entry.2.matchTicketId) :
    let expanded := group.expandMatchmakingWorkerSlot workerCount timeSec statuses slots
    expanded.1.Ranges request (expanded.2 request) workerCount := by
  intro expanded
  have total : expanded.1.scheduledCount request = _ := scheduledCount_expand
  set due := group.matchmakingRequestSlotExpandTimeMap.takeWhile (·.1 ≤ timeSec - 1) with dueIs
  set later := group.matchmakingRequestSlotExpandTimeMap.dropWhile (·.1 ≤ timeSec - 1) with laterIs
  have dueApart : ∀ entry ∈ due, entry.2 ≠ request →
      request.matchTicketId ≠ entry.2.matchTicketId :=
    fun entry inside => apart entry ((List.takeWhile_sublist _).mem inside)
  have split : group.scheduledCount request =
      (due.map Prod.snd).count request + (later.map Prod.snd).count request := by
    rw [scheduledCount, ← List.count_append, ← List.map_append, List.takeWhile_append_dropWhile]
  have atMostOnce : group.scheduledCount request ≤ 1 := by
    by_cases full : (slots request).Full workerCount
    · rw [ranges.finished full]
      exact Nat.zero_le 1
    · rw [ranges.scheduled full]
  rcases Nat.eq_zero_or_pos ((due.map Prod.snd).count request) with absent | present
  · have outside : ∀ entry ∈ due, entry.2 ≠ request := fun entry inside same =>
      List.count_eq_zero.mp absent (same ▸ List.mem_map_of_mem inside)
    obtain ⟨spares, slot, unscheduled⟩ := @expandDue_spares group workerCount request statuses due
      slots fun entry inside _ _ _ => dueApart entry inside (outside entry inside)
    rw [List.count_eq_zero.mpr unscheduled] at total
    have count : expanded.1.scheduledCount request = group.scheduledCount request := by omega
    rw [show expanded.2 request = slots request from slot]
    exact ⟨ranges.level, (spares.places ranges.places).of_workers rfl, fun unfinished =>
      count.trans (ranges.scheduled unfinished), fun full => count.trans (ranges.finished full)⟩
  · obtain ⟨placed, slot, again, finished⟩ := ranges.places.expandDue hasWorkers ranges.level
      pointer queued dueApart (by omega)
    refine ⟨?_, placed.of_workers rfl, fun unfinished => ?_, fun full => ?_⟩
    · rw [show expanded.2 request = _ from slot]
      exact Int.add_nonneg ranges.level Int.one_nonneg
    · have counted := again unfinished
      omega
    · have counted := finished full
      omega

/-- Expanding leaves the workers' entries of requests that do not wait alone. -/
theorem spares_expandMatchmakingWorkerSlot {timeSec : Int} {statuses : TicketStatuses}
    {slots : MatchmakingRequest → WorkerSlot}
    (apart : ∀ entry ∈ group.matchmakingRequestSlotExpandTimeMap, ∀ ticket,
      entry.2.matchTicketPtr = some ticket → statuses ticket = .queued →
      request.matchTicketId ≠ entry.2.matchTicketId) :
    let expanded := group.expandMatchmakingWorkerSlot workerCount timeSec statuses slots
    Spares request group expanded.1 ∧ expanded.2 request = slots request ∧
      expanded.1.scheduledCount request ≤ group.scheduledCount request := by
  intro expanded
  obtain ⟨spares, slot, unscheduled⟩ := @expandDue_spares group workerCount request statuses
    (group.matchmakingRequestSlotExpandTimeMap.takeWhile (·.1 ≤ timeSec - 1)) slots
    fun entry inside => apart entry ((List.takeWhile_sublist _).mem inside)
  refine ⟨spares, slot, ?_⟩
  have total : expanded.1.scheduledCount request = _ := scheduledCount_expand
  rw [total, List.count_eq_zero.mpr unscheduled, Nat.add_zero]
  exact ((List.dropWhile_sublist _).map Prod.snd).count_le request

end PartyMatchmakingWorkerGroup

end MatchmakingMvp
