import MatchmakingMvp.Worker.Holding

/-! # What workers do not lose

Every function of a party group keeps the entries of its workers, except those stored
under the ids of the tickets it takes out
(`MatchmakingMvp.PartyMatchmakingWorkerGroup.Retains`). A solo worker keeps a request in its
queue or in its list in progress until it has collected a match
(`MatchmakingMvp.SoloMatchmakingWorker.Keeps.filled`). An empty queue stays empty unless a
request is enqueued.
-/

namespace MatchmakingMvp

open Foundation

/-! ## Party workers -/

namespace PartyMatchmakingWorker

variable {worker : PartyMatchmakingWorker} {request stored : MatchmakingRequest}
  {id : MatchTicketId}

/-- A request is enqueued unless its id is taken. -/
theorem enqueueJobRequest_retains (found : worker.waitingQueue.find? id = some stored) :
    (worker.enqueueJobRequest request).2.waitingQueue.find? id = some stored := by
  rw [enqueueJobRequest]
  dsimp only
  split_ifs with taken counted
  · exact found
  · exact found
  · rw [OrderedMap.find?_insertOrAssign, if_neg, found]
    rintro rfl
    exact taken (OrderedMap.contains_iff.mpr ⟨stored, found⟩)

theorem enqueueJobRequest_stores (accepted : (worker.enqueueJobRequest request).1 = true) :
    (worker.enqueueJobRequest request).2.waitingQueue.find? request.matchTicketId =
      some request := by
  rw [enqueueJobRequest] at accepted ⊢
  dsimp only at accepted ⊢
  split_ifs at accepted ⊢
  rw [OrderedMap.find?_insertOrAssign, if_pos rfl]

theorem enqueueJobRequest_refused (refused : (worker.enqueueJobRequest request).1 = false) :
    (worker.enqueueJobRequest request).2.waitingQueue = worker.waitingQueue := by
  rw [enqueueJobRequest] at refused ⊢
  dsimp only at refused ⊢
  split_ifs at refused ⊢ <;> rfl

theorem isEmpty_erase (ticket : MatchTicket) (empty : worker.waitingQueue.isEmpty = true) :
    (worker.erase ticket).waitingQueue.isEmpty = true := by
  rw [OrderedMap.isEmpty_iff_find?] at empty ⊢
  intro key
  rw [erase, OrderedMap.find?_erase, empty, ite_self]

end PartyMatchmakingWorker

namespace PartyMatchmakingWorkerGroup

variable {lost : MatchTicketId → Prop} {before middle after group : PartyMatchmakingWorkerGroup}

/-- The workers keep their entries, except those stored under lost ids. -/
def Retains (lost : MatchTicketId → Prop) (before after : PartyMatchmakingWorkerGroup) : Prop :=
  ∀ index id request, ¬ lost id → (before.workers index).waitingQueue.find? id = some request →
    (after.workers index).waitingQueue.find? id = some request

theorem Retains.refl (group : PartyMatchmakingWorkerGroup) : Retains lost group group :=
  fun _ _ _ _ => id

theorem Retains.trans (first : Retains lost before middle) (second : Retains lost middle after) :
    Retains lost before after := fun index id request safe found =>
  second index id request safe (first index id request safe found)

theorem Retains.mono {more : MatchTicketId → Prop} (retains : Retains lost before after)
    (implies : ∀ id, lost id → more id) : Retains more before after :=
  fun index id request safe => retains index id request fun gone => safe (implies id gone)

theorem workers_updateWorker (index : Int) (worker : PartyMatchmakingWorker) :
    (group.updateWorker index worker).workers = Function.update group.workers index worker := rfl

/-- One worker changes and loses no entry but under lost ids. -/
theorem Retains.updateWorker {index : Int} {worker : PartyMatchmakingWorker}
    (kept : ∀ id request, ¬ lost id →
      (group.workers index).waitingQueue.find? id = some request →
      worker.waitingQueue.find? id = some request) :
    Retains lost group (group.updateWorker index worker) := by
  intro other id request safe found
  rw [workers_updateWorker]
  by_cases same : other = index
  · subst same
    rw [Function.update_self]
    exact kept id request safe found
  · rw [Function.update_of_ne same, found]

theorem find?_erase_of_ne {worker : PartyMatchmakingWorker} {ticket : MatchTicket}
    {id : MatchTicketId} (different : id ≠ ticket.matchTicketId) :
    (worker.erase ticket).waitingQueue.find? id = worker.waitingQueue.find? id :=
  (OrderedMap.find?_erase _ _ _).trans (if_neg different)

variable {workerCount : Nat} {timeSec : Int} {request : MatchmakingRequest} {ticket : MatchTicket}
  {statuses : TicketStatuses} {slots : MatchmakingRequest → WorkerSlot}

section Enqueue

variable {base : Int}

/-- A refused request takes the entries under its ticket's id with it. -/
theorem enqueueSection_retains :
    Retains (· = ticket.matchTicketId) group
      (group.enqueueSection workerCount base timeSec request ticket statuses).2.1 := by
  rw [enqueueSection]
  have scheduled := scheduleExpansion_workers group workerCount timeSec request
  have start : Retains (· = ticket.matchTicketId) group
      (group.scheduleExpansion workerCount timeSec request) := fun index id stored _ found => by
    rw [scheduled, found]
  split_ifs
  · split
    · rename_i worker enqueued
      refine start.trans (.updateWorker fun id stored different found => ?_)
      rw [find?_erase_of_ne different]
      rw [show worker = _ from (congrArg Prod.snd enqueued).symm]
      exact PartyMatchmakingWorker.enqueueJobRequest_retains found
    · rename_i worker enqueued
      refine start.trans (.updateWorker fun id stored _ found => ?_)
      rw [show worker = _ from (congrArg Prod.snd enqueued).symm]
      exact PartyMatchmakingWorker.enqueueJobRequest_retains found
  · exact start

theorem enqueueSection_stores
    (accepted : (group.enqueueSection workerCount base timeSec request ticket statuses).1 = true) :
    ((group.enqueueSection workerCount base timeSec request ticket statuses).2.1.workers
      base).waitingQueue.find? request.matchTicketId = some request := by
  rw [enqueueSection] at accepted ⊢
  split_ifs at accepted ⊢
  split at accepted
  · cases accepted
  · rename_i worker enqueued
    rw [workers_updateWorker, Function.update_self,
      show worker = _ from (congrArg Prod.snd enqueued).symm]
    exact PartyMatchmakingWorker.enqueueJobRequest_stores (congrArg Prod.fst enqueued)

/-- A refused request leaves empty queues empty. -/
theorem isEmpty_enqueueSection {index : Int}
    (refused : (group.enqueueSection workerCount base timeSec request ticket statuses).1 = false)
    (empty : (group.workers index).waitingQueue.isEmpty = true) :
    ((group.enqueueSection workerCount base timeSec request ticket statuses).2.1.workers
      index).waitingQueue.isEmpty = true := by
  rw [enqueueSection] at refused ⊢
  have scheduled := scheduleExpansion_workers group workerCount timeSec request
  split_ifs at refused ⊢
  · split at refused
    · rename_i worker enqueued
      rw [workers_updateWorker]
      by_cases same : index = base
      · subst same
        rw [Function.update_self]
        refine PartyMatchmakingWorker.isEmpty_erase ticket ?_
        rw [show worker = _ from (congrArg Prod.snd enqueued).symm,
          PartyMatchmakingWorker.enqueueJobRequest_refused (congrArg Prod.fst enqueued), scheduled]
        exact empty
      · rw [Function.update_of_ne same, scheduled]
        exact empty
    · cases refused
  · rw [scheduled]
    exact empty

end Enqueue

theorem eraseFromWorkers_retains :
    Retains (· = ticket.matchTicketId) group (group.eraseFromWorkers workerCount ticket) := by
  intro index id stored different found
  rw [eraseFromWorkers]
  dsimp only
  split_ifs
  · rw [find?_erase_of_ne different, found]
  · exact found

theorem cancelMatchTicket_retains :
    Retains (· = ticket.matchTicketId) group
      (group.cancelMatchTicket workerCount ticket statuses).2.1 := by
  rw [cancelMatchTicket]
  split
  · exact .refl group
  · exact eraseFromWorkers_retains

theorem isEmpty_cancelMatchTicket {index : Int}
    (empty : (group.workers index).waitingQueue.isEmpty = true) :
    ((group.cancelMatchTicket workerCount ticket statuses).2.1.workers
      index).waitingQueue.isEmpty = true := by
  rw [cancelMatchTicket]
  split
  · exact empty
  · rw [eraseFromWorkers]
    dsimp only
    split_ifs
    · exact PartyMatchmakingWorker.isEmpty_erase ticket empty
    · exact empty

theorem eraseFromRange_retains (pointer : request.matchTicketPtr = some ticket) :
    Retains (· = ticket.matchTicketId) group (eraseFromRange workerCount slots group request) := by
  intro index id stored different found
  rw [eraseFromRange, pointer]
  dsimp only
  split_ifs
  · rw [find?_erase_of_ne different, found]
  · exact found

theorem isEmpty_eraseFromRange {index : Int}
    (empty : (group.workers index).waitingQueue.isEmpty = true) :
    ((eraseFromRange workerCount slots group request).workers index).waitingQueue.isEmpty =
      true := by
  rw [eraseFromRange]
  split
  · exact empty
  · dsimp only
    split_ifs
    · exact PartyMatchmakingWorker.isEmpty_erase _ empty
    · exact empty

/-- The commit of a match takes the entries of its tickets out. -/
theorem eraseAll_retains {tickets : List MatchTicket} {requests : List MatchmakingRequest}
    (ticketsOf : TicketsOf requests tickets) :
    Retains (fun id => ∃ ticket ∈ tickets, id = ticket.matchTicketId) group
      (requests.foldl (eraseFromRange workerCount slots) group) := by
  induction requests generalizing group tickets with
  | nil => exact .refl group
  | cons request rest ih =>
      obtain ⟨ticket, others, rfl, pointer, ofRest⟩ := ticketsOf_cons_iff.mp ticketsOf
      refine Retains.trans ((eraseFromRange_retains pointer).mono fun id same =>
        ⟨ticket, List.mem_cons_self, same⟩) ((ih ofRest).mono ?_)
      rintro id ⟨other, inside, same⟩
      exact ⟨other, List.mem_cons_of_mem _ inside, same⟩

theorem isEmpty_tryCommit {index : Int} {pointers : List (Option MatchmakingRequest)}
    (empty : (group.workers index).waitingQueue.isEmpty = true) :
    ((group.tryCommitMatchmakingRequests workerCount slots pointers statuses).2.1.workers
      index).waitingQueue.isEmpty = true := by
  rcases tryCommit_cases pointers with same | ⟨requests, tickets, -, -, -, -, -, result⟩
  · rw [same]
    exact empty
  · rw [result]
    clear result
    induction requests generalizing group with
    | nil => exact empty
    | cons request rest ih => exact ih (isEmpty_eraseFromRange empty)

/-! ## Expansions -/

theorem enqueueAt_retains (index : Int) :
    Retains lost group (group.enqueueAt workerCount index request) := by
  rw [enqueueAt]
  split_ifs
  · exact .updateWorker fun _ _ _ => PartyMatchmakingWorker.enqueueJobRequest_retains
  · exact .refl group

theorem expandRequest_retains :
    Retains lost group (expandRequest workerCount request group slots).2.1 := by
  rw [expandRequest]
  dsimp only
  split_ifs
  · exact (enqueueAt_retains _).trans (enqueueAt_retains _)
  · exact enqueueAt_retains _
  · exact enqueueAt_retains _
  · exact .refl group

theorem expandDue_retains {due : List (Int × MatchmakingRequest)} :
    Retains lost group (expandDue workerCount statuses due group slots).2.1 := by
  induction due generalizing group slots with
  | nil => exact .refl group
  | cons entry rest ih =>
      obtain ⟨time, request⟩ := entry
      rw [expandDue]
      cases request.matchTicketPtr with
      | none => exact ih
      | some ticket =>
          dsimp only
          split_ifs
          · exact expandRequest_retains.trans ih
          · exact expandRequest_retains.trans ih
          · exact ih

theorem expandMatchmakingWorkerSlot_retains :
    Retains lost group
      (expandMatchmakingWorkerSlot workerCount timeSec statuses group slots).1 :=
  expandDue_retains

/-- `expand_slot_success`: a request that is due is still queued. -/
def expandSlotSuccess (group : PartyMatchmakingWorkerGroup) (timeSec : Int)
    (statuses : TicketStatuses) : Bool :=
  (group.matchmakingRequestSlotExpandTimeMap.takeWhile (·.1 ≤ timeSec - 1)).any fun entry =>
    entry.2.matchTicketPtr.any fun ticket => decide (statuses ticket = .queued)

theorem expandDue_of_idle {due : List (Int × MatchmakingRequest)}
    (idle : (due.any fun entry => entry.2.matchTicketPtr.any fun ticket =>
      decide (statuses ticket = .queued)) = false) :
    expandDue workerCount statuses due group slots = ([], group, slots) := by
  induction due generalizing group slots with
  | nil => rfl
  | cons entry rest ih =>
      obtain ⟨time, request⟩ := entry
      rw [List.any_cons, Bool.or_eq_false_iff] at idle
      rw [expandDue]
      cases pointer : request.matchTicketPtr with
      | none =>
          simp only [Bool.false_eq_true, if_false]
          exact ih idle.2
      | some ticket =>
          have unqueued : decide (statuses ticket = .queued) = false := by
            have first := idle.1
            rwa [pointer] at first
          simp only [unqueued, Bool.false_eq_true, if_false]
          exact ih idle.2

/-- An expansion that is not successful changes no worker. -/
theorem expandMatchmakingWorkerSlot_workers
    (idle : group.expandSlotSuccess timeSec statuses = false) :
    (expandMatchmakingWorkerSlot workerCount timeSec statuses group slots).1.workers =
      group.workers := by
  rw [expandMatchmakingWorkerSlot, expandDue_of_idle idle]

end PartyMatchmakingWorkerGroup

/-! ## Solo workers -/

namespace SoloMatchmakingWorker

variable {worker : SoloMatchmakingWorker} {ticket other : MatchTicket}

/-- The worker keeps the ticket's request, in its queue or in its list in progress. -/
def Keeps (worker : SoloMatchmakingWorker) (ticket : MatchTicket) : Prop :=
  worker.waitingQueue.find? ticket.matchTicketId = some ticket.matchmakingRequest ∨
    worker.sendProgressingList.find? ticket.matchTicketId = some ticket.matchmakingRequest

theorem Keeps.erase (keeps : worker.Keeps ticket)
    (different : ticket.matchTicketId ≠ other.matchTicketId) : (worker.erase other).Keeps ticket :=
  keeps.imp
    (fun waiting => (OrderedMap.find?_erase _ _ _).trans ((if_neg different).trans waiting))
    (fun sending => (OrderedMap.find?_erase _ _ _).trans ((if_neg different).trans sending))

theorem Keeps.enqueueJobRequest (keeps : worker.Keeps ticket) (statuses : TicketStatuses)
    (request : MatchmakingRequest) (different : ticket.matchTicketId ≠ request.matchTicketId) :
    (worker.enqueueJobRequest statuses request).2.Keeps ticket := by
  rw [SoloMatchmakingWorker.enqueueJobRequest]
  split
  · exact keeps
  · split_ifs
    · exact keeps
    · exact keeps
    · exact keeps.imp_left fun waiting =>
        (OrderedMap.find?_insertOrAssign _ _ _ _).trans ((if_neg different).trans waiting)

theorem enqueueJobRequest_stores {statuses : TicketStatuses} {request : MatchmakingRequest}
    (accepted : (worker.enqueueJobRequest statuses request).1 = true) :
    (worker.enqueueJobRequest statuses request).2.waitingQueue.find? request.matchTicketId =
      some request := by
  rw [enqueueJobRequest] at accepted ⊢
  split at accepted
  · cases accepted
  · split_ifs at accepted ⊢
    rw [OrderedMap.find?_insertOrAssign, if_pos rfl]

theorem Keeps.cancel (keeps : worker.Keeps ticket) {statuses : TicketStatuses}
    (different : ticket.matchTicketId ≠ other.matchTicketId) :
    (worker.cancel other statuses).2.1.Keeps ticket := by
  rw [SoloMatchmakingWorker.cancel]
  split
  · exact keeps
  · exact keeps.erase different

/-- Requests are stored under their own ids. -/
structure Keyed (worker : SoloMatchmakingWorker) : Prop where
  waiting : ∀ id request, worker.waitingQueue.find? id = some request →
    request.matchTicketId = id
  progressing : ∀ id request, worker.sendProgressingList.find? id = some request →
    request.matchTicketId = id

theorem Keyed.erase (keyed : worker.Keyed) (ticket : MatchTicket) :
    (worker.erase ticket).Keyed := by
  have stored : ∀ {queue : WaitingQueue} {id request},
      (queue.erase ticket.matchTicketId).find? id = some request →
        queue.find? id = some request := by
    intro queue id request found
    rw [OrderedMap.find?_erase] at found
    split_ifs at found
    exact found
  exact ⟨fun id request found => keyed.waiting id request (stored found),
    fun id request found => keyed.progressing id request (stored found)⟩

theorem Keyed.enqueueJobRequest (keyed : worker.Keyed) (statuses : TicketStatuses)
    (request : MatchmakingRequest) : (worker.enqueueJobRequest statuses request).2.Keyed := by
  rw [SoloMatchmakingWorker.enqueueJobRequest]
  split
  · exact keyed
  · split_ifs
    · exact keyed
    · exact keyed
    · refine ⟨fun id stored found => ?_, keyed.progressing⟩
      rw [OrderedMap.find?_insertOrAssign] at found
      split_ifs at found with same
      · cases found
        exact same.symm
      · exact keyed.waiting id stored found

theorem Keyed.cancel (keyed : worker.Keyed) (ticket : MatchTicket) (statuses : TicketStatuses) :
    (worker.cancel ticket statuses).2.1.Keyed := by
  rw [SoloMatchmakingWorker.cancel]
  split
  · exact keyed
  · exact keyed.erase ticket

private theorem keyed_fillProgressingList {matchPlayerCount : Int}
    {entries : List (MatchTicketId × MatchmakingRequest)} {waiting sending : WaitingQueue}
    (keyed : Keyed ⟨waiting, sending⟩) :
    Keyed ⟨(fillProgressingList matchPlayerCount entries waiting sending).1,
      (fillProgressingList matchPlayerCount entries waiting sending).2⟩ := by
  induction entries generalizing waiting sending with
  | nil => exact keyed
  | cons head rest ih =>
      obtain ⟨id, request⟩ := head
      rw [fillProgressingList]
      split_ifs
      · exact keyed
      refine ih ⟨fun other stored found => ?_, fun other stored found => ?_⟩
      · rw [OrderedMap.find?_erase] at found
        split_ifs at found
        exact keyed.waiting other stored found
      · rw [OrderedMap.find?_emplace, Option.or_eq_some_iff] at found
        rcases found with earlier | ⟨-, moved⟩
        · exact keyed.progressing other stored earlier
        · split_ifs at moved with same
          cases moved
          exact same.symm

theorem Keyed.filled (keyed : worker.Keyed) (rule : MatchmakingRule) :
    (worker.filled rule).Keyed :=
  keyed_fillProgressingList keyed

theorem Keyed.doWorkerAsyncJob (keyed : worker.Keyed) (rule : MatchmakingRule)
    (statuses : TicketStatuses) : (worker.doWorkerAsyncJob rule statuses).2.1.Keyed := by
  have filled := keyed.filled rule
  rcases doWorkerAsyncJob_cases rule worker statuses with
    ⟨-, run⟩ | ⟨-, ⟨-, run⟩ | ⟨-, run⟩⟩
  · rw [run]
    exact filled
  · rw [run]
    exact ⟨filled.waiting, nofun⟩
  · rw [run]
    exact ⟨filled.waiting, nofun⟩

/-- Requests with the ticket's id are the ticket's. -/
private theorem keeps_fillProgressingList {matchPlayerCount : Int}
    {entries : List (MatchTicketId × MatchmakingRequest)} {waiting sending : WaitingQueue}
    (named : ∀ entry ∈ entries, entry.2.matchTicketId = entry.1)
    (own : ∀ entry ∈ entries, entry.1 = ticket.matchTicketId →
      entry.2 = ticket.matchmakingRequest)
    (sent : ∀ request, sending.find? ticket.matchTicketId = some request →
      request = ticket.matchmakingRequest)
    (keeps : Keeps ⟨waiting, sending⟩ ticket) :
    Keeps ⟨(fillProgressingList matchPlayerCount entries waiting sending).1,
      (fillProgressingList matchPlayerCount entries waiting sending).2⟩ ticket := by
  induction entries generalizing waiting sending with
  | nil => exact keeps
  | cons head rest ih =>
      obtain ⟨id, request⟩ := head
      have key : request.matchTicketId = id := named _ List.mem_cons_self
      have mine : id = ticket.matchTicketId → request = ticket.matchmakingRequest :=
        own _ List.mem_cons_self
      rw [fillProgressingList]
      split_ifs
      · exact keeps
      refine ih (fun entry inside => named entry (List.mem_cons_of_mem _ inside))
        (fun entry inside => own entry (List.mem_cons_of_mem _ inside)) (fun stored found => ?_) ?_
      · rw [OrderedMap.find?_emplace, Option.or_eq_some_iff] at found
        rcases found with earlier | ⟨-, moved⟩
        · exact sent stored earlier
        · split_ifs at moved with same
          cases moved
          exact mine (key.symm.trans same.symm)
      · simp only [Keeps, OrderedMap.find?_erase, OrderedMap.find?_emplace, key]
        by_cases same : ticket.matchTicketId = id
        · right
          rw [if_pos same, mine same.symm]
          cases found : sending.find? ticket.matchTicketId with
          | none => rfl
          | some stored => rw [sent stored found, Option.some_or]
        · rw [if_neg same, if_neg same, Option.or_none]
          exact keeps

section Run

variable {property : MatchmakingRequest → Prop} (keyed : worker.Keyed)
  (every : worker.Every property)
  (unique : ∀ request, property request → request.matchTicketId = ticket.matchTicketId →
    request = ticket.matchmakingRequest)

include keyed every unique

theorem Keeps.filled (keeps : worker.Keeps ticket) (rule : MatchmakingRule) :
    (worker.filled rule).Keeps ticket := by
  have stored : ∀ entry ∈ worker.waitingQueue.entries,
      worker.waitingQueue.find? entry.1 = some entry.2 :=
    fun entry inside => OrderedMap.find?_eq_some_iff.mpr inside
  refine keeps_fillProgressingList (fun entry inside => keyed.waiting _ _ (stored entry inside))
    (fun entry inside same => ?_) (fun request found => ?_) keeps
  · exact unique _ (every.waiting _ _ (stored entry inside))
      ((keyed.waiting _ _ (stored entry inside)).trans same)
  · exact unique _ (every.progressing _ _ found) (keyed.progressing _ _ found)

/-- A run keeps a queued ticket or moves it on. -/
theorem Keeps.doWorkerAsyncJob (keeps : worker.Keeps ticket) (rule : MatchmakingRule)
    (statuses : TicketStatuses) :
    (worker.doWorkerAsyncJob rule statuses).2.1.Keeps ticket ∨
      (worker.doWorkerAsyncJob rule statuses).2.2 ticket ≠ .queued := by
  have filled := keeps.filled keyed every unique rule
  have searched : (worker.filled rule).sendProgressingList.find? ticket.matchTicketId =
      some ticket.matchmakingRequest → ticket ∈ (searchTickets
        (worker.filled rule).sendProgressingList.values statuses).2.1 := fun found =>
    mem_searchTickets.mpr ⟨_, List.mem_map.mpr
      ⟨_, OrderedMap.find?_eq_some_iff.mp found, rfl⟩, rfl⟩
  rcases doWorkerAsyncJob_cases rule worker statuses with
    ⟨-, run⟩ | ⟨-, ⟨-, run⟩ | ⟨-, run⟩⟩
  · rw [run]
    exact Or.inl filled
  all_goals
    rw [run]
    exact filled.imp Or.inl fun found => searchTickets_not_queued (searched found)

end Run

/-! ## Empty queues -/

theorem isEmpty_erase (empty : worker.waitingQueue.isEmpty = true) :
    (worker.erase ticket).waitingQueue.isEmpty = true := by
  rw [OrderedMap.isEmpty_iff_find?] at empty ⊢
  intro key
  rw [erase, OrderedMap.find?_erase, empty, ite_self]

theorem enqueueJobRequest_refused {statuses : TicketStatuses} {request : MatchmakingRequest}
    (refused : (worker.enqueueJobRequest statuses request).1 = false) :
    (worker.enqueueJobRequest statuses request).2 = worker := by
  rw [enqueueJobRequest] at refused ⊢
  split at refused
  · rfl
  · split_ifs at refused ⊢ <;> rfl

theorem isEmpty_cancel {statuses : TicketStatuses} (empty : worker.waitingQueue.isEmpty = true) :
    (worker.cancel ticket statuses).2.1.waitingQueue.isEmpty = true := by
  rw [cancel]
  split
  · exact empty
  · exact isEmpty_erase empty

theorem isEmpty_doWorkerAsyncJob {rule : MatchmakingRule} {statuses : TicketStatuses}
    (empty : worker.waitingQueue.isEmpty = true) :
    (worker.doWorkerAsyncJob rule statuses).2.1.waitingQueue.isEmpty = true := by
  have none : worker.waitingQueue = OrderedMap.empty := OrderedMap.isEmpty_iff.mp empty
  have filled : (worker.filled rule).waitingQueue = OrderedMap.empty := by
    rw [SoloMatchmakingWorker.filled, none]
    rfl
  rcases doWorkerAsyncJob_cases rule worker statuses with
    ⟨-, run⟩ | ⟨-, ⟨-, run⟩ | ⟨-, run⟩⟩ <;> rw [run, OrderedMap.isEmpty_iff] <;> exact filled

end SoloMatchmakingWorker

end MatchmakingMvp
