import MatchmakingMvp.Worker.Entries

/-! # Claiming tickets for a match

A worker claims the tickets of a match by moving them from queued to searching.
Both kinds of workers claim pairwise distinct queued tickets and no others
(`SoloMatchmakingWorker.searchTickets_success`,
`PartyMatchmakingWorkerGroup.tryCommit_cases`).
-/

namespace MatchmakingMvp

open Foundation

theorem canChangeStatus_searching_iff {status : MatchTicketStatus} :
    canChangeStatus status .searching = true ↔ status = .queued := by
  cases status <;> decide

theorem canChangeStatus_cancelled_iff {status : MatchTicketStatus} :
    canChangeStatus status .cancelled = true ↔ status = .none ∨ status = .queued := by
  cases status <;> decide

/-- The tickets of requests, where every request has one. -/
def TicketsOf (requests : List MatchmakingRequest) (tickets : List MatchTicket) : Prop :=
  requests.map MatchmakingRequest.matchTicketPtr = tickets.map some

theorem TicketsOf.filterMap {requests : List MatchmakingRequest} {tickets : List MatchTicket}
    (ticketsOf : TicketsOf requests tickets) :
    requests.filterMap MatchmakingRequest.matchTicketPtr = tickets := by
  have compose : requests.filterMap MatchmakingRequest.matchTicketPtr =
      (requests.map MatchmakingRequest.matchTicketPtr).filterMap id := by
    simp [List.filterMap_map]
  rw [compose, ticketsOf]
  simp [List.filterMap_map]

theorem TicketsOf.request_of_mem {requests : List MatchmakingRequest}
    {tickets : List MatchTicket} (ticketsOf : TicketsOf requests tickets) {ticket : MatchTicket}
    (member : ticket ∈ tickets) :
    ∃ request ∈ requests, request.matchTicketPtr = some ticket := by
  have inside : some ticket ∈ requests.map MatchmakingRequest.matchTicketPtr := by
    rw [ticketsOf]
    exact List.mem_map_of_mem member
  exact List.mem_map.mp inside

theorem TicketsOf.ticket_of_mem {requests : List MatchmakingRequest}
    {tickets : List MatchTicket} (ticketsOf : TicketsOf requests tickets)
    {request : MatchmakingRequest} (member : request ∈ requests) :
    ∃ ticket ∈ tickets, request.matchTicketPtr = some ticket := by
  have inside : request.matchTicketPtr ∈ tickets.map some := by
    rw [← ticketsOf]
    exact List.mem_map_of_mem member
  obtain ⟨ticket, inTickets, same⟩ := List.mem_map.mp inside
  exact ⟨ticket, inTickets, same.symm⟩

theorem ticketsOf_cons_iff {request : MatchmakingRequest} {requests : List MatchmakingRequest}
    {tickets : List MatchTicket} :
    TicketsOf (request :: requests) tickets ↔ ∃ ticket rest, tickets = ticket :: rest ∧
      request.matchTicketPtr = some ticket ∧ TicketsOf requests rest := by
  cases tickets with
  | nil => simp [TicketsOf]
  | cons ticket rest =>
      simp only [TicketsOf, List.map_cons, List.cons.injEq]
      constructor
      · rintro ⟨pointer, others⟩
        exact ⟨ticket, rest, ⟨rfl, rfl⟩, pointer, others⟩
      · rintro ⟨_, _, ⟨rfl, rfl⟩, pointer, others⟩
        exact ⟨pointer, others⟩

/-! ## Solo workers -/

namespace SoloMatchmakingWorker

variable {requests : List MatchmakingRequest} {statuses : TicketStatuses}

/-- A search changes queued tickets to searching and no others. -/
theorem searchTickets_apply (ticket : MatchTicket) :
    (searchTickets requests statuses).2.2 ticket = statuses ticket ∨
      statuses ticket = .queued ∧ (searchTickets requests statuses).2.2 ticket = .searching := by
  induction requests generalizing statuses with
  | nil => exact Or.inl rfl
  | cons request rest ih =>
      rw [searchTickets]
      cases request.matchTicketPtr with
      | none => exact ih
      | some head =>
          simp only
          by_cases can : canChangeStatus (statuses head) .searching = true
          · rw [MatchTicket.changeStatus_of_can can]
            rcases @ih (Function.update statuses head .searching) with same | moved
            · simp only [same]
              by_cases here : ticket = head
              · subst here
                rw [Function.update_self]
                exact Or.inr ⟨canChangeStatus_searching_iff.mp can, rfl⟩
              · rw [Function.update_of_ne here]
                exact Or.inl rfl
            · by_cases here : ticket = head
              · subst here
                rw [Function.update_self] at moved
                cases moved.1
              · rw [Function.update_of_ne here] at moved
                exact Or.inr moved
          · rw [MatchTicket.changeStatus_of_cannot (by simpa using can)]
            exact ih

/-- **A successful search** claims distinct queued tickets, one for each request. -/
theorem searchTickets_success (success : (searchTickets requests statuses).1 = true) :
    TicketsOf requests (searchTickets requests statuses).2.1 ∧
      (searchTickets requests statuses).2.1.Nodup ∧
      (∀ ticket ∈ (searchTickets requests statuses).2.1, statuses ticket = .queued) ∧
      (searchTickets requests statuses).2.2 =
        moveAll (searchTickets requests statuses).2.1 .searching statuses := by
  induction requests generalizing statuses with
  | nil => exact ⟨rfl, List.nodup_nil, nofun, moveAll_nil.symm⟩
  | cons request rest ih =>
      rw [searchTickets] at success ⊢
      cases pointer : request.matchTicketPtr with
      | none =>
          simp only [pointer] at success
          cases success
      | some head =>
          simp only [pointer, Bool.and_eq_true] at success ⊢
          have can : canChangeStatus (statuses head) .searching = true := by
            rw [← MatchTicket.changeStatus_fst]
            exact success.1
          rw [MatchTicket.changeStatus_of_can can] at success ⊢
          simp only at success ⊢
          obtain ⟨ticketsOf, nodup, queued, moved⟩ := ih success.2
          have outside : head ∉ (searchTickets rest
              (Function.update statuses head .searching)).2.1 := by
            intro inside
            have status := queued head inside
            rw [Function.update_self] at status
            cases status
          refine ⟨?_, List.nodup_cons.mpr ⟨outside, nodup⟩, ?_, ?_⟩
          · rw [TicketsOf, List.map_cons, List.map_cons, pointer, ticketsOf]
          · intro ticket member
            rcases List.mem_cons.mp member with rfl | inside
            · exact canChangeStatus_searching_iff.mp can
            · have status := queued ticket inside
              rwa [Function.update_of_ne (ne_of_mem_of_not_mem inside outside)] at status
          · simp only [moved]
            funext ticket
            by_cases same : ticket = head
            · subst same
              simp [moveAll]
            · simp [moveAll, same]

theorem mem_searchTickets {ticket : MatchTicket} :
    ticket ∈ (searchTickets requests statuses).2.1 ↔
      ∃ request ∈ requests, request.matchTicketPtr = some ticket := by
  induction requests generalizing statuses with
  | nil => simp [searchTickets]
  | cons request rest ih =>
      rw [searchTickets]
      cases pointer : request.matchTicketPtr with
      | none => simp [pointer, ih]
      | some head => simp [pointer, ih, eq_comm]

theorem searchTickets_of_not_mem {ticket : MatchTicket}
    (outside : ticket ∉ (searchTickets requests statuses).2.1) :
    (searchTickets requests statuses).2.2 ticket = statuses ticket := by
  induction requests generalizing statuses with
  | nil => rfl
  | cons request rest ih =>
      rw [searchTickets] at outside ⊢
      cases pointer : request.matchTicketPtr with
      | none =>
          simp only [pointer] at outside ⊢
          exact ih outside
      | some head =>
          simp only [pointer, List.mem_cons, not_or] at outside ⊢
          rw [ih outside.2, MatchTicket.changeStatus_of_ne outside.1]

/-- No searched ticket is still queued. -/
theorem searchTickets_not_queued {ticket : MatchTicket}
    (member : ticket ∈ (searchTickets requests statuses).2.1) :
    (searchTickets requests statuses).2.2 ticket ≠ .queued := by
  induction requests generalizing statuses with
  | nil => cases member
  | cons request rest ih =>
      rw [searchTickets] at member ⊢
      cases pointer : request.matchTicketPtr with
      | none =>
          simp only [pointer] at member ⊢
          exact ih member
      | some head =>
          simp only [pointer, List.mem_cons] at member ⊢
          rcases member with rfl | inside
          · have moved : (ticket.changeStatus .searching statuses).2 ticket ≠ .queued := by
              cases can : canChangeStatus (statuses ticket) .searching with
              | true => simp [MatchTicket.changeStatus_of_can can]
              | false =>
                  rw [MatchTicket.changeStatus_of_cannot can]
                  intro queued
                  simp only at queued
                  rw [queued] at can
                  cases can
            rcases searchTickets_apply ticket with
              same | ⟨queued, -⟩
            · rwa [same]
            · exact (moved queued).elim
          · exact ih inside

/-- The list in progress does not outgrow the match. -/
theorem size_fillProgressingList_le {matchPlayerCount : Int} (players : 0 < matchPlayerCount)
    (inRange : matchPlayerCount < 2 ^ 31) {entries : List (MatchTicketId × MatchmakingRequest)}
    {waitingQueue progressing : WaitingQueue} (within : progressing.size ≤ matchPlayerCount) :
    (fillProgressingList matchPlayerCount entries waitingQueue progressing).2.size ≤
      matchPlayerCount := by
  induction entries generalizing waitingQueue progressing with
  | nil => exact within
  | cons head rest ih =>
      obtain ⟨matchTicketId, request⟩ := head
      rw [fillProgressingList]
      split_ifs with complete
      · exact within
      · refine ih ?_
        have grows := progressing.size_emplace_le request.matchTicketId request
        rw [sizeAtLeast, Int.emod_eq_of_lt players.le (by omega), decide_eq_true_eq] at complete
        omega

theorem size_filled_le {rule : MatchmakingRule} {worker : SoloMatchmakingWorker}
    (within : (worker.sendProgressingList.size : Int) ≤ max 0 rule.matchPlayerCount)
    (idle : rule.matchPlayerCount ≤ 0 → worker.waitingQueue = OrderedMap.empty) :
    ((worker.filled rule).sendProgressingList.size : Int) ≤ max 0 rule.matchPlayerCount := by
  by_cases players : 0 < rule.matchPlayerCount
  · have filled : ((worker.filled rule).sendProgressingList.size : Int) ≤ rule.matchPlayerCount :=
      size_fillProgressingList_le players rule.inRange.2 (by omega)
    exact filled.trans (le_max_right _ _)
  · have empty := idle (by omega)
    rw [filled, empty]
    exact within

/-- A list in progress that is complete holds one request for each player. -/
theorem size_eq_of_sizeAtLeast {rule : MatchmakingRule} {size : Nat}
    (complete : sizeAtLeast size rule.matchPlayerCount = true)
    (within : (size : Int) ≤ max 0 rule.matchPlayerCount) :
    (size : Int) = rule.matchPlayerCount := by
  obtain ⟨least, most⟩ := rule.inRange
  rw [sizeAtLeast, decide_eq_true_eq] at complete
  omega

/-- Distinct queued tickets are claimed. -/
theorem searchTickets_of_queued {tickets : List MatchTicket}
    (ticketsOf : TicketsOf requests tickets) (nodup : tickets.Nodup)
    (queued : ∀ ticket ∈ tickets, statuses ticket = .queued) :
    searchTickets requests statuses = (true, tickets, moveAll tickets .searching statuses) := by
  induction requests generalizing tickets statuses with
  | nil =>
      rw [List.map_eq_nil_iff.mp (show tickets.map some = [] from ticketsOf.symm)]
      simp [searchTickets]
  | cons request rest ih =>
      obtain ⟨head, others, rfl, pointer, following⟩ := ticketsOf_cons_iff.mp ticketsOf
      obtain ⟨outside, distinct⟩ := List.nodup_cons.mp nodup
      have can : canChangeStatus (statuses head) .searching = true :=
        canChangeStatus_searching_iff.mpr (queued head List.mem_cons_self)
      rw [searchTickets, pointer]
      simp only [MatchTicket.changeStatus_of_can can]
      rw [ih following distinct]
      · simp only [Bool.and_self, Prod.mk.injEq, true_and]
        funext ticket
        by_cases same : ticket = head
        · subst same
          simp [moveAll, outside]
        · simp [moveAll, same]
      · intro ticket inside
        rw [Function.update_of_ne (ne_of_mem_of_not_mem inside outside)]
        exact queued ticket (List.mem_cons_of_mem _ inside)

/-- **A run of a worker** finds too few requests, or takes the list in progress
and claims its tickets, or takes it and finds a ticket that cannot be claimed. -/
theorem doWorkerAsyncJob_cases (rule : MatchmakingRule) (worker : SoloMatchmakingWorker)
    (statuses : TicketStatuses) :
    let filled := worker.filled rule
    let taken : SoloMatchmakingWorker := ⟨filled.waitingQueue, OrderedMap.empty⟩
    let search := searchTickets filled.sendProgressingList.values statuses
    (¬ sizeAtLeast filled.sendProgressingList.size rule.matchPlayerCount = true ∧
      worker.doWorkerAsyncJob rule statuses = (.incomplete, filled, statuses)) ∨
    sizeAtLeast filled.sendProgressingList.size rule.matchPlayerCount = true ∧
      (search.1 = true ∧
        worker.doWorkerAsyncJob rule statuses = (.matched search.2.1, taken, search.2.2) ∨
      search.1 = false ∧
        worker.doWorkerAsyncJob rule statuses = (.rejected search.2.1, taken, search.2.2)) := by
  simp only [doWorkerAsyncJob]
  by_cases complete : sizeAtLeast (worker.filled rule).sendProgressingList.size
      rule.matchPlayerCount = true
  · rw [if_pos complete]
    cases success : (searchTickets (worker.filled rule).sendProgressingList.values statuses).1 with
    | true => exact Or.inr ⟨complete, Or.inl ⟨rfl, rfl⟩⟩
    | false => exact Or.inr ⟨complete, Or.inr ⟨rfl, rfl⟩⟩
  · rw [if_neg complete]
    exact Or.inl ⟨complete, rfl⟩

theorem cancel_of_can {worker : SoloMatchmakingWorker} {ticket : MatchTicket}
    (can : canChangeStatus (statuses ticket) .cancelled = true) :
    worker.cancel ticket statuses =
      (true, worker.erase ticket, Function.update statuses ticket .cancelled) := by
  rw [cancel, MatchTicket.changeStatus_of_can can]

theorem cancel_of_cannot {worker : SoloMatchmakingWorker} {ticket : MatchTicket}
    (cannot : canChangeStatus (statuses ticket) .cancelled = false) :
    worker.cancel ticket statuses = (false, worker, statuses) := by
  rw [cancel, MatchTicket.changeStatus_of_cannot cannot]

theorem cancel_statuses {worker : SoloMatchmakingWorker} {ticket : MatchTicket} :
    (worker.cancel ticket statuses).2.2 = (ticket.changeStatus .cancelled statuses).2 := by
  cases can : canChangeStatus (statuses ticket) .cancelled with
  | true => rw [cancel_of_can can, MatchTicket.changeStatus_of_can can]
  | false => rw [cancel_of_cannot can, MatchTicket.changeStatus_of_cannot can]

theorem cancel_of_ne {worker : SoloMatchmakingWorker} {ticket other : MatchTicket}
    (different : other ≠ ticket) : (worker.cancel ticket statuses).2.2 other = statuses other := by
  rw [cancel_statuses, MatchTicket.changeStatus_of_ne different]

theorem cancel_stepsAtMostOnce (worker : SoloMatchmakingWorker) (ticket : MatchTicket)
    (statuses : TicketStatuses) :
    StepsAtMostOnce statuses (worker.cancel ticket statuses).2.2 := by
  rw [cancel_statuses]
  exact MatchTicket.stepsAtMostOnce_changeStatus

/-- A run changes queued tickets to searching and no others. -/
theorem doWorkerAsyncJob_apply {rule : MatchmakingRule} {worker : SoloMatchmakingWorker}
    (ticket : MatchTicket) :
    (worker.doWorkerAsyncJob rule statuses).2.2 ticket = statuses ticket ∨
      statuses ticket = .queued ∧
        (worker.doWorkerAsyncJob rule statuses).2.2 ticket = .searching := by
  rcases worker.doWorkerAsyncJob_cases rule statuses with
    ⟨-, run⟩ | ⟨-, ⟨-, run⟩ | ⟨-, run⟩⟩
  · exact Or.inl (by rw [run])
  · rw [run]
    exact searchTickets_apply ticket
  · rw [run]
    exact searchTickets_apply ticket

theorem doWorkerAsyncJob_stepsAtMostOnce (rule : MatchmakingRule)
    (worker : SoloMatchmakingWorker) (statuses : TicketStatuses) :
    StepsAtMostOnce statuses (worker.doWorkerAsyncJob rule statuses).2.2 := by
  intro ticket
  rcases doWorkerAsyncJob_apply ticket
    with same | ⟨queued, moved⟩
  · exact Or.inl same
  · rw [queued, moved]
    exact Or.inr rfl

end SoloMatchmakingWorker

/-! ## Party worker groups -/

namespace PartyMatchmakingWorkerGroup

variable {workerCount : Nat} {slots : MatchmakingRequest → WorkerSlot}
  {group : PartyMatchmakingWorkerGroup} {statuses : TicketStatuses}

theorem queuedTickets_eq_some_iff {pointers : List (Option MatchmakingRequest)}
    {tickets : List MatchTicket} :
    queuedTickets statuses pointers = some tickets ↔
      ∃ requests, pointers = requests.map some ∧ TicketsOf requests tickets ∧
        ∀ ticket ∈ tickets, statuses ticket = .queued := by
  induction pointers generalizing tickets with
  | nil =>
      simp only [queuedTickets, Option.some.injEq]
      constructor
      · rintro rfl
        exact ⟨[], rfl, rfl, nofun⟩
      · rintro ⟨requests, empty, ticketsOf, -⟩
        rw [List.map_eq_nil_iff.mp empty.symm] at ticketsOf
        exact (List.map_eq_nil_iff.mp ticketsOf.symm).symm
  | cons head rest ih =>
      cases head with
      | none =>
          simp only [queuedTickets, reduceCtorEq, false_iff]
          rintro ⟨requests, split, -⟩
          cases requests <;> cases split
      | some request =>
          have split : ∀ {requests : List MatchmakingRequest},
              some request :: rest = requests.map some ↔
                ∃ others, requests = request :: others ∧ rest = others.map some := by
            intro requests
            cases requests with
            | nil => simp
            | cons first others => simp [eq_comm]
          rw [queuedTickets]
          cases pointer : request.matchTicketPtr with
          | none =>
              simp only [reduceCtorEq, false_iff]
              rintro ⟨requests, same, ticketsOf, -⟩
              obtain ⟨others, rfl, -⟩ := split.mp same
              obtain ⟨ticket, -, -, present, -⟩ := ticketsOf_cons_iff.mp ticketsOf
              rw [pointer] at present
              cases present
          | some ticket =>
              simp only
              split_ifs with stale
              · simp only [false_iff]
                rintro ⟨requests, same, ticketsOf, queued⟩
                obtain ⟨others, rfl, -⟩ := split.mp same
                obtain ⟨first, remaining, rfl, present, -⟩ := ticketsOf_cons_iff.mp ticketsOf
                rw [pointer, Option.some.injEq] at present
                subst present
                exact stale (queued _ List.mem_cons_self)
              · rw [Option.map_eq_some_iff]
                constructor
                · rintro ⟨remaining, collected, rfl⟩
                  obtain ⟨requests, rfl, ticketsOf, queued⟩ := ih.mp collected
                  refine ⟨request :: requests, rfl,
                    ticketsOf_cons_iff.mpr ⟨ticket, remaining, rfl, pointer, ticketsOf⟩, ?_⟩
                  intro other member
                  rcases List.mem_cons.mp member with rfl | inside
                  · exact not_not.mp stale
                  · exact queued other inside
                · rintro ⟨requests, same, ticketsOf, queued⟩
                  obtain ⟨others, rfl, rfl⟩ := split.mp same
                  obtain ⟨first, remaining, rfl, present, following⟩ :=
                    ticketsOf_cons_iff.mp ticketsOf
                  rw [pointer, Option.some.injEq] at present
                  subst present
                  exact ⟨remaining, ih.mpr ⟨others, rfl, following, fun other inside =>
                    queued other (List.mem_cons_of_mem _ inside)⟩, rfl⟩

/-- **A commit claims distinct queued tickets, or changes nothing.** -/
theorem tryCommit_cases (pointers : List (Option MatchmakingRequest)) :
    group.tryCommitMatchmakingRequests workerCount slots pointers statuses =
        (false, group, statuses) ∨
      ∃ requests tickets, pointers = requests.map some ∧ TicketsOf requests tickets ∧
        tickets ≠ [] ∧ tickets.Nodup ∧ (∀ ticket ∈ tickets, statuses ticket = .queued) ∧
        group.tryCommitMatchmakingRequests workerCount slots pointers statuses =
          (true, requests.foldl (eraseFromRange workerCount slots) group,
            moveAll tickets .searching statuses) := by
  rw [tryCommitMatchmakingRequests]
  by_cases empty : pointers.isEmpty
  · exact Or.inl (if_pos empty)
  · rw [if_neg empty]
    cases collected : queuedTickets statuses pointers with
    | none => exact Or.inl rfl
    | some tickets =>
        obtain ⟨requests, rfl, ticketsOf, queued⟩ := queuedTickets_eq_some_iff.mp collected
        simp only
        have firsts : (tickets.map fun ticket => (ticket, MatchTicketStatus.queued)).map Prod.fst =
            tickets := by
          simp [List.map_map, Function.comp_def]
        by_cases ready : Ready .searching (tickets.map fun ticket => (ticket, .queued)) statuses
        · rw [changeAllIfCurrent_of_ready ready, firsts]
          refine Or.inr ⟨requests, tickets, rfl, ticketsOf, ?_, ?_, queued, ?_⟩
          · rintro rfl
            rw [TicketsOf, List.map_nil, List.map_eq_nil_iff] at ticketsOf
            subst ticketsOf
            exact empty rfl
          · rw [← firsts]
            exact ready.1
          · simp [List.reduceOption]
        · rw [changeAllIfCurrent_of_not_ready ready]
          exact Or.inl rfl

/-- A commit changes queued tickets to searching and no others. -/
theorem tryCommit_apply {pointers : List (Option MatchmakingRequest)} (ticket : MatchTicket) :
    (group.tryCommitMatchmakingRequests workerCount slots pointers statuses).2.2 ticket =
        statuses ticket ∨
      statuses ticket = .queued ∧
        (group.tryCommitMatchmakingRequests workerCount slots pointers statuses).2.2 ticket =
          .searching := by
  rcases tryCommit_cases pointers with
    refused | ⟨requests, tickets, -, -, -, -, queued, committed⟩
  · exact Or.inl (by rw [refused])
  · rw [committed]
    by_cases inside : ticket ∈ tickets
    · exact Or.inr ⟨queued ticket inside, moveAll_of_mem inside⟩
    · exact Or.inl (moveAll_of_not_mem inside)

theorem tryCommit_stepsAtMostOnce (pointers : List (Option MatchmakingRequest)) :
    StepsAtMostOnce statuses
      (group.tryCommitMatchmakingRequests workerCount slots pointers statuses).2.2 := by
  intro ticket
  rcases tryCommit_apply ticket with same | ⟨queued, moved⟩
  · exact Or.inl same
  · rw [queued, moved]
    exact Or.inr rfl

/-- Only the ticket of an accepted request is told to be queued. -/
theorem enqueueSection_statuses {index timeSec : Int} {request : MatchmakingRequest}
    {ticket : MatchTicket} :
    (group.enqueueSection workerCount index timeSec request ticket statuses).2.2 =
      if (group.enqueueSection workerCount index timeSec request ticket statuses).1 then
        (ticket.changeStatus .queued statuses).2
      else statuses := by
  rw [enqueueSection]
  by_cases present : hasWorker workerCount index = true
  · simp only [present, if_true]
    generalize ((group.scheduleExpansion workerCount timeSec request).workers
      index).enqueueJobRequest request = enqueued
    obtain ⟨accepted, worker⟩ := enqueued
    cases accepted <;> rfl
  · simp [present]

theorem enqueueSection_of_ne {index timeSec : Int} {request : MatchmakingRequest}
    {ticket other : MatchTicket} (different : other ≠ ticket) :
    (group.enqueueSection workerCount index timeSec request ticket statuses).2.2 other =
      statuses other := by
  rw [enqueueSection_statuses]
  split_ifs
  · exact MatchTicket.changeStatus_of_ne different
  · rfl

theorem enqueueSection_stepsAtMostOnce {index timeSec : Int} {request : MatchmakingRequest}
    {ticket : MatchTicket} :
    StepsAtMostOnce statuses
      (group.enqueueSection workerCount index timeSec request ticket statuses).2.2 := by
  rw [enqueueSection_statuses]
  split_ifs
  · exact MatchTicket.stepsAtMostOnce_changeStatus
  · exact StepsAtMostOnce.refl statuses

theorem cancelMatchTicket_of_can {ticket : MatchTicket}
    (can : canChangeStatus (statuses ticket) .cancelled = true) :
    group.cancelMatchTicket workerCount ticket statuses =
      (true, group.eraseFromWorkers workerCount ticket,
        Function.update statuses ticket .cancelled) := by
  rw [cancelMatchTicket, MatchTicket.changeStatus_of_can can]

theorem cancelMatchTicket_of_cannot {ticket : MatchTicket}
    (cannot : canChangeStatus (statuses ticket) .cancelled = false) :
    group.cancelMatchTicket workerCount ticket statuses = (false, group, statuses) := by
  rw [cancelMatchTicket, MatchTicket.changeStatus_of_cannot cannot]

theorem cancelMatchTicket_statuses {ticket : MatchTicket} :
    (group.cancelMatchTicket workerCount ticket statuses).2.2 =
      (ticket.changeStatus .cancelled statuses).2 := by
  cases can : canChangeStatus (statuses ticket) .cancelled with
  | true => rw [cancelMatchTicket_of_can can, MatchTicket.changeStatus_of_can can]
  | false => rw [cancelMatchTicket_of_cannot can, MatchTicket.changeStatus_of_cannot can]

theorem cancelMatchTicket_of_ne {ticket other : MatchTicket} (different : other ≠ ticket) :
    (group.cancelMatchTicket workerCount ticket statuses).2.2 other = statuses other := by
  rw [cancelMatchTicket_statuses, MatchTicket.changeStatus_of_ne different]

theorem cancelMatchTicket_stepsAtMostOnce (ticket : MatchTicket) :
    StepsAtMostOnce statuses (group.cancelMatchTicket workerCount ticket statuses).2.2 := by
  rw [cancelMatchTicket_statuses]
  exact MatchTicket.stepsAtMostOnce_changeStatus

end PartyMatchmakingWorkerGroup

end MatchmakingMvp
