import MatchmakingMvp.Worker.Claiming

/-! # The batches of a solo worker

A run moves the oldest waiting requests into the list in progress until the list
fills a match. As long as all requests of the worker carry queued tickets
(`MatchmakingMvp.SoloMatchmakingWorker.Sound`), the run either empties the queue or
claims one ticket for each player (`MatchmakingMvp.SoloMatchmakingWorker.Sound.run`).
-/

namespace MatchmakingMvp

open Foundation

/-- Requests with tickets have those tickets. -/
theorem ticketsOf_filterMap {requests : List MatchmakingRequest}
    (ticketed : ∀ request ∈ requests, ∃ ticket, request.matchTicketPtr = some ticket) :
    TicketsOf requests (requests.filterMap MatchmakingRequest.matchTicketPtr) := by
  induction requests with
  | nil => rfl
  | cons request rest ih =>
      obtain ⟨ticket, pointer⟩ := ticketed request List.mem_cons_self
      exact ticketsOf_cons_iff.mpr ⟨ticket, _, List.filterMap_cons_some pointer, pointer,
        ih fun other inside => ticketed other (List.mem_cons_of_mem _ inside)⟩

namespace SoloMatchmakingWorker

/-! ## Filling the list in progress -/

/-- Filling takes requests from the front of the queue until the list is complete. -/
theorem fillProgressingList_entries {matchPlayerCount : Int} (players : 0 < matchPlayerCount)
    (inRange : matchPlayerCount < 2 ^ 31) {entries : List (MatchTicketId × MatchmakingRequest)}
    {waiting progressing : WaitingQueue} (listed : waiting.entries = entries)
    (identified : ∀ entry ∈ entries, entry.2.matchTicketId = entry.1)
    (apart : ∀ entry ∈ entries, progressing.find? entry.1 = none) :
    (fillProgressingList matchPlayerCount entries waiting progressing).1.entries =
        entries.drop (matchPlayerCount.toNat - progressing.size) ∧
      (fillProgressingList matchPlayerCount entries waiting progressing).2.entries.Perm
        (progressing.entries ++ entries.take (matchPlayerCount.toNat - progressing.size)) := by
  induction entries generalizing waiting progressing with
  | nil =>
      rw [fillProgressingList, List.drop_nil, List.take_nil, List.append_nil]
      exact ⟨listed, List.Perm.refl _⟩
  | cons entry rest ih =>
      obtain ⟨id, request⟩ := entry
      have same : request.matchTicketId = id := identified _ List.mem_cons_self
      have ascending := waiting.ascending
      rw [listed] at ascending
      have later := (List.pairwise_cons.mp ascending).1
      rw [fillProgressingList]
      split_ifs with complete
      · rw [sizeAtLeast, Int.emod_eq_of_lt players.le (by omega), decide_eq_true_eq] at complete
        rw [show matchPlayerCount.toNat - progressing.size = 0 by omega, List.drop_zero,
          List.take_zero, List.append_nil]
        exact ⟨listed, List.Perm.refl _⟩
      · rw [sizeAtLeast, Int.emod_eq_of_lt players.le (by omega), decide_eq_true_eq] at complete
        have absent : progressing.find? id = none := apart _ List.mem_cons_self
        have removed : (waiting.erase id).entries = rest := by
          change waiting.entries.filter (fun entry => entry.1 ≠ id) = rest
          rw [listed, List.filter_cons_of_neg (by simp)]
          exact List.filter_eq_self.mpr fun other inside => by
            simpa using (later other inside).ne'
        rw [same, OrderedMap.emplace_of_absent absent]
        have added := OrderedMap.insertOrAssign_perm_of_absent absent request
        have apartRest : ∀ other ∈ rest,
            (progressing.insertOrAssign id request).find? other.1 = none := by
          intro other inside
          rw [OrderedMap.find?_insertOrAssign, if_neg (later other inside).ne']
          exact apart other (List.mem_cons_of_mem _ inside)
        obtain ⟨waits, progresses⟩ := ih removed
          (fun other inside => identified other (List.mem_cons_of_mem _ inside)) apartRest
        rw [OrderedMap.size_insertOrAssign_of_absent absent] at waits progresses
        have one : matchPlayerCount.toNat - progressing.size =
            matchPlayerCount.toNat - (progressing.size + 1) + 1 := by omega
        rw [one, List.drop_succ_cons, List.take_succ_cons]
        exact ⟨waits, progresses.trans ((added.append_right _).trans List.perm_middle.symm)⟩

/-! ## What a worker keeps -/

/-- The request carries a queued ticket with the id. -/
def Carries (admits : MatchTicket → Prop) (statuses : TicketStatuses) (id : MatchTicketId)
    (request : MatchmakingRequest) : Prop :=
  ∃ ticket, request.matchTicketPtr = some ticket ∧ admits ticket ∧ id = ticket.matchTicketId ∧
    statuses ticket = .queued

/-- Every request of the worker carries a queued ticket, and between the sections
the list in progress is too short for a match. -/
structure Sound (admits : MatchTicket → Prop) (statuses : TicketStatuses)
    (rule : MatchmakingRule) (worker : SoloMatchmakingWorker) : Prop where
  waiting : ∀ id request, worker.waitingQueue.find? id = some request →
    Carries admits statuses id request
  progressing : ∀ id request, worker.sendProgressingList.find? id = some request →
    Carries admits statuses id request
  apart : ∀ id, worker.waitingQueue.contains id = true →
    worker.sendProgressingList.find? id = none
  short : (worker.sendProgressingList.size : Int) < rule.matchPlayerCount

/-- The worker has a request with the id. -/
def Has (worker : SoloMatchmakingWorker) (id : MatchTicketId) : Prop :=
  worker.waitingQueue.contains id = true ∨ worker.sendProgressingList.contains id = true

/-- The number of requests. -/
def size (worker : SoloMatchmakingWorker) : Nat :=
  worker.waitingQueue.size + worker.sendProgressingList.size

/-- A batch takes all tickets held over and the oldest ones of the queue, one for
each player of a match. -/
structure IsBatch (worker : SoloMatchmakingWorker) (rule : MatchmakingRule)
    (tickets : List MatchTicket) : Prop where
  count : (tickets.length : Int) = rule.matchPlayerCount
  nodup : tickets.Nodup
  oldest : (tickets.map some).Perm ((worker.sendProgressingList.values ++
    worker.waitingQueue.values.take
      (rule.matchPlayerCount.toNat - worker.sendProgressingList.size)).map
        MatchmakingRequest.matchTicketPtr)

section Sound

variable {admits : MatchTicket → Prop} {statuses : TicketStatuses} {rule : MatchmakingRule}
  {worker : SoloMatchmakingWorker}

theorem Carries.matchTicketId {id : MatchTicketId} {request : MatchmakingRequest}
    (carries : Carries admits statuses id request) : request.matchTicketId = id := by
  obtain ⟨ticket, pointer, -, rfl, -⟩ := carries
  rw [MatchmakingRequest.matchTicketId, pointer]

/-- The two maps after they were filled. -/
theorem Sound.filled_entries (sound : worker.Sound admits statuses rule) :
    (worker.filled rule).waitingQueue.entries = worker.waitingQueue.entries.drop
        (rule.matchPlayerCount.toNat - worker.sendProgressingList.size) ∧
      (worker.filled rule).sendProgressingList.entries.Perm
        (worker.sendProgressingList.entries ++ worker.waitingQueue.entries.take
          (rule.matchPlayerCount.toNat - worker.sendProgressingList.size)) := by
  have players : 0 < rule.matchPlayerCount := by have := sound.short; omega
  refine fillProgressingList_entries players rule.inRange.2 rfl (fun entry inside => ?_)
    fun entry inside => ?_
  · exact (sound.waiting _ _ (OrderedMap.find?_eq_some_iff.mpr inside)).matchTicketId
  · exact sound.apart _ (OrderedMap.contains_iff.mpr
      ⟨_, OrderedMap.find?_eq_some_iff.mpr inside⟩)

theorem Sound.size_filled (sound : worker.Sound admits statuses rule) :
    (worker.filled rule).sendProgressingList.size =
      min rule.matchPlayerCount.toNat (worker.waitingQueue.size +
        worker.sendProgressingList.size) := by
  have short := sound.short
  rw [OrderedMap.size, sound.filled_entries.2.length_eq, List.length_append, List.length_take,
    OrderedMap.size, OrderedMap.size]
  rw [OrderedMap.size] at short
  omega

/-- The entries of both maps stay the same while one of them is filled from the other. -/
theorem Sound.mem_filled (sound : worker.Sound admits statuses rule)
    {entry : MatchTicketId × MatchmakingRequest} :
    (entry ∈ (worker.filled rule).waitingQueue.entries →
      entry ∈ worker.waitingQueue.entries) ∧
    (entry ∈ (worker.filled rule).sendProgressingList.entries →
      entry ∈ worker.sendProgressingList.entries ∨ entry ∈ worker.waitingQueue.entries) := by
  obtain ⟨waits, progresses⟩ := sound.filled_entries
  constructor
  · rw [waits]
    exact List.mem_of_mem_drop
  · rw [progresses.mem_iff, List.mem_append]
    exact Or.imp_right List.mem_of_mem_take

theorem has_iff {id : MatchTicketId} :
    worker.Has id ↔ ∃ request, (id, request) ∈ worker.waitingQueue.entries ∨
      (id, request) ∈ worker.sendProgressingList.entries := by
  simp only [Has, OrderedMap.contains_iff, OrderedMap.find?_eq_some_iff, exists_or]

theorem Sound.carries_of_mem (sound : worker.Sound admits statuses rule)
    {entry : MatchTicketId × MatchmakingRequest}
    (inside : entry ∈ worker.waitingQueue.entries ∨ entry ∈ worker.sendProgressingList.entries) :
    Carries admits statuses entry.1 entry.2 := by
  rcases inside with waits | progresses
  · exact sound.waiting _ _ (OrderedMap.find?_eq_some_iff.mpr waits)
  · exact sound.progressing _ _ (OrderedMap.find?_eq_some_iff.mpr progresses)

theorem Sound.filled_of_mem (sound : worker.Sound admits statuses rule)
    {entry : MatchTicketId × MatchmakingRequest}
    (inside : entry ∈ (worker.filled rule).waitingQueue.entries ∨
      entry ∈ (worker.filled rule).sendProgressingList.entries) :
    entry ∈ worker.waitingQueue.entries ∨ entry ∈ worker.sendProgressingList.entries := by
  rcases inside with waits | progresses
  · exact Or.inl (sound.mem_filled.1 waits)
  · exact (sound.mem_filled.2 progresses).symm

/-- No request is left in the queue and in the list in progress at once. -/
theorem Sound.filled_apart (sound : worker.Sound admits statuses rule) {id : MatchTicketId}
    (waits : (worker.filled rule).waitingQueue.contains id = true) :
    (worker.filled rule).sendProgressingList.find? id = none := by
  obtain ⟨left, taken⟩ := sound.filled_entries
  obtain ⟨request, found⟩ := OrderedMap.contains_iff.mp waits
  have inside := OrderedMap.find?_eq_some_iff.mp found
  cases twice : (worker.filled rule).sendProgressingList.find? id with
  | none => rfl
  | some other =>
      have present := OrderedMap.find?_eq_some_iff.mp twice
      rw [taken.mem_iff, List.mem_append] at present
      rw [left] at inside
      rcases present with held | moved
      · have absent := sound.apart id (OrderedMap.contains_iff.mpr
          ⟨request, OrderedMap.find?_eq_some_iff.mpr (List.mem_of_mem_drop inside)⟩)
        rw [OrderedMap.find?_eq_some_iff.mpr held] at absent
        cases absent
      · have ascending := worker.waitingQueue.ascending
        rw [← List.take_append_drop (rule.matchPlayerCount.toNat -
          worker.sendProgressingList.size) worker.waitingQueue.entries] at ascending
        exact ((List.pairwise_append.mp ascending).2.2 _ moved _ inside).false.elim

/-- The tickets of a complete list in progress make a batch. -/
theorem Sound.isBatch (sound : worker.Sound admits statuses rule)
    (complete : rule.matchPlayerCount.toNat ≤ (worker.filled rule).sendProgressingList.size) :
    TicketsOf (worker.filled rule).sendProgressingList.values
        ((worker.filled rule).sendProgressingList.values.filterMap
          MatchmakingRequest.matchTicketPtr) ∧
      worker.IsBatch rule ((worker.filled rule).sendProgressingList.values.filterMap
        MatchmakingRequest.matchTicketPtr) := by
  have carries : ∀ entry ∈ (worker.filled rule).sendProgressingList.entries,
      Carries admits statuses entry.1 entry.2 :=
    fun entry inside => sound.carries_of_mem (sound.filled_of_mem (Or.inr inside))
  have ticketsOf : TicketsOf (worker.filled rule).sendProgressingList.values
      ((worker.filled rule).sendProgressingList.values.filterMap
        MatchmakingRequest.matchTicketPtr) := by
    refine ticketsOf_filterMap fun request listed => ?_
    obtain ⟨entry, inside, rfl⟩ := List.mem_map.mp listed
    obtain ⟨ticket, pointer, -⟩ := carries entry inside
    exact ⟨ticket, pointer⟩
  refine ⟨ticketsOf, ?_, ?_, ?_⟩
  · have length := congrArg List.length ticketsOf
    rw [List.length_map, List.length_map, OrderedMap.values, List.length_map] at length
    have size := sound.size_filled
    have short := sound.short
    rw [OrderedMap.values, ← length]
    rw [OrderedMap.size] at size complete
    omega
  · have ids : (worker.filled rule).sendProgressingList.keys =
        ((worker.filled rule).sendProgressingList.values.filterMap
          MatchmakingRequest.matchTicketPtr).map MatchTicket.matchTicketId := by
      rw [OrderedMap.keys, OrderedMap.values, List.filterMap_map, List.map_filterMap]
      rw [← List.filterMap_eq_map']
      refine List.filterMap_congr fun entry inside => ?_
      obtain ⟨ticket, pointer, -, same, -⟩ := carries entry inside
      simp [pointer, same]
    exact List.Nodup.of_map _ (ids ▸ OrderedMap.keys_nodup _)
  · rw [← ticketsOf, OrderedMap.values, OrderedMap.values, OrderedMap.values, ← List.map_take,
      ← List.map_append]
    exact (sound.filled_entries.2.map _).map _

theorem Sound.complete_iff (sound : worker.Sound admits statuses rule) :
    sizeAtLeast (worker.filled rule).sendProgressingList.size rule.matchPlayerCount = true ↔
      rule.matchPlayerCount.toNat ≤ (worker.filled rule).sendProgressingList.size := by
  have short := sound.short
  have inRange := rule.inRange.2
  rw [sizeAtLeast, Int.emod_eq_of_lt (by omega) (by omega), decide_eq_true_eq]
  omega

theorem Sound.has_of_filled (sound : worker.Sound admits statuses rule) {id : MatchTicketId}
    (has : (worker.filled rule).Has id) : worker.Has id := by
  obtain ⟨request, inside⟩ := has_iff.mp has
  exact has_iff.mpr ⟨request, sound.filled_of_mem inside⟩

theorem Sound.filled_waiting (sound : worker.Sound admits statuses rule) {id : MatchTicketId}
    {request : MatchmakingRequest}
    (found : (worker.filled rule).waitingQueue.find? id = some request) :
    Carries admits statuses id request :=
  sound.carries_of_mem (sound.filled_of_mem (Or.inl (OrderedMap.find?_eq_some_iff.mp found)))

theorem Sound.filled_progressing (sound : worker.Sound admits statuses rule) {id : MatchTicketId}
    {request : MatchmakingRequest}
    (found : (worker.filled rule).sendProgressingList.find? id = some request) :
    Carries admits statuses id request :=
  sound.carries_of_mem (sound.filled_of_mem (Or.inr (OrderedMap.find?_eq_some_iff.mp found)))

/-- The tickets of the list in progress are queued and stored under their ids. -/
theorem Sound.batch_queued (sound : worker.Sound admits statuses rule) {ticket : MatchTicket}
    (listed : ticket ∈ (worker.filled rule).sendProgressingList.values.filterMap
      MatchmakingRequest.matchTicketPtr) :
    admits ticket ∧ statuses ticket = .queued ∧
      (worker.filled rule).sendProgressingList.contains ticket.matchTicketId = true := by
  obtain ⟨request, member, pointer⟩ := List.mem_filterMap.mp listed
  obtain ⟨entry, inside, rfl⟩ := List.mem_map.mp member
  have found := OrderedMap.find?_eq_some_iff.mpr inside
  obtain ⟨other, otherPointer, admitted, same, queued⟩ := sound.filled_progressing found
  rw [pointer] at otherPointer
  obtain rfl := Option.some.inj otherPointer
  exact ⟨admitted, queued, OrderedMap.contains_iff.mpr ⟨_, same ▸ found⟩⟩

/-- Without enough requests for a match the queue is emptied. -/
theorem Sound.run_incomplete (sound : worker.Sound admits statuses rule)
    (few : ¬ rule.matchPlayerCount.toNat ≤ (worker.filled rule).sendProgressingList.size) :
    worker.doWorkerAsyncJob rule statuses = (.incomplete, worker.filled rule, statuses) ∧
      ((worker.filled rule).size : Int) < rule.matchPlayerCount ∧
      (worker.filled rule).Sound admits statuses rule := by
  have size := sound.size_filled
  have emptied : (worker.filled rule).waitingQueue.size = 0 := by
    have count : worker.waitingQueue.size = worker.waitingQueue.entries.length := rfl
    rw [OrderedMap.size, sound.filled_entries.1, List.length_drop]
    omega
  refine ⟨by rw [doWorkerAsyncJob, if_neg (mt sound.complete_iff.mp few)], ?_,
    fun _ _ => sound.filled_waiting, fun _ _ => sound.filled_progressing,
    fun _ => sound.filled_apart, ?_⟩
  · rw [SoloMatchmakingWorker.size]
    omega
  · omega

/-- With enough requests for a match the tickets of the list in progress are claimed. -/
theorem Sound.run_complete (sound : worker.Sound admits statuses rule)
    (complete : rule.matchPlayerCount.toNat ≤ (worker.filled rule).sendProgressingList.size) :
    ∃ tickets, worker.IsBatch rule tickets ∧
      (∀ ticket ∈ tickets, admits ticket ∧ statuses ticket = .queued ∧
        (worker.filled rule).sendProgressingList.contains ticket.matchTicketId = true) ∧
      worker.doWorkerAsyncJob rule statuses = (.matched tickets,
        ⟨(worker.filled rule).waitingQueue, OrderedMap.empty⟩,
        moveAll tickets .searching statuses) := by
  obtain ⟨ticketsOf, batch⟩ := sound.isBatch complete
  have search := searchTickets_of_queued ticketsOf batch.nodup
    fun ticket listed => (sound.batch_queued listed).2.1
  refine ⟨_, batch, fun ticket listed => sound.batch_queued listed, ?_⟩
  rw [doWorkerAsyncJob, if_pos (sound.complete_iff.mpr complete), search]
  rfl

/-- **A run of a sound worker** empties its queue with too few requests for a match,
or claims a batch. -/
theorem Sound.run (sound : worker.Sound admits statuses rule) :
    (∃ after, worker.doWorkerAsyncJob rule statuses = (.incomplete, after, statuses) ∧
      (after.size : Int) < rule.matchPlayerCount ∧ after.Sound admits statuses rule ∧
      ∀ id, after.Has id → worker.Has id) ∨
    ∃ tickets after, worker.doWorkerAsyncJob rule statuses =
        (.matched tickets, after, moveAll tickets .searching statuses) ∧
      worker.IsBatch rule tickets ∧
      (∀ ticket ∈ tickets, admits ticket ∧ statuses ticket = .queued ∧
        worker.Has ticket.matchTicketId) ∧
      after.Sound admits (moveAll tickets .searching statuses) rule ∧
      ∀ id, after.Has id → worker.Has id := by
  by_cases complete : rule.matchPlayerCount.toNat ≤ (worker.filled rule).sendProgressingList.size
  · obtain ⟨tickets, batch, claimed, run⟩ := sound.run_complete complete
    have players : (0 : Int) < rule.matchPlayerCount := by have := sound.short; omega
    refine Or.inr ⟨tickets, _, run, batch, fun ticket listed => ⟨(claimed ticket listed).1,
      (claimed ticket listed).2.1, sound.has_of_filled (Or.inr (claimed ticket listed).2.2)⟩,
      ⟨fun id request found => ?_, fun _ _ => nofun, fun _ _ => rfl, players⟩, fun id has => ?_⟩
    · obtain ⟨ticket, pointer, admitted, same, queued⟩ := sound.filled_waiting found
      refine ⟨ticket, pointer, admitted, same, (moveAll_of_not_mem fun listed => ?_).trans queued⟩
      have absent := sound.filled_apart (OrderedMap.contains_iff.mpr ⟨_, found⟩)
      have present := (claimed ticket listed).2.2
      rw [OrderedMap.contains, ← same, absent] at present
      exact Bool.false_ne_true present
    · refine sound.has_of_filled (has.imp_right fun held => ?_)
      simp [OrderedMap.contains] at held
  · obtain ⟨run, few, kept⟩ := sound.run_incomplete complete
    exact Or.inl ⟨_, run, few, kept, fun _ => sound.has_of_filled⟩

/-! ## Enqueueing and cancelling -/

theorem Sound.congr (sound : worker.Sound admits statuses rule) {later : TicketStatuses}
    (same : ∀ ticket, admits ticket → statuses ticket = .queued → later ticket = .queued) :
    worker.Sound admits later rule := by
  have kept : ∀ id request, Carries admits statuses id request →
      Carries admits later id request :=
    fun id request ⟨ticket, pointer, admitted, named, queued⟩ =>
      ⟨ticket, pointer, admitted, named, same ticket admitted queued⟩
  exact ⟨fun id request found => kept _ _ (sound.waiting id request found),
    fun id request found => kept _ _ (sound.progressing id request found), sound.apart,
    sound.short⟩

theorem has_erase_iff {ticket : MatchTicket} {id : MatchTicketId} :
    (worker.erase ticket).Has id ↔ worker.Has id ∧ id ≠ ticket.matchTicketId := by
  simp only [Has, erase, OrderedMap.contains, OrderedMap.find?_erase]
  split_ifs with same
  · simp [same]
  · simp [same]

/-- Erasing a ticket leaves the others, which may keep their statuses only. -/
theorem Sound.erase (sound : worker.Sound admits statuses rule) {ticket : MatchTicket}
    {later : TicketStatuses} (same : ∀ other, other.matchTicketId ≠ ticket.matchTicketId →
      statuses other = .queued → later other = .queued) :
    (worker.erase ticket).Sound admits later rule := by
  have kept : ∀ (queue : WaitingQueue) id request,
      (∀ id request, queue.find? id = some request → Carries admits statuses id request) →
      (queue.erase ticket.matchTicketId).find? id = some request →
      Carries admits later id request := by
    intro queue id request every found
    rw [OrderedMap.find?_erase] at found
    split_ifs at found with own
    obtain ⟨other, pointer, admitted, named, queued⟩ := every id request found
    exact ⟨other, pointer, admitted, named, same other (named ▸ own) queued⟩
  refine ⟨fun id request => kept _ id request sound.waiting,
    fun id request => kept _ id request sound.progressing, fun id waits => ?_, ?_⟩
  · rw [SoloMatchmakingWorker.erase, OrderedMap.contains, OrderedMap.find?_erase] at waits
    rw [SoloMatchmakingWorker.erase, OrderedMap.find?_erase]
    split_ifs at waits ⊢
    · rfl
    · exact sound.apart id waits
  · have fewer := worker.sendProgressingList.size_erase_le ticket.matchTicketId
    exact (Int.ofNat_le.mpr fewer).trans_lt sound.short

/-- A queued ticket whose id is new joins the queue. -/
theorem Sound.insertOrAssign (sound : worker.Sound admits statuses rule) {ticket : MatchTicket}
    {request : MatchmakingRequest} (pointer : request.matchTicketPtr = some ticket)
    (admitted : admits ticket) (queued : statuses ticket = .queued)
    (fresh : ¬ worker.Has ticket.matchTicketId) :
    Sound admits statuses rule { worker with
      waitingQueue := worker.waitingQueue.insertOrAssign ticket.matchTicketId request } := by
  obtain ⟨-, idle⟩ := not_or.mp fresh
  refine ⟨fun id other found => ?_, sound.progressing, fun id waits => ?_, sound.short⟩
  · rw [OrderedMap.find?_insertOrAssign] at found
    split_ifs at found with own
    · obtain rfl := Option.some.inj found
      exact ⟨ticket, pointer, admitted, own, queued⟩
    · exact sound.waiting id other found
  · rw [OrderedMap.contains, OrderedMap.find?_insertOrAssign] at waits
    split_ifs at waits with own
    · rw [own]
      exact OrderedMap.contains_eq_false_iff.mp (Bool.not_eq_true _ ▸ idle)
    · exact sound.apart id waits

end Sound

end SoloMatchmakingWorker

end MatchmakingMvp
