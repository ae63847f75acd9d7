import MatchmakingMvp.Worker.Claiming
import Mathlib.Data.Set.List

/-! # What a worker holds

A party worker keeps a request three times: in its queue, in the bucket of its
size and in the count of that size. Enqueueing and erasing keep the three in
agreement (`MatchmakingMvp.PartyMatchmakingWorker.Agrees`). Where they agree on a set
of tickets (`MatchmakingMvp.PartyMatchmakingWorker.Holds`), they add to the set and
remove from it. A solo worker keeps a request in its queue or in its
list in progress (`MatchmakingMvp.SoloMatchmakingWorker.Holds`).
-/

namespace MatchmakingMvp

open Foundation

/-! ## Queues of tickets -/

namespace WaitingQueue

variable {stored kept : MatchTicket → Prop} {queue : WaitingQueue} {ticket : MatchTicket}

/-- The queue keeps the requests of a set of tickets under their ids. -/
def Stores (stored : MatchTicket → Prop) (queue : WaitingQueue) : Prop :=
  ∀ id request, queue.find? id = some request ↔
    ∃ ticket, stored ticket ∧ id = ticket.matchTicketId ∧ request = ticket.matchmakingRequest

theorem Stores.congr (stores : WaitingQueue.Stores stored queue)
    (same : ∀ ticket, kept ticket ↔ stored ticket) : WaitingQueue.Stores kept queue := by
  rw [show kept = stored from funext fun ticket => propext (same ticket)]
  exact stores

theorem Stores.empty (nothing : ∀ ticket, ¬ stored ticket) :
    WaitingQueue.Stores stored OrderedMap.empty :=
  fun _ _ => ⟨nofun, fun ⟨ticket, holds, _⟩ => (nothing ticket holds).elim⟩

theorem Stores.find?_of_stored (stores : WaitingQueue.Stores stored queue)
    (holds : stored ticket) :
    queue.find? ticket.matchTicketId = some ticket.matchmakingRequest :=
  (stores _ _).mpr ⟨ticket, holds, rfl, rfl⟩

theorem Stores.find?_of_fresh (stores : WaitingQueue.Stores stored queue)
    (fresh : ∀ other, stored other → other.matchTicketId ≠ ticket.matchTicketId) :
    queue.find? ticket.matchTicketId = none := by
  cases found : queue.find? ticket.matchTicketId with
  | none => rfl
  | some request =>
      obtain ⟨other, holds, same, -⟩ := (stores _ _).mp found
      exact (fresh other holds same.symm).elim

theorem Stores.insertOrAssign (stores : WaitingQueue.Stores stored queue)
    (fresh : ∀ other, stored other → other.matchTicketId ≠ ticket.matchTicketId) :
    WaitingQueue.Stores (fun other => stored other ∨ other = ticket)
      (queue.insertOrAssign ticket.matchTicketId ticket.matchmakingRequest) := by
  intro id request
  rw [OrderedMap.find?_insertOrAssign]
  split_ifs with own
  · constructor
    · intro found
      exact ⟨ticket, Or.inr rfl, own, (Option.some.inj found).symm⟩
    · rintro ⟨other, holds | rfl, same, rfl⟩
      · exact (fresh other holds (same.symm.trans own)).elim
      · rfl
  · rw [stores]
    constructor
    · rintro ⟨other, holds, rest⟩
      exact ⟨other, Or.inl holds, rest⟩
    · rintro ⟨other, holds | rfl, same, rest⟩
      · exact ⟨other, holds, same, rest⟩
      · exact (own same).elim

theorem Stores.erase (stores : WaitingQueue.Stores stored queue)
    (unique : ∀ other, stored other → other.matchTicketId = ticket.matchTicketId →
      other = ticket) :
    WaitingQueue.Stores (fun other => stored other ∧ other ≠ ticket)
      (queue.erase ticket.matchTicketId) := by
  intro id request
  rw [OrderedMap.find?_erase]
  split_ifs with own
  · constructor
    · nofun
    · rintro ⟨other, ⟨holds, different⟩, same, -⟩
      exact (different (unique other holds (same.symm.trans own))).elim
  · rw [stores]
    constructor
    · rintro ⟨other, holds, same, rest⟩
      refine ⟨other, ⟨holds, ?_⟩, same, rest⟩
      rintro rfl
      exact own same
    · rintro ⟨other, ⟨holds, -⟩, rest⟩
      exact ⟨other, holds, rest⟩

end WaitingQueue

/-! ## Party workers -/

namespace PartyMatchmakingWorker

section Lookups

variable {worker earlier : PartyMatchmakingWorker} {ticket : MatchTicket}
  {request : MatchmakingRequest} {playerCount : Int}

theorem bucket_of_insertOrAssign {queue : WaitingQueue}
    (stored : worker.waitingQueueByPlayerCount =
      earlier.waitingQueueByPlayerCount.insertOrAssign playerCount queue) (other : Int) :
    worker.bucket other = if other = playerCount then queue else earlier.bucket other := by
  rw [bucket, stored, OrderedMap.find?_insertOrAssign]
  split_ifs <;> rfl

theorem queuedCount_of_insertOrAssign {count : Int}
    (stored : worker.queuedCountByPlayerCount =
      earlier.queuedCountByPlayerCount.insertOrAssign playerCount count) (other : Int) :
    worker.queuedCount other =
      if other = playerCount then count else earlier.queuedCount other := by
  rw [queuedCount, stored, OrderedMap.find?_insertOrAssign]
  split_ifs <;> rfl

theorem bucket_erase (worker : PartyMatchmakingWorker) (ticket : MatchTicket) (playerCount : Int) :
    (worker.erase ticket).bucket playerCount =
      if playerCount = ticket.players.length then
        (worker.bucket playerCount).erase ticket.matchTicketId
      else worker.bucket playerCount := by
  cases found : worker.waitingQueueByPlayerCount.find? (ticket.players.length : Int) with
  | none =>
      have same : (worker.erase ticket).bucket playerCount = worker.bucket playerCount := by
        simp only [erase, bucket, found]
      rw [same]
      split_ifs with own
      · rw [own, bucket, found]
        rfl
      · rfl
  | some queue =>
      have stored : (worker.erase ticket).waitingQueueByPlayerCount =
          worker.waitingQueueByPlayerCount.insertOrAssign ticket.players.length
            (queue.erase ticket.matchTicketId) := by
        simp only [erase, found]
      rw [bucket_of_insertOrAssign stored]
      split_ifs with own
      · rw [own, bucket, found]
        rfl
      · rfl

theorem dropQueuedCount_find? (counts : OrderedMap Int Int) (playerCount other : Int) :
    ((dropQueuedCount counts playerCount).find? other).getD 0 =
      if other = playerCount ∧ (counts.find? playerCount).isSome then
        max 0 ((counts.find? other).getD 0 - 1)
      else (counts.find? other).getD 0 := by
  rw [dropQueuedCount]
  cases found : counts.find? playerCount with
  | none => simp
  | some count =>
      simp only [Option.isSome_some, and_true]
      by_cases own : other = playerCount
      · subst own
        rw [if_pos rfl, found]
        split_ifs with last
        · rw [OrderedMap.find?_erase, if_pos rfl]
          simpa using last
        · rw [OrderedMap.find?_insertOrAssign, if_pos rfl, Option.getD_some, Option.getD_some]
          exact (max_eq_right (by omega)).symm
      · rw [if_neg own]
        split_ifs
        · rw [OrderedMap.find?_erase, if_neg own]
        · rw [OrderedMap.find?_insertOrAssign, if_neg own]

/-- A worker refuses an id it holds in its queue or in the bucket, and what it
refuses leaves its lookups as they are. -/
theorem enqueueJobRequest_of_taken
    (taken : worker.waitingQueue.contains request.matchTicketId = true ∨
      (worker.bucket request.playerCount).contains request.matchTicketId = true) :
    (worker.enqueueJobRequest request).1 = false ∧
      (worker.enqueueJobRequest request).2.waitingQueue = worker.waitingQueue ∧
      ∀ playerCount, (worker.enqueueJobRequest request).2.bucket playerCount =
        worker.bucket playerCount := by
  by_cases waiting : worker.waitingQueue.contains request.matchTicketId = true
  · rw [enqueueJobRequest, if_pos waiting]
    exact ⟨rfl, rfl, fun _ => rfl⟩
  · have bucketed := taken.resolve_left waiting
    rw [enqueueJobRequest, if_neg waiting]
    simp only [bucketed, if_true, true_and]
    intro playerCount
    rw [bucket_of_insertOrAssign rfl]
    split_ifs with own
    · rw [own]
    · rfl

theorem enqueueJobRequest_of_free
    (free : worker.waitingQueue.contains request.matchTicketId = false)
    (unbucketed : (worker.bucket request.playerCount).contains request.matchTicketId = false) :
    (worker.enqueueJobRequest request).1 = true ∧
      (worker.enqueueJobRequest request).2.waitingQueue =
        worker.waitingQueue.insertOrAssign request.matchTicketId request ∧
      (∀ playerCount, (worker.enqueueJobRequest request).2.bucket playerCount =
        if playerCount = request.playerCount then
          (worker.bucket playerCount).insertOrAssign request.matchTicketId request
        else worker.bucket playerCount) ∧
      ∀ playerCount, (worker.enqueueJobRequest request).2.queuedCount playerCount =
        if playerCount = request.playerCount then worker.queuedCount playerCount + 1
        else worker.queuedCount playerCount := by
  simp only [enqueueJobRequest, free, unbucketed, Bool.false_eq_true, if_false, true_and]
  refine ⟨fun playerCount => ?_, fun playerCount => ?_⟩
  · rw [bucket_of_insertOrAssign rfl]
    split_ifs with own
    · rw [own]
    · rfl
  · rw [queuedCount_of_insertOrAssign rfl]
    split_ifs with own
    · rw [own]
    · rfl

theorem queuedCount_erase_of_held
    (waiting : worker.waitingQueue.contains ticket.matchTicketId = true)
    (bucketed : (worker.bucket ticket.players.length).contains ticket.matchTicketId = true)
    (counted : 0 < worker.queuedCount ticket.players.length) (playerCount : Int) :
    (worker.erase ticket).queuedCount playerCount =
      if playerCount = ticket.players.length then worker.queuedCount playerCount - 1
      else worker.queuedCount playerCount := by
  have present : (worker.queuedCountByPlayerCount.find? ticket.players.length).isSome := by
    cases found : worker.queuedCountByPlayerCount.find? (ticket.players.length : Int) with
    | none =>
        rw [queuedCount, found] at counted
        exact absurd counted (lt_irrefl _)
    | some count => rfl
  rw [queuedCount, erase]
  simp only [waiting, bucketed, and_self, if_true]
  rw [dropQueuedCount_find?, present]
  simp only [and_true]
  split_ifs with own
  · rw [own]
    exact max_eq_right (Int.sub_nonneg.mpr counted)
  · rfl

theorem queuedCount_erase_of_absent
    (absent : worker.waitingQueue.contains ticket.matchTicketId = false) (playerCount : Int) :
    (worker.erase ticket).queuedCount playerCount = worker.queuedCount playerCount := by
  simp only [queuedCount, erase, absent, Bool.false_eq_true, false_and, if_false]

end Lookups

/-! ### Maps that agree -/

section Agrees

variable {worker : PartyMatchmakingWorker} {ticket : MatchTicket}

/-- The buckets and the counts are those of the waiting queue. -/
structure Agrees (worker : PartyMatchmakingWorker) : Prop where
  identified : ∀ id request, worker.waitingQueue.find? id = some request →
    request.matchTicketId = id
  buckets : ∀ size id request, (worker.bucket size).find? id = some request ↔
    worker.waitingQueue.find? id = some request ∧ request.playerCount = size
  counts : ∀ size, worker.queuedCount size = (worker.bucket size).size

theorem Agrees.default : Agrees {} :=
  ⟨nofun, fun _ _ _ => ⟨nofun, fun found => nomatch found.1⟩, fun _ => rfl⟩

/-- No bucket has an id that the queue has not. -/
theorem Agrees.bucket_of_absent (agrees : worker.Agrees) {id : MatchTicketId}
    (absent : worker.waitingQueue.find? id = none) (size : Int) :
    (worker.bucket size).find? id = none := by
  cases found : (worker.bucket size).find? id with
  | none => rfl
  | some request =>
      have waiting := ((agrees.buckets size id request).mp found).1
      rw [absent] at waiting
      cases waiting

theorem Agrees.enqueueJobRequest (agrees : worker.Agrees) (request : MatchmakingRequest) :
    (worker.enqueueJobRequest request).2.Agrees := by
  cases found : worker.waitingQueue.find? request.matchTicketId with
  | some waiting =>
      rw [PartyMatchmakingWorker.enqueueJobRequest,
        if_pos (OrderedMap.contains_iff.mpr ⟨waiting, found⟩)]
      exact agrees
  | none =>
      have unbucketed := agrees.bucket_of_absent found request.playerCount
      obtain ⟨-, waiting, buckets, counts⟩ := enqueueJobRequest_of_free
        (OrderedMap.contains_eq_false_iff.mpr found)
        (OrderedMap.contains_eq_false_iff.mpr unbucketed)
      refine ⟨fun id other stored => ?_, fun size id other => ?_, fun size => ?_⟩
      · rw [waiting, OrderedMap.find?_insertOrAssign] at stored
        split_ifs at stored with own
        · cases stored
          exact own.symm
        · exact agrees.identified id other stored
      · rw [waiting, buckets, OrderedMap.find?_insertOrAssign]
        by_cases sized : size = request.playerCount
        · rw [if_pos sized, OrderedMap.find?_insertOrAssign]
          split_ifs with own
          · rw [Option.some.injEq, iff_self_and]
            rintro rfl
            exact sized.symm
          · exact agrees.buckets size id other
        · rw [if_neg sized, agrees.buckets]
          split_ifs with own
          · subst own
            rw [found]
            constructor
            · rintro ⟨⟨⟩, -⟩
            · rintro ⟨same, count⟩
              cases same
              exact (sized count.symm).elim
          · rfl
      · rw [counts, buckets, agrees.counts]
        split_ifs with sized
        · rw [OrderedMap.size_insertOrAssign_of_absent (sized ▸ unbucketed), Int.natCast_add,
            Int.natCast_one]
        · rfl

/-- Erasing a ticket keeps the books in agreement if the request under its id, if there is one,
has its size. -/
theorem Agrees.erase (agrees : worker.Agrees)
    (sized : ∀ request, worker.waitingQueue.find? ticket.matchTicketId = some request →
      request.playerCount = ticket.players.length) :
    (worker.erase ticket).Agrees := by
  have waiting : (worker.erase ticket).waitingQueue =
      worker.waitingQueue.erase ticket.matchTicketId := rfl
  refine ⟨fun id request stored => ?_, fun size id request => ?_, fun size => ?_⟩
  · rw [waiting, OrderedMap.find?_erase] at stored
    split_ifs at stored
    exact agrees.identified id request stored
  · rw [waiting, bucket_erase, OrderedMap.find?_erase]
    by_cases own : id = ticket.matchTicketId
    · simp only [own, if_true, reduceCtorEq, false_and, iff_false]
      split_ifs with same
      · rw [OrderedMap.find?_erase, if_pos rfl]
        nofun
      · intro stored
        obtain ⟨found, count⟩ := (agrees.buckets _ _ _).mp stored
        exact same (count.symm.trans (sized request found))
    · rw [if_neg own]
      split_ifs with same
      · rw [OrderedMap.find?_erase, if_neg own, agrees.buckets]
      · exact agrees.buckets size id request
  · cases found : worker.waitingQueue.find? ticket.matchTicketId with
    | none =>
        rw [queuedCount_erase_of_absent (OrderedMap.contains_eq_false_iff.mpr found),
          bucket_erase, agrees.counts]
        split_ifs
        · rw [OrderedMap.erase_of_absent (agrees.bucket_of_absent found _)]
        · rfl
    | some request =>
        have bucketed := (agrees.buckets _ _ _).mpr ⟨found, sized request found⟩
        have size := OrderedMap.size_erase_of_present bucketed
        have counted := agrees.counts ticket.players.length
        rw [queuedCount_erase_of_held (OrderedMap.contains_iff.mpr ⟨_, found⟩)
          (OrderedMap.contains_iff.mpr ⟨_, bucketed⟩) (by omega), bucket_erase]
        split_ifs with own
        · subst own
          omega
        · exact agrees.counts _

end Agrees

/-! ### Sets of tickets -/

variable {held kept : MatchTicket → Prop} {worker : PartyMatchmakingWorker}
  {ticket : MatchTicket}

/-- The queue, the buckets and the counts are those of a set of tickets. -/
structure Holds (held : MatchTicket → Prop) (worker : PartyMatchmakingWorker) : Prop where
  waiting : WaitingQueue.Stores held worker.waitingQueue
  buckets : ∀ playerCount : Int, WaitingQueue.Stores
    (fun ticket => held ticket ∧ playerCount = ticket.players.length) (worker.bucket playerCount)
  counts : ∀ playerCount, worker.queuedCount playerCount = (worker.bucket playerCount).size

/-- The maps of a worker that holds a set of tickets agree. -/
theorem Holds.agrees (holds : worker.Holds held) : worker.Agrees where
  identified id request found := by
    obtain ⟨ticket, -, rfl, rfl⟩ := (holds.waiting id request).mp found
    rfl
  buckets size id request := by
    rw [holds.buckets size, holds.waiting]
    constructor
    · rintro ⟨ticket, ⟨inside, sized⟩, rfl, rfl⟩
      exact ⟨⟨ticket, inside, rfl, rfl⟩, sized.symm⟩
    · rintro ⟨⟨ticket, inside, rfl, rfl⟩, sized⟩
      exact ⟨ticket, ⟨inside, sized.symm⟩, rfl, rfl⟩
  counts := holds.counts

/-- Maps that agree hold the tickets of the queue. -/
theorem Agrees.holds (agrees : worker.Agrees)
    (waiting : WaitingQueue.Stores held worker.waitingQueue) : worker.Holds held where
  waiting := waiting
  buckets size id request := by
    rw [agrees.buckets, waiting]
    constructor
    · rintro ⟨⟨ticket, inside, rfl, rfl⟩, sized⟩
      exact ⟨ticket, ⟨inside, sized.symm⟩, rfl, rfl⟩
    · rintro ⟨ticket, ⟨inside, sized⟩, rfl, rfl⟩
      exact ⟨⟨ticket, inside, rfl, rfl⟩, sized.symm⟩
  counts := agrees.counts

theorem Holds.default (nothing : ∀ ticket, ¬ held ticket) : Holds held {} :=
  Agrees.default.holds (.empty nothing)

theorem Holds.congr (holds : worker.Holds held) (same : ∀ ticket, kept ticket ↔ held ticket) :
    worker.Holds kept := by
  rw [show kept = held from funext fun ticket => propext (same ticket)]
  exact holds

/-- A ticket whose id nobody holds is accepted. -/
theorem Holds.enqueueJobRequest (holds : worker.Holds held)
    (fresh : ∀ other, held other → other.matchTicketId ≠ ticket.matchTicketId) :
    (worker.enqueueJobRequest ticket.matchmakingRequest).1 = true ∧
      (worker.enqueueJobRequest ticket.matchmakingRequest).2.Holds
        fun other => held other ∨ other = ticket := by
  have unqueued : worker.waitingQueue.find? ticket.matchmakingRequest.matchTicketId = none :=
    holds.waiting.find?_of_fresh fresh
  have unbucketed := holds.agrees.bucket_of_absent unqueued ticket.matchmakingRequest.playerCount
  obtain ⟨accepted, waiting, -⟩ :=
    PartyMatchmakingWorker.enqueueJobRequest_of_free (OrderedMap.contains_eq_false_iff.mpr unqueued)
      (OrderedMap.contains_eq_false_iff.mpr unbucketed)
  refine ⟨accepted, (holds.agrees.enqueueJobRequest _).holds ?_⟩
  rw [waiting]
  exact holds.waiting.insertOrAssign fresh

/-- Erasing a ticket takes it out of the set. -/
theorem Holds.erase (holds : worker.Holds held)
    (unique : ∀ other, held other → other.matchTicketId = ticket.matchTicketId →
      other = ticket) :
    (worker.erase ticket).Holds fun other => held other ∧ other ≠ ticket := by
  refine (holds.agrees.erase fun request found => ?_).holds (holds.waiting.erase unique)
  obtain ⟨other, inside, same, rfl⟩ := (holds.waiting _ _).mp found
  rw [unique other inside same.symm]
  rfl

end PartyMatchmakingWorker

@[simp] theorem PartyMatchmakingWorkerGroup.scheduleExpansion_workers
    (group : PartyMatchmakingWorkerGroup) (workerCount : Nat) (timeSec : Int)
    (request : MatchmakingRequest) :
    (group.scheduleExpansion workerCount timeSec request).workers = group.workers := by
  rw [scheduleExpansion]
  split_ifs <;> rfl

/-! ## Solo workers -/

namespace SoloMatchmakingWorker

variable {held kept : MatchTicket → Prop} {worker : SoloMatchmakingWorker} {ticket : MatchTicket}

/-- The queue and the list in progress share a set of tickets. -/
def Holds (held : MatchTicket → Prop) (worker : SoloMatchmakingWorker) : Prop :=
  ∃ progressing : MatchTicket → Prop,
    WaitingQueue.Stores (fun ticket => held ticket ∧ ¬ progressing ticket) worker.waitingQueue ∧
    WaitingQueue.Stores (fun ticket => held ticket ∧ progressing ticket)
      worker.sendProgressingList

theorem Holds.default (nothing : ∀ ticket, ¬ held ticket) : Holds held {} :=
  ⟨fun _ => False, .empty fun ticket holds => nothing ticket holds.1,
    .empty fun ticket holds => nothing ticket holds.1⟩

theorem Holds.congr (holds : worker.Holds held) (same : ∀ ticket, kept ticket ↔ held ticket) :
    worker.Holds kept := by
  rw [show kept = held from funext fun ticket => propext (same ticket)]
  exact holds

/-- A queued ticket whose id is not held joins the queue. -/
theorem Holds.insertOrAssign (holds : worker.Holds held)
    (fresh : ∀ other, held other → other.matchTicketId ≠ ticket.matchTicketId) :
    worker.waitingQueue.contains ticket.matchTicketId = false ∧
      Holds (fun other => held other ∨ other = ticket)
        { worker with
          waitingQueue := worker.waitingQueue.insertOrAssign ticket.matchTicketId
            ticket.matchmakingRequest } := by
  obtain ⟨progressing, waiting, sending⟩ := holds
  have outside : ¬ held ticket := fun inside => fresh ticket inside rfl
  refine ⟨OrderedMap.contains_eq_false_iff.mpr
    (waiting.find?_of_fresh fun other inside => fresh other inside.1),
    fun other => held other ∧ progressing other, ?_, ?_⟩
  · refine (waiting.insertOrAssign fun other inside => fresh other inside.1).congr fun other => ?_
    by_cases own : other = ticket
    · simp [own, outside]
    · simp only [own, or_false, not_and]
      tauto
  · refine sending.congr fun other => ?_
    by_cases own : other = ticket
    · simp [own, outside]
    · simp only [own, or_false]
      tauto

/-- Erasing a ticket takes it out of the set. -/
theorem Holds.erase (holds : worker.Holds held)
    (unique : ∀ other, held other → other.matchTicketId = ticket.matchTicketId →
      other = ticket) :
    (worker.erase ticket).Holds fun other => held other ∧ other ≠ ticket := by
  obtain ⟨progressing, waiting, sending⟩ := holds
  exact ⟨progressing,
    (waiting.erase fun other inside => unique other inside.1).congr fun _ => and_right_comm,
    (sending.erase fun other inside => unique other inside.1).congr fun _ => and_right_comm⟩

/-- Filling moves tickets from the queue to the list in progress. -/
private theorem holds_fillProgressingList {matchPlayerCount : Int}
    (unique : ∀ first second, held first → held second →
      first.matchTicketId = second.matchTicketId → first = second)
    {entries : List (MatchTicketId × MatchmakingRequest)} {waiting sending : WaitingQueue}
    (nodup : (entries.map Prod.fst).Nodup)
    (listed : ∀ entry ∈ entries, waiting.find? entry.1 = some entry.2)
    (holds : Holds held ⟨waiting, sending⟩) :
    Holds held ⟨(fillProgressingList matchPlayerCount entries waiting sending).1,
      (fillProgressingList matchPlayerCount entries waiting sending).2⟩ := by
  induction entries generalizing waiting sending with
  | nil => exact holds
  | cons head rest ih =>
      obtain ⟨id, request⟩ := head
      rw [fillProgressingList]
      split_ifs
      · exact holds
      obtain ⟨progressing, inQueue, inProgress⟩ := holds
      obtain ⟨ticket, ⟨inside, idle⟩, rfl, rfl⟩ :=
        (inQueue id request).mp (listed _ List.mem_cons_self)
      have fresh : sending.find? ticket.matchTicketId = none := by
        refine inProgress.find?_of_fresh fun other busy same => idle ?_
        rw [← unique other ticket busy.1 inside same]
        exact busy.2
      obtain ⟨outside, distinct⟩ := List.nodup_cons.mp nodup
      refine ih distinct (fun entry member => ?_)
        ⟨fun other => progressing other ∨ other = ticket, ?_, ?_⟩
      · rw [OrderedMap.find?_erase, if_neg]
        · exact listed entry (List.mem_cons_of_mem _ member)
        · intro same
          exact outside (List.mem_map.mpr ⟨entry, member, same⟩)
      · refine (inQueue.erase fun other waits same => unique other ticket waits.1 inside same).congr
          fun other => ?_
        tauto
      · rw [MatchTicket.matchmakingRequest_matchTicketId, OrderedMap.emplace_of_absent fresh]
        refine (inProgress.insertOrAssign fun other busy same => idle ?_).congr fun other => ?_
        · rw [← unique other ticket busy.1 inside same]
          exact busy.2
        · by_cases own : other = ticket
          · simp [own, inside]
          · simp [own]

theorem Holds.filled (holds : worker.Holds held)
    (unique : ∀ first second, held first → held second →
      first.matchTicketId = second.matchTicketId → first = second) (rule : MatchmakingRule) :
    (worker.filled rule).Holds held :=
  holds_fillProgressingList unique worker.waitingQueue.keys_nodup
    (fun _ member => OrderedMap.find?_eq_some_iff.mpr member) holds

/-- The tickets of the list in progress are distinct tickets of the set. -/
theorem Holds.progressing (holds : worker.Holds held) :
    ∃ tickets, TicketsOf worker.sendProgressingList.values tickets ∧ tickets.Nodup ∧
      (∀ ticket ∈ tickets, held ticket) ∧
      Holds (fun ticket => held ticket ∧ ticket ∉ tickets)
        ⟨worker.waitingQueue, OrderedMap.empty⟩ := by
  obtain ⟨progressing, waiting, sending⟩ := holds
  have stored : ∀ entry ∈ worker.sendProgressingList.entries, ∃ ticket,
      (held ticket ∧ progressing ticket) ∧ entry.1 = ticket.matchTicketId ∧
        entry.2 = ticket.matchmakingRequest :=
    fun entry member => (sending entry.1 entry.2).mp (OrderedMap.find?_eq_some_iff.mpr member)
  have requested : ∀ request ∈ worker.sendProgressingList.values,
      request ∈ Set.range MatchTicket.matchmakingRequest := by
    intro request member
    obtain ⟨entry, inside, rfl⟩ := List.mem_map.mp member
    obtain ⟨ticket, -, -, same⟩ := stored entry inside
    exact ⟨ticket, same.symm⟩
  obtain ⟨tickets, values⟩ := (Set.ext_iff.mp (Set.range_list_map _) _).mpr requested
  have member_iff : ∀ ticket, ticket ∈ tickets ↔ held ticket ∧ progressing ticket := by
    intro ticket
    constructor
    · intro inside
      have member := List.mem_map_of_mem (f := MatchTicket.matchmakingRequest) inside
      rw [values] at member
      obtain ⟨entry, present, same⟩ := List.mem_map.mp member
      obtain ⟨other, holds, -, request⟩ := stored entry present
      rw [request] at same
      cases congrArg MatchmakingRequest.matchTicketPtr same
      exact holds
    · intro holds
      have found := OrderedMap.find?_eq_some_iff.mp (sending.find?_of_stored holds)
      have member := List.mem_map_of_mem (f := Prod.snd) found
      rw [show List.map Prod.snd _ = _ from values.symm] at member
      obtain ⟨other, inside, same⟩ := List.mem_map.mp member
      cases congrArg MatchmakingRequest.matchTicketPtr same
      exact inside
  refine ⟨tickets, ?_, ?_, fun ticket inside => ((member_iff ticket).mp inside).1,
    progressing, ?_, ?_⟩
  · rw [TicketsOf, ← values, List.map_map]
    rfl
  · have ids : worker.sendProgressingList.keys = tickets.map MatchTicket.matchTicketId := by
      have keys : worker.sendProgressingList.keys =
          worker.sendProgressingList.values.map MatchmakingRequest.matchTicketId := by
        rw [OrderedMap.keys, OrderedMap.values, List.map_map]
        refine List.map_congr_left fun entry inside => ?_
        obtain ⟨ticket, -, id, request⟩ := stored entry inside
        rw [id, Function.comp_apply, request, MatchTicket.matchmakingRequest_matchTicketId]
      rw [keys, ← values, List.map_map]
      rfl
    exact List.Nodup.of_map _ (ids ▸ worker.sendProgressingList.keys_nodup)
  · refine waiting.congr fun ticket => ?_
    simp only [member_iff]
    tauto
  · refine .empty fun ticket holds => ?_
    simp only [member_iff] at holds
    tauto

end SoloMatchmakingWorker

end MatchmakingMvp
