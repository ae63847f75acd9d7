import MatchmakingMvp.Core.Combinations
import MatchmakingMvp.Worker.Candidates
import MatchmakingMvp.Worker.Holding
import Mathlib.Algebra.BigOperators.Group.Finset.Basic
import Mathlib.Data.Multiset.Sort

/-! # The oldest matchable ticket is matched

A match is any set of waiting tickets whose sizes add up to the match. A worker
tries only the combinations of its rule and draws the oldest tickets of every
size. Each match has the sizes of some combination, and exchanging its tickets for
the oldest ones of their sizes gives the candidate of that combination.
-/

namespace MatchmakingMvp

open Foundation

/-! ## Drawing from the front of ordered lists -/

/-- A prefix of an ordered list is closed downwards. -/
theorem mem_take_of_lt {Element Key : Type} [LinearOrder Key] {key : Element → Key}
    {elements : List Element}
    (ascending : elements.Pairwise fun first second => key first < key second) {count : Nat}
    {taken other : Element} (inside : taken ∈ elements.take count) (member : other ∈ elements)
    (before : key other < key taken) : other ∈ elements.take count := by
  rw [← List.take_append_drop count elements] at ascending member
  rcases List.mem_append.mp member with drawn | left
  · exact drawn
  · exact ((List.pairwise_append.mp ascending).2.2 taken inside other left).asymm before |>.elim

/-- The sizes that a list of needs asks for. -/
def neededSizes (needs : List (Int × Int)) : List Int :=
  needs.flatMap fun need => List.replicate need.2.toNat need.1

theorem count_neededSizes {needs : List (Int × Int)} (distinct : (needs.map Prod.fst).Nodup)
    (size : Int) :
    (neededSizes needs).count size = ((needs.lookup size).getD 0).toNat := by
  induction needs with
  | nil => rfl
  | cons need rest ih =>
      obtain ⟨fresh, distinct⟩ := List.nodup_cons.mp distinct
      rw [neededSizes, List.flatMap_cons, List.count_append, List.count_replicate, List.lookup_cons]
      by_cases same : size = need.1
      · have absent : (neededSizes rest).count size = 0 := by
          refine List.count_eq_zero_of_not_mem fun inside => fresh ?_
          obtain ⟨other, member, needed⟩ := List.mem_flatMap.mp inside
          rw [← same, List.eq_of_mem_replicate needed]
          exact List.mem_map_of_mem member
        rw [← neededSizes, absent, same]
        simp
      · have skip : (size == need.1) = false := beq_false_of_ne same
        have other : (need.1 == size) = false := beq_false_of_ne (Ne.symm same)
        rw [skip, other, ← neededSizes, ih distinct]
        simp

/-- A combination needs the parts that it counts. -/
theorem neededSizes_groupedCombination (parts : List Int) :
    (neededSizes (groupedCombination parts).entries).Perm parts := by
  refine List.perm_iff_count.mpr fun size => ?_
  rw [count_neededSizes (OrderedMap.keys_nodup _), ← OrderedMap.find?, find?_groupedCombination]
  split_ifs with inside
  · simp
  · simp [List.count_eq_zero_of_not_mem inside]

/-! ## The smallest id of a candidate -/

namespace PartyMatchmakingWorker

private theorem foldl_min_le (requests : List MatchmakingRequest) (bound : MatchTicketId) :
    requests.foldl (fun oldest request => min oldest request.matchTicketId) bound ≤ bound ∧
      ∀ request ∈ requests,
        requests.foldl (fun oldest request => min oldest request.matchTicketId) bound ≤
          request.matchTicketId := by
  induction requests generalizing bound with
  | nil => exact ⟨le_rfl, nofun⟩
  | cons head rest ih =>
      obtain ⟨below, least⟩ := ih (min bound head.matchTicketId)
      refine ⟨below.trans (min_le_left _ _), fun request member => ?_⟩
      rcases List.mem_cons.mp member with rfl | inside
      · exact below.trans (min_le_right _ _)
      · exact least request inside

private theorem foldl_min_mem (requests : List MatchmakingRequest) (bound : MatchTicketId) :
    requests.foldl (fun oldest request => min oldest request.matchTicketId) bound = bound ∨
      ∃ request ∈ requests,
        requests.foldl (fun oldest request => min oldest request.matchTicketId) bound =
          request.matchTicketId := by
  induction requests generalizing bound with
  | nil => exact Or.inl rfl
  | cons head rest ih =>
      rw [List.foldl_cons]
      rcases ih (min bound head.matchTicketId) with kept | ⟨request, inside, found⟩
      · rw [kept]
        rcases min_choice bound head.matchTicketId with first | second
        · exact Or.inl first
        · exact Or.inr ⟨head, List.mem_cons_self, second⟩
      · exact Or.inr ⟨request, List.mem_cons_of_mem _ inside, found⟩

theorem oldestTicketId_le {requests : List MatchmakingRequest} {request : MatchmakingRequest}
    (inside : request ∈ requests) : oldestTicketId requests ≤ request.matchTicketId :=
  (foldl_min_le requests maxMatchTicketId).2 request inside

/-- The smallest id is that of some request, unless it is the largest id there is. -/
theorem exists_of_oldestTicketId_ne {requests : List MatchmakingRequest}
    (found : oldestTicketId requests ≠ maxMatchTicketId) :
    ∃ request ∈ requests, oldestTicketId requests = request.matchTicketId :=
  (foldl_min_mem requests maxMatchTicketId).resolve_left found

theorem exists_oldest {requests : List MatchmakingRequest} (nonempty : requests ≠ [])
    (below : ∀ request ∈ requests, request.matchTicketId < maxMatchTicketId) :
    ∃ request ∈ requests, oldestTicketId requests = request.matchTicketId := by
  obtain ⟨request, inside⟩ := List.exists_mem_of_ne_nil requests nonempty
  exact exists_of_oldestTicketId_ne ((oldestTicketId_le inside).trans_lt (below request inside)).ne

/-! ## The waiting tickets of a worker -/

/-- The waiting requests have sizes and ids that the rule can match. -/
def Admitted (rule : MatchmakingRule) (worker : PartyMatchmakingWorker) : Prop :=
  ∀ id request, worker.waitingQueue.find? id = some request →
    1 ≤ request.playerCount ∧
      request.playerCount ≤ min rule.matchPlayerCount rule.partyAvailablePlayerCount ∧
      id < maxMatchTicketId

/-- The request waits in the worker and its ticket is queued. -/
def Waits (worker : PartyMatchmakingWorker) (statuses : TicketStatuses)
    (request : MatchmakingRequest) : Prop :=
  worker.waitingQueue.find? request.matchTicketId = some request ∧
    ∃ ticket, request.matchTicketPtr = some ticket ∧ statuses ticket = .queued

/-- A set of waiting requests that fills a match. -/
def Fills (worker : PartyMatchmakingWorker) (statuses : TicketStatuses) (rule : MatchmakingRule)
    (requests : Finset MatchmakingRequest) : Prop :=
  (∀ request ∈ requests, worker.Waits statuses request) ∧
    ∑ request ∈ requests, request.playerCount = rule.matchPlayerCount

/-- The waiting requests of a size, by increasing id. -/
def waiting (worker : PartyMatchmakingWorker) (statuses : TicketStatuses) (size : Int) :
    List MatchmakingRequest :=
  queuedRequests statuses (worker.bucket size)

section Pool

variable {worker : PartyMatchmakingWorker} {statuses : TicketStatuses}
  {request : MatchmakingRequest} {size : Int}

theorem mem_values_bucket (agrees : worker.Agrees) :
    request ∈ (worker.bucket size).values ↔
      worker.waitingQueue.find? request.matchTicketId = some request ∧
        request.playerCount = size := by
  rw [OrderedMap.values, List.mem_map]
  constructor
  · rintro ⟨⟨id, stored⟩, inside, rfl⟩
    have found := (agrees.buckets size id stored).mp (OrderedMap.find?_eq_some_iff.mpr inside)
    rw [agrees.identified _ _ found.1]
    exact found
  · intro found
    exact ⟨(request.matchTicketId, request),
      OrderedMap.find?_eq_some_iff.mp ((agrees.buckets _ _ _).mpr found), rfl⟩

theorem mem_waiting (agrees : worker.Agrees) :
    request ∈ worker.waiting statuses size ↔
      worker.Waits statuses request ∧ request.playerCount = size := by
  rw [waiting, queuedRequests, List.mem_filter, mem_values_bucket agrees, Waits]
  cases request.matchTicketPtr with
  | none => simp
  | some ticket =>
      simp only [decide_eq_true_eq, Option.some.injEq, exists_eq_left']
      tauto

theorem waiting_ascending (agrees : worker.Agrees) :
    (worker.waiting statuses size).Pairwise fun first second =>
      first.matchTicketId < second.matchTicketId := by
  refine List.Pairwise.filter _ (List.pairwise_map.mpr ?_)
  refine (worker.bucket size).ascending.imp_of_mem fun {first second} inFirst inSecond before => ?_
  have identified : ∀ entry ∈ (worker.bucket size).entries, entry.2.matchTicketId = entry.1 :=
    fun entry inside => agrees.identified _ _
      ((agrees.buckets size entry.1 entry.2).mp (OrderedMap.find?_eq_some_iff.mpr inside)).1
  rw [identified first inFirst, identified second inSecond]
  exact before

/-- The count of a size is at least the number of its queued requests. -/
theorem length_waiting_le (agrees : worker.Agrees) :
    ((worker.waiting statuses size).length : Int) ≤ worker.queuedCount size := by
  rw [agrees.counts, Int.ofNat_le, waiting, queuedRequests]
  exact (List.length_filter_le _ _).trans (List.length_map _).le

end Pool

/-! ## The candidate of a combination -/

/-- The oldest waiting requests of every size that is needed. -/
def draw (worker : PartyMatchmakingWorker) (statuses : TicketStatuses)
    (needs : List (Int × Int)) : List MatchmakingRequest :=
  needs.flatMap fun need => (worker.waiting statuses need.1).take need.2.toNat

/-- Enough requests wait of every size that is needed. -/
def Covers (worker : PartyMatchmakingWorker) (statuses : TicketStatuses)
    (needs : List (Int × Int)) : Prop :=
  ∀ need ∈ needs, need.2 ≤ (worker.waiting statuses need.1).length

section Drawing

variable {worker : PartyMatchmakingWorker} {statuses : TicketStatuses} {needs : List (Int × Int)}

theorem selectRequests_of_covers (positive : ∀ need ∈ needs, 0 < need.2)
    (covers : worker.Covers statuses needs) :
    worker.selectRequests statuses needs = some (worker.draw statuses needs) := by
  induction needs with
  | nil => rfl
  | cons need rest ih =>
      have enough := covers need List.mem_cons_self
      have some_needed := positive need List.mem_cons_self
      rw [selectRequests, draw, List.flatMap_cons, ← draw]
      rw [waiting, bucket] at enough ⊢
      cases found : worker.waitingQueueByPlayerCount.find? need.1 with
      | none =>
          rw [found] at enough
          exact absurd (some_needed.trans_le enough) (lt_irrefl _)
      | some queue =>
          rw [found, Option.getD_some] at enough
          simp only [Option.getD_some]
          rw [if_neg (by rw [List.length_take]; omega),
            ih (fun other inside => positive other (List.mem_cons_of_mem _ inside))
              (fun other inside => covers other (List.mem_cons_of_mem _ inside))]
          rfl

theorem selectRequests_of_not_covers (positive : ∀ need ∈ needs, 0 < need.2)
    (short : ¬ worker.Covers statuses needs) : worker.selectRequests statuses needs = none := by
  induction needs with
  | nil => exact (short fun _ => nofun).elim
  | cons need rest ih =>
      rw [selectRequests]
      cases found : worker.waitingQueueByPlayerCount.find? need.1 with
      | none => rfl
      | some queue =>
          simp only
          split_ifs with lacking
          · rfl
          · have pool : worker.waiting statuses need.1 = queuedRequests statuses queue := by
              rw [waiting, bucket, found, Option.getD_some]
            have shortRest : ¬ worker.Covers statuses rest := fun covers => short <| by
              refine List.forall_mem_cons.mpr ⟨?_, covers⟩
              rw [pool]
              rw [List.length_take] at lacking
              omega
            rw [ih (fun other inside => positive other (List.mem_cons_of_mem _ inside)) shortRest]
            rfl

theorem draw_ne_nil (positive : ∀ need ∈ needs, 0 < need.2) (nonempty : needs ≠ [])
    (covers : worker.Covers statuses needs) : worker.draw statuses needs ≠ [] := by
  obtain ⟨need, inside⟩ := List.exists_mem_of_ne_nil needs nonempty
  have enough := covers need inside
  have some_needed := positive need inside
  intro nothing
  have empty := List.flatMap_eq_nil_iff.mp nothing need inside
  have := congrArg List.length empty
  rw [List.length_take, List.length_nil] at this
  omega

/-- The count of a size never refuses a combination that can be drawn. -/
theorem buildCandidate_eq (agrees : worker.Agrees) {combination : GroupedCombination}
    (positive : ∀ need ∈ combination.entries, 0 < need.2) (nonempty : combination.entries ≠ []) :
    (worker.Covers statuses combination.entries →
      worker.buildCandidate statuses combination =
        some (worker.draw statuses combination.entries)) ∧
    (¬ worker.Covers statuses combination.entries →
      worker.buildCandidate statuses combination = none) := by
  constructor
  · intro covers
    rw [buildCandidate, if_pos, selectRequests_of_covers positive covers]
    · have drawn := draw_ne_nil positive nonempty covers
      generalize worker.draw statuses combination.entries = drawnList at drawn
      cases drawnList with
      | nil => exact (drawn rfl).elim
      | cons head rest => rfl
    · refine List.all_eq_true.mpr fun need inside => ?_
      have bound := (covers need inside).trans (length_waiting_le agrees)
      have some_needed := positive need inside
      rw [queuedCount] at bound
      cases found : worker.queuedCountByPlayerCount.find? need.1 with
      | none =>
          rw [found] at bound
          exact absurd (some_needed.trans_le bound) (lt_irrefl _)
      | some queuedCount =>
          rw [found] at bound
          exact decide_eq_true bound
  · intro short
    rw [buildCandidate, selectRequests_of_not_covers positive short]
    split_ifs <;> rfl

theorem mem_draw {request : MatchmakingRequest} :
    request ∈ worker.draw statuses needs ↔
      ∃ need ∈ needs, request ∈ (worker.waiting statuses need.1).take need.2.toNat :=
  List.mem_flatMap

theorem waits_of_mem_draw (agrees : worker.Agrees) {request : MatchmakingRequest}
    (inside : request ∈ worker.draw statuses needs) : worker.Waits statuses request := by
  obtain ⟨need, -, taken⟩ := mem_draw.mp inside
  exact ((mem_waiting agrees).mp (List.mem_of_mem_take taken)).1

theorem draw_nodup (agrees : worker.Agrees) (distinct : (needs.map Prod.fst).Nodup) :
    (worker.draw statuses needs).Nodup := by
  refine List.nodup_flatMap.mpr ⟨fun need _ => ?_, ?_⟩
  · refine List.Nodup.sublist (List.take_sublist _ _) ?_
    exact (waiting_ascending agrees).imp fun before same => (same ▸ before).ne rfl
  · refine (List.pairwise_map.mp distinct).imp fun {first second} different => ?_
    intro request inFirst inSecond
    have firstSize := ((mem_waiting agrees).mp (List.mem_of_mem_take inFirst)).2
    have secondSize := ((mem_waiting agrees).mp (List.mem_of_mem_take inSecond)).2
    exact different (firstSize.symm.trans secondSize)

/-- No older request of a size is left out. -/
theorem draw_oldest (agrees : worker.Agrees) {taken other : MatchmakingRequest}
    (inside : taken ∈ worker.draw statuses needs) (waits : worker.Waits statuses other)
    (sameSize : other.playerCount = taken.playerCount)
    (before : other.matchTicketId < taken.matchTicketId) :
    other ∈ worker.draw statuses needs := by
  obtain ⟨need, needed, drawn⟩ := mem_draw.mp inside
  have sized := ((mem_waiting agrees).mp (List.mem_of_mem_take drawn)).2
  exact mem_draw.mpr ⟨need, needed, mem_take_of_lt (waiting_ascending agrees) drawn
    ((mem_waiting agrees).mpr ⟨waits, sameSize.trans sized⟩) before⟩

theorem map_playerCount_draw (agrees : worker.Agrees) (covers : worker.Covers statuses needs) :
    (worker.draw statuses needs).map MatchmakingRequest.playerCount = neededSizes needs := by
  rw [draw, List.map_flatMap, neededSizes]
  refine List.flatMap_congr fun need inside => List.eq_replicate_iff.mpr ⟨?_, fun size member => ?_⟩
  · have enough := covers need inside
    rw [List.length_map, List.length_take]
    omega
  · obtain ⟨request, taken, rfl⟩ := List.mem_map.mp member
    exact ((mem_waiting agrees).mp (List.mem_of_mem_take taken)).2

end Drawing

/-! ## Candidates are matches -/

section Candidates

variable {worker : PartyMatchmakingWorker} {statuses : TicketStatuses} {rule : MatchmakingRule}
  {parts : List Int}

private theorem entries_positive :
    ∀ need ∈ (groupedCombination parts).entries, 0 < need.2 := by
  intro need inside
  obtain ⟨member, counted⟩ := mem_entries_groupedCombination.mp inside
  rw [counted]
  exact Int.natCast_pos.mpr (List.count_pos_iff.mpr member)

private theorem entries_ne_nil (players : 1 ≤ rule.matchPlayerCount)
    (partition : IsPartition rule.partyAvailablePlayerCount rule.matchPlayerCount parts) :
    (groupedCombination parts).entries ≠ [] := by
  obtain ⟨size, inside⟩ := partition.exists_mem players
  exact List.ne_nil_of_mem (need_mem_of_mem inside)

/-- The draw of a partition that enough requests wait for. -/
def Candidate (worker : PartyMatchmakingWorker) (statuses : TicketStatuses)
    (rule : MatchmakingRule) (requests : List MatchmakingRequest) : Prop :=
  ∃ parts, IsPartition rule.partyAvailablePlayerCount rule.matchPlayerCount parts ∧
    worker.Covers statuses (groupedCombination parts).entries ∧
    requests = worker.draw statuses (groupedCombination parts).entries

theorem Candidate.nodup (agrees : worker.Agrees) {requests : List MatchmakingRequest}
    (candidate : worker.Candidate statuses rule requests) : requests.Nodup := by
  obtain ⟨parts, -, -, rfl⟩ := candidate
  exact draw_nodup agrees (OrderedMap.keys_nodup _)

theorem Candidate.sum_playerCount (agrees : worker.Agrees) {requests : List MatchmakingRequest}
    (candidate : worker.Candidate statuses rule requests) :
    (requests.map MatchmakingRequest.playerCount).sum = rule.matchPlayerCount := by
  obtain ⟨parts, partition, covers, rfl⟩ := candidate
  rw [map_playerCount_draw agrees covers, (neededSizes_groupedCombination parts).sum_eq,
    partition.total]

theorem Candidate.waits (agrees : worker.Agrees) {requests : List MatchmakingRequest}
    (candidate : worker.Candidate statuses rule requests) {request : MatchmakingRequest}
    (inside : request ∈ requests) : worker.Waits statuses request := by
  obtain ⟨parts, -, -, rfl⟩ := candidate
  exact waits_of_mem_draw agrees inside

/-- A candidate fills a match. -/
theorem Candidate.fills (agrees : worker.Agrees) {requests : List MatchmakingRequest}
    (candidate : worker.Candidate statuses rule requests) :
    worker.Fills statuses rule requests.toFinset :=
  ⟨fun _ inside => candidate.waits agrees (List.mem_toFinset.mp inside),
    (List.sum_toFinset _ (candidate.nodup agrees)).trans (candidate.sum_playerCount agrees)⟩

theorem Candidate.ne_nil (players : 1 ≤ rule.matchPlayerCount)
    {requests : List MatchmakingRequest}
    (candidate : worker.Candidate statuses rule requests) : requests ≠ [] := by
  obtain ⟨parts, partition, covers, rfl⟩ := candidate
  exact draw_ne_nil entries_positive (entries_ne_nil players partition) covers

/-- The sizes of a match are a partition that enough requests wait for. -/
theorem Fills.exists_partition (agrees : worker.Agrees) (admitted : worker.Admitted rule)
    {requests : Finset MatchmakingRequest} (fills : worker.Fills statuses rule requests) :
    ∃ parts, IsPartition rule.partyAvailablePlayerCount rule.matchPlayerCount parts ∧
      worker.Covers statuses (groupedCombination parts).entries ∧
      ∀ request ∈ requests, request.playerCount ∈ parts := by
  have sorted := Multiset.sort_eq (requests.val.map MatchmakingRequest.playerCount) (· ≤ ·)
  have members : ∀ size, size ∈ (requests.val.map MatchmakingRequest.playerCount).sort (· ≤ ·) ↔
      ∃ request ∈ requests, request.playerCount = size := by
    intro size
    rw [Multiset.mem_sort, Multiset.mem_map]
    rfl
  refine ⟨(requests.val.map MatchmakingRequest.playerCount).sort (· ≤ ·),
    ⟨Multiset.pairwise_sort _ _, fun size inside => ?_, ?_⟩, fun need inside => ?_,
    fun request inside => (members _).mpr ⟨request, inside, rfl⟩⟩
  · obtain ⟨request, member, rfl⟩ := (members size).mp inside
    have bounds := admitted _ _ (fills.1 request member).1
    omega
  · rw [← Multiset.sum_coe, sorted]
    exact fills.2
  · obtain ⟨-, counted⟩ := mem_entries_groupedCombination.mp inside
    rw [counted, ← Multiset.coe_count, sorted, Multiset.count_map, Int.ofNat_le]
    have waiting : requests.filter (fun request => need.1 = request.playerCount) ⊆
        (worker.waiting statuses need.1).toFinset := by
      intro request member
      obtain ⟨member, sized⟩ := Finset.mem_filter.mp member
      exact List.mem_toFinset.mpr
        ((mem_waiting agrees).mpr ⟨fills.1 request member, sized.symm⟩)
    exact (Finset.card_le_card waiting).trans (List.toFinset_card_le _)

/-- The exchange argument: the draw of a size starts with its oldest request. -/
theorem exists_mem_draw_le (agrees : worker.Agrees) {request : MatchmakingRequest}
    (waits : worker.Waits statuses request) (used : request.playerCount ∈ parts) :
    ∃ older ∈ worker.draw statuses (groupedCombination parts).entries,
      older.matchTicketId ≤ request.matchTicketId := by
  have inside := (mem_waiting agrees).mpr ⟨waits, rfl⟩
  have ascending : (worker.waiting statuses request.playerCount).Pairwise fun first second =>
      first.matchTicketId < second.matchTicketId := waiting_ascending agrees
  have needed : 0 < parts.count request.playerCount := List.count_pos_iff.mpr used
  cases pool : worker.waiting statuses request.playerCount with
  | nil =>
      rw [pool] at inside
      cases inside
  | cons oldest rest =>
      rw [pool] at inside ascending
      refine ⟨oldest, mem_draw.mpr ⟨_, need_mem_of_mem used, ?_⟩, ?_⟩
      · obtain ⟨more, count⟩ := Nat.exists_eq_succ_of_ne_zero needed.ne'
        simp [pool, count]
      · rcases List.mem_cons.mp inside with rfl | later
        · exact le_rfl
        · exact (List.pairwise_cons.mp ascending).1 request later |>.le

/-- Every match has a candidate that is at least as old. -/
theorem Fills.exists_candidate (agrees : worker.Agrees) (admitted : worker.Admitted rule)
    {requests : Finset MatchmakingRequest} (fills : worker.Fills statuses rule requests) :
    ∃ candidate, worker.Candidate statuses rule candidate ∧
      ∀ request ∈ requests, oldestTicketId candidate ≤ request.matchTicketId := by
  obtain ⟨parts, partition, covers, used⟩ := fills.exists_partition agrees admitted
  refine ⟨_, ⟨parts, partition, covers, rfl⟩, fun request inside => ?_⟩
  obtain ⟨older, drawn, before⟩ := exists_mem_draw_le agrees (fills.1 request inside)
    (used request inside)
  exact (oldestTicketId_le drawn).trans before

/-! ## The best candidate -/

/-- The combinations that are tried, in their order. -/
def triedCombinations (worker : PartyMatchmakingWorker) (order : IterationOrder Int)
    (rule : MatchmakingRule) : List GroupedCombination :=
  (order.1 worker.queuedCountByPlayerCount.keys).flatMap fun size =>
    if worker.queuedCount size ≤ 0 then [] else rule.getCombination size

theorem makeMatchmaking_eq_foldl (waits : worker.waitingQueue.isEmpty = false)
    (order : IterationOrder Int) :
    worker.makeMatchmaking statuses order rule =
      ((worker.triedCombinations order rule).foldl
        (worker.considerCombination statuses rule) {}).matchingList := by
  rw [makeMatchmaking, waits, if_neg Bool.false_ne_true, triedCombinations, List.foldl_flatMap]
  congr 2
  funext best size
  rw [considerPlayerCount]
  split_ifs <;> rfl

theorem mem_getCombination {size : Int} (players : 1 ≤ rule.matchPlayerCount)
    (parties : 1 ≤ rule.partyAvailablePlayerCount) {combination : GroupedCombination} :
    combination ∈ rule.getCombination size ↔
      ∃ parts, IsPartition rule.partyAvailablePlayerCount rule.matchPlayerCount parts ∧
        size ∈ parts ∧ combination = groupedCombination parts := by
  rw [MatchmakingRule.getCombination, MatchmakingRule.combination,
    find?_makeCombination (by omega) (by omega)]
  split_ifs with used
  · simp only [Option.getD_some, List.mem_map, List.mem_filter, decide_eq_true_eq,
      mem_enumerateParts_iff_isPartition, and_assoc, @eq_comm _ _ combination]
  · simp only [mem_enumerateParts_iff_isPartition, not_exists, not_and] at used
    simp only [Option.getD_none, List.not_mem_nil, false_iff]
    rintro ⟨parts, partition, inside, -⟩
    exact used parts partition inside

/-- A partition is tried if some request of one of its sizes waits. -/
theorem mem_triedCombinations (agrees : worker.Agrees) (players : 1 ≤ rule.matchPlayerCount)
    (parties : 1 ≤ rule.partyAvailablePlayerCount) (order : IterationOrder Int)
    (partition : IsPartition rule.partyAvailablePlayerCount rule.matchPlayerCount parts)
    (covers : worker.Covers statuses (groupedCombination parts).entries) :
    groupedCombination parts ∈ worker.triedCombinations order rule := by
  obtain ⟨size, used⟩ := partition.exists_mem players
  have inside := need_mem_of_mem used
  have counted : 0 < worker.queuedCount size :=
    (entries_positive _ inside).trans_le
      ((covers _ inside).trans (length_waiting_le agrees))
  refine List.mem_flatMap.mpr ⟨size, (order.2 _).mem_iff.mpr ?_, ?_⟩
  · rw [OrderedMap.mem_keys_iff]
    cases found : worker.queuedCountByPlayerCount.find? size with
    | none =>
        rw [queuedCount, found] at counted
        exact absurd counted (lt_irrefl _)
    | some count => exact ⟨count, rfl⟩
  · rw [if_neg (not_le.mpr counted)]
    exact (mem_getCombination players parties).mpr ⟨parts, partition, used, rfl⟩

theorem exists_partition_of_mem_tried (players : 1 ≤ rule.matchPlayerCount)
    (parties : 1 ≤ rule.partyAvailablePlayerCount) {order : IterationOrder Int}
    {combination : GroupedCombination}
    (tried : combination ∈ worker.triedCombinations order rule) :
    ∃ parts, IsPartition rule.partyAvailablePlayerCount rule.matchPlayerCount parts ∧
      combination = groupedCombination parts := by
  obtain ⟨size, -, listed⟩ := List.mem_flatMap.mp tried
  split_ifs at listed
  · cases listed
  · obtain ⟨parts, partition, -, same⟩ := (mem_getCombination players parties).mp listed
    exact ⟨parts, partition, same⟩

end Candidates

/-- After some combinations the best candidate is one of theirs, and none of them
has an older one. -/
structure Best.Leads (worker : PartyMatchmakingWorker) (statuses : TicketStatuses)
    (rule : MatchmakingRule) (tried : List GroupedCombination) (best : Best) : Prop where
  sound : best.matchingList ≠ [] → worker.Candidate statuses rule best.matchingList ∧
    best.oldestTicketId = PartyMatchmakingWorker.oldestTicketId best.matchingList
  least : ∀ combination ∈ tried, worker.Covers statuses combination.entries →
    best.matchingList ≠ [] ∧ best.oldestTicketId ≤
      PartyMatchmakingWorker.oldestTicketId (worker.draw statuses combination.entries)

section Search

variable {worker : PartyMatchmakingWorker} {statuses : TicketStatuses} {rule : MatchmakingRule}

/-- A candidate is never discarded for its size or for its ids. -/
theorem Candidate.oldestTicketId_ne_max (agrees : worker.Agrees)
    (admitted : worker.Admitted rule) (players : 1 ≤ rule.matchPlayerCount)
    {requests : List MatchmakingRequest} (candidate : worker.Candidate statuses rule requests) :
    oldestTicketId requests ≠ maxMatchTicketId := by
  obtain ⟨request, inside⟩ := List.exists_mem_of_ne_nil requests (candidate.ne_nil players)
  have below := (admitted _ _ (candidate.waits agrees inside).1).2.2
  exact ((oldestTicketId_le inside).trans_lt below).ne

theorem Best.Leads.considerCombination (agrees : worker.Agrees) (admitted : worker.Admitted rule)
    (players : 1 ≤ rule.matchPlayerCount) {parts : List Int}
    (partition : IsPartition rule.partyAvailablePlayerCount rule.matchPlayerCount parts)
    {tried : List GroupedCombination} {best : Best}
    (leads : best.Leads worker statuses rule tried) :
    (worker.considerCombination statuses rule best (groupedCombination parts)).Leads worker
      statuses rule (tried ++ [groupedCombination parts]) := by
  obtain ⟨builds, refuses⟩ : (worker.Covers statuses (groupedCombination parts).entries →
        worker.buildCandidate statuses (groupedCombination parts) =
          some (worker.draw statuses (groupedCombination parts).entries)) ∧
      (¬ worker.Covers statuses (groupedCombination parts).entries →
        worker.buildCandidate statuses (groupedCombination parts) = none) :=
    buildCandidate_eq agrees entries_positive (entries_ne_nil players partition)
  rw [PartyMatchmakingWorker.considerCombination]
  by_cases covers : worker.Covers statuses (groupedCombination parts).entries
  · have candidate : worker.Candidate statuses rule
        (worker.draw statuses (groupedCombination parts).entries) :=
      ⟨parts, partition, covers, rfl⟩
    simp only [builds covers]
    rw [if_neg (not_or.mpr ⟨not_not.mpr (candidate.sum_playerCount agrees),
      candidate.oldestTicketId_ne_max agrees admitted players⟩)]
    split_ifs with better
    · refine ⟨fun _ => ⟨candidate, rfl⟩, fun combination member covered => ?_⟩
      refine ⟨candidate.ne_nil players, ?_⟩
      rcases List.mem_append.mp member with earlier | last
      · obtain ⟨nonempty, least⟩ := leads.least combination earlier covered
        have newer := better.resolve_left fun empty => nonempty (List.isEmpty_iff.mp empty)
        exact newer.le.trans least
      · rw [List.mem_singleton.mp last]
    · obtain ⟨nonempty, notOlder⟩ := not_or.mp better
      refine ⟨leads.sound, fun combination member covered => ?_⟩
      rcases List.mem_append.mp member with earlier | last
      · exact leads.least combination earlier covered
      · rw [List.mem_singleton.mp last]
        exact ⟨fun empty => nonempty (List.isEmpty_iff.mpr empty), not_lt.mp notOlder⟩
  · simp only [refuses covers]
    refine ⟨leads.sound, fun combination member covered => ?_⟩
    rcases List.mem_append.mp member with earlier | last
    · exact leads.least combination earlier covered
    · exact (covers (List.mem_singleton.mp last ▸ covered)).elim

theorem Best.Leads.foldl (agrees : worker.Agrees) (admitted : worker.Admitted rule)
    (players : 1 ≤ rule.matchPlayerCount) {combinations : List GroupedCombination}
    (partitions : ∀ combination ∈ combinations, ∃ parts,
      IsPartition rule.partyAvailablePlayerCount rule.matchPlayerCount parts ∧
        combination = groupedCombination parts)
    {tried : List GroupedCombination} {best : Best}
    (leads : best.Leads worker statuses rule tried) :
    (combinations.foldl (worker.considerCombination statuses rule) best).Leads worker statuses
      rule (tried ++ combinations) := by
  induction combinations generalizing tried best with
  | nil => rwa [List.append_nil]
  | cons combination rest ih =>
      obtain ⟨parts, partition, rfl⟩ := partitions combination List.mem_cons_self
      rw [List.foldl_cons, List.append_cons]
      exact ih (fun other inside => partitions other (List.mem_cons_of_mem _ inside))
        (leads.considerCombination agrees admitted players partition)

/-- The matching list is the oldest candidate, and empty only if there is none. -/
theorem makeMatchmaking_spec (agrees : worker.Agrees) (admitted : worker.Admitted rule)
    (players : 1 ≤ rule.matchPlayerCount) (parties : 1 ≤ rule.partyAvailablePlayerCount)
    (order : IterationOrder Int) :
    (worker.makeMatchmaking statuses order rule ≠ [] →
      worker.Candidate statuses rule (worker.makeMatchmaking statuses order rule)) ∧
    ∀ candidate, worker.Candidate statuses rule candidate →
      worker.makeMatchmaking statuses order rule ≠ [] ∧
        oldestTicketId (worker.makeMatchmaking statuses order rule) ≤
          oldestTicketId candidate := by
  cases empty : worker.waitingQueue.isEmpty with
  | true =>
      have nothing : worker.makeMatchmaking statuses order rule = [] := by
        rw [makeMatchmaking, empty, if_pos rfl]
      refine ⟨fun nonempty => (nonempty nothing).elim, fun candidate isCandidate => ?_⟩
      obtain ⟨request, inside⟩ := List.exists_mem_of_ne_nil _ (isCandidate.ne_nil players)
      have waits := (isCandidate.waits agrees inside).1
      rw [OrderedMap.isEmpty_iff.mp empty, OrderedMap.find?_empty] at waits
      cases waits
  | false =>
      have initial : Best.Leads worker statuses rule [] {} :=
        ⟨fun nonempty => (nonempty rfl).elim, fun _ inside => (List.not_mem_nil inside).elim⟩
      have leads : Best.Leads worker statuses rule ([] ++ worker.triedCombinations order rule) _ :=
        initial.foldl agrees admitted players fun combination tried =>
          exists_partition_of_mem_tried players parties tried
      rw [makeMatchmaking_eq_foldl empty]
      refine ⟨fun nonempty => (leads.sound nonempty).1, ?_⟩
      rintro candidate ⟨parts, partition, covers, rfl⟩
      obtain ⟨nonempty, least⟩ := leads.least _
        (mem_triedCombinations agrees players parties order partition covers) covers
      rw [← (leads.sound nonempty).2]
      exact ⟨nonempty, least⟩

/-! ### Ties -/

theorem Agrees.find?_self (agrees : worker.Agrees) {id : MatchTicketId}
    {request : MatchmakingRequest} (found : worker.waitingQueue.find? id = some request) :
    worker.waitingQueue.find? request.matchTicketId = some request := by
  rwa [agrees.identified id request found]

theorem Agrees.every (agrees : worker.Agrees) :
    worker.Every fun request =>
      worker.waitingQueue.find? request.matchTicketId = some request where
  waiting _ _ found := agrees.find?_self found
  buckets size queue stored id request found := by
    have bucketed : (worker.bucket size).find? id = some request := by
      rw [bucket, stored]
      exact found
    exact agrees.find?_self ((agrees.buckets size id request).mp bucketed).1

/-- A candidate with the oldest waiting ticket is kept. -/
theorem considerCombination_eq_self (agrees : worker.Agrees) {best : Best}
    (nonempty : best.matchingList ≠ [])
    (oldest : ∀ id request, worker.waitingQueue.find? id = some request →
      best.oldestTicketId ≤ id) (combination : GroupedCombination) :
    worker.considerCombination statuses rule best combination = best := by
  rw [considerCombination]
  cases builds : worker.buildCandidate statuses combination with
  | none => rfl
  | some candidate =>
      simp only
      split_ifs with unfit better
      · rfl
      · obtain ⟨request, inside, same⟩ := exists_of_oldestTicketId_ne (not_or.mp unfit).2
        have bound := oldest _ _ (every_buildCandidate agrees.every builds request inside)
        rcases better with empty | newer
        · exact (nonempty (List.isEmpty_iff.mp empty)).elim
        · rw [same] at newer
          exact absurd (bound.trans_lt newer) (lt_irrefl _)
      · rfl

/-- **The first candidate wins ties.** A match is drawn for the first combination that is
tried if it takes the oldest waiting ticket. -/
theorem makeMatchmaking_eq_draw (agrees : worker.Agrees) (admitted : worker.Admitted rule)
    (players : 1 ≤ rule.matchPlayerCount) {parts : List Int}
    (partition : IsPartition rule.partyAvailablePlayerCount rule.matchPlayerCount parts)
    (covers : worker.Covers statuses (groupedCombination parts).entries)
    {order : IterationOrder Int} {later : List GroupedCombination}
    (tried : worker.triedCombinations order rule = groupedCombination parts :: later)
    (oldest : ∀ id request, worker.waitingQueue.find? id = some request →
      oldestTicketId (worker.draw statuses (groupedCombination parts).entries) ≤ id) :
    worker.makeMatchmaking statuses order rule =
      worker.draw statuses (groupedCombination parts).entries := by
  have candidate : worker.Candidate statuses rule
      (worker.draw statuses (groupedCombination parts).entries) := ⟨parts, partition, covers, rfl⟩
  have nonempty := candidate.ne_nil players
  have waits : worker.waitingQueue.isEmpty = false := by
    obtain ⟨request, inside⟩ := List.exists_mem_of_ne_nil _ nonempty
    have found := (candidate.waits agrees inside).1
    cases empty : worker.waitingQueue.isEmpty with
    | false => rfl
    | true =>
        rw [OrderedMap.isEmpty_iff_find?.mp empty] at found
        cases found
  have first : worker.considerCombination statuses rule {} (groupedCombination parts) =
      ⟨oldestTicketId (worker.draw statuses (groupedCombination parts).entries),
        worker.draw statuses (groupedCombination parts).entries⟩ := by
    rw [considerCombination, (buildCandidate_eq agrees entries_positive
      (entries_ne_nil players partition)).1 covers]
    simp only
    rw [if_neg (not_or.mpr ⟨not_not.mpr (candidate.sum_playerCount agrees),
      candidate.oldestTicketId_ne_max agrees admitted players⟩)]
    exact if_pos (Or.inl rfl)
  rw [makeMatchmaking_eq_foldl waits, tried, List.foldl_cons, first,
    List.foldl_fixed' (considerCombination_eq_self agrees nonempty oldest)]

end Search

/-- **The oldest matchable ticket is matched.** A matching list is found exactly if
some waiting tickets fill a match. It is such a set, it takes the oldest tickets of
every size, and no ticket of any match is older than its oldest one. -/
theorem makeMatchmaking_complete {rule : MatchmakingRule} (players : 1 ≤ rule.matchPlayerCount)
    (parties : 1 ≤ rule.partyAvailablePlayerCount) {worker : PartyMatchmakingWorker}
    (agrees : worker.Agrees) (admitted : worker.Admitted rule) (statuses : TicketStatuses)
    (order : IterationOrder Int) :
    (worker.makeMatchmaking statuses order rule ≠ [] ↔
      ∃ requests, worker.Fills statuses rule requests) ∧
    (worker.makeMatchmaking statuses order rule ≠ [] →
      (worker.makeMatchmaking statuses order rule).Nodup ∧
      worker.Fills statuses rule (worker.makeMatchmaking statuses order rule).toFinset ∧
      (∀ taken ∈ worker.makeMatchmaking statuses order rule, ∀ other,
        worker.Waits statuses other → other.playerCount = taken.playerCount →
        other.matchTicketId < taken.matchTicketId →
        other ∈ worker.makeMatchmaking statuses order rule) ∧
      ∃ oldest ∈ worker.makeMatchmaking statuses order rule,
        ∀ requests, worker.Fills statuses rule requests →
          ∀ request ∈ requests, oldest.matchTicketId ≤ request.matchTicketId) := by
  obtain ⟨sound, least⟩ : (worker.makeMatchmaking statuses order rule ≠ [] → _) ∧ _ :=
    makeMatchmaking_spec agrees admitted players parties order
  generalize worker.makeMatchmaking statuses order rule = matchingList at sound least ⊢
  constructor
  · constructor
    · exact fun nonempty => ⟨_, (sound nonempty).fills agrees⟩
    · rintro ⟨requests, fills⟩
      obtain ⟨candidate, isCandidate, -⟩ := fills.exists_candidate agrees admitted
      exact (least candidate isCandidate).1
  · intro nonempty
    have isCandidate := sound nonempty
    refine ⟨isCandidate.nodup agrees, isCandidate.fills agrees,
      fun taken inside other waits sameSize before => ?_, ?_⟩
    · obtain ⟨parts, -, -, rfl⟩ := isCandidate
      exact draw_oldest agrees inside waits sameSize before
    · obtain ⟨oldest, inside, same⟩ := exists_oldest nonempty fun request member =>
        (admitted _ _ (isCandidate.waits agrees member).1).2.2
      refine ⟨oldest, inside, fun requests fills request member => ?_⟩
      obtain ⟨candidate, candidateOfFills, older⟩ := fills.exists_candidate agrees admitted
      rw [← same]
      exact (least candidate candidateOfFills).2.trans (older request member)

/-- A party that waits. -/
private def party (matchTicketId : MatchTicketId) (players : List PlayerKey)
    (sorted : players.Pairwise (· < ·)) : MatchTicket :=
  ⟨0, { worldNo := 1, matchZoneId := "arena", matchTicketId := matchTicketId,
        players := ⟨players, sorted⟩ }, 1⟩

/-- A party of two waits between three players without company. -/
private def mixedWorker : PartyMatchmakingWorker :=
  [party 4 [8] (by decide), party 7 [3, 5] (by decide), party 6 [2] (by decide),
    party 9 [1] (by decide)].foldl
      (fun worker ticket => (worker.enqueueJobRequest ticket.matchmakingRequest).2) {}

/-- Matches of four players in parties of two at most. -/
private def mixedRule : MatchmakingRule := ⟨"arena", 4, 2, by decide⟩

private def mixedMatch : List MatchmakingRequest :=
  mixedWorker.makeMatchmaking (fun _ => .queued) (.asListed Int) mixedRule

/-- The two oldest single players join the party of two. -/
theorem makeMatchmaking_complete_mixed :
    mixedMatch.map MatchmakingRequest.matchTicketId = [4, 6, 7] ∧
      (∃ requests, mixedWorker.Fills (fun _ => .queued) mixedRule requests) ∧
      mixedMatch.Nodup ∧ mixedWorker.Fills (fun _ => .queued) mixedRule mixedMatch.toFinset ∧
      (∀ taken ∈ mixedMatch, ∀ other, mixedWorker.Waits (fun _ => .queued) other →
        other.playerCount = taken.playerCount → other.matchTicketId < taken.matchTicketId →
        other ∈ mixedMatch) ∧
      ∃ oldest ∈ mixedMatch, ∀ requests, mixedWorker.Fills (fun _ => .queued) mixedRule requests →
        ∀ request ∈ requests, oldest.matchTicketId ≤ request.matchTicketId := by
  have agrees : mixedWorker.Agrees :=
    (((Agrees.default.enqueueJobRequest _).enqueueJobRequest _).enqueueJobRequest
      _).enqueueJobRequest _
  have admitted : mixedWorker.Admitted mixedRule := by
    intro id request found
    have every : ∀ entry ∈ mixedWorker.waitingQueue.entries, 1 ≤ entry.2.playerCount ∧
        entry.2.playerCount ≤ min mixedRule.matchPlayerCount mixedRule.partyAvailablePlayerCount ∧
        entry.1 < maxMatchTicketId := by decide
    exact every (id, request) (OrderedMap.find?_eq_some_iff.mp found)
  have found : mixedMatch.map MatchmakingRequest.matchTicketId = [4, 6, 7] := by decide
  have nonempty : mixedMatch ≠ [] := by decide
  obtain ⟨finds, chosen⟩ := makeMatchmaking_complete (by decide) (by decide) agrees admitted
    (fun _ => .queued) (.asListed Int)
  exact ⟨found, finds.mp nonempty, chosen nonempty⟩

end PartyMatchmakingWorker

end MatchmakingMvp
