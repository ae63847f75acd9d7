import MatchmakingMvp.Core.Rule
import Mathlib.Algebra.Order.Ring.Int
import Mathlib.Data.List.Lex
import Mathlib.Data.List.Sort

/-! # The combinations of a rule are the partitions of its player count

A combination counts the parts of a partition of the match into parties. The loop
of `makeCombination` meets every partition exactly once, in lexicographic order,
and files it under each of its party sizes. -/

namespace MatchmakingMvp

open Foundation

/-- A partition of `matchPlayerCount` into parts of at most `limit`, written as
its non-decreasing sequence of parts. -/
structure IsPartition (limit matchPlayerCount : Int) (parts : List Int) : Prop where
  ascending : parts.Pairwise (· ≤ ·)
  sized : ∀ part ∈ parts, 1 ≤ part ∧ part ≤ limit
  total : parts.sum = matchPlayerCount

/-- `grouped` holds the multiplicity of every part, and nothing else. -/
def IsMultiplicityMap (parts : List Int) (grouped : GroupedCombination) : Prop :=
  ∀ part, grouped.find? part = if part ∈ parts then some (parts.count part : Int) else none

theorem groupedCombination_isMultiplicityMap (parts : List Int) :
    IsMultiplicityMap parts (groupedCombination parts) :=
  find?_groupedCombination parts

theorem mem_entries_groupedCombination {parts : List Int} {need : Int × Int} :
    need ∈ (groupedCombination parts).entries ↔ need.1 ∈ parts ∧ need.2 = parts.count need.1 := by
  rw [← Prod.mk.eta (p := need), ← OrderedMap.find?_eq_some_iff, find?_groupedCombination]
  split_ifs with inside
  · simp [inside, eq_comm]
  · simp [inside]

theorem need_mem_of_mem {parts : List Int} {size : Int} (inside : size ∈ parts) :
    (size, (parts.count size : Int)) ∈ (groupedCombination parts).entries :=
  mem_entries_groupedCombination.mpr ⟨inside, rfl⟩

theorem mem_enumerateParts_iff_isPartition {limit matchPlayerCount : Int} {parts : List Int} :
    parts ∈ enumerateParts limit matchPlayerCount 1 ↔ IsPartition limit matchPlayerCount parts :=
  (mem_enumerateParts Int.zero_lt_one).trans
    ⟨fun ⟨ascending, sized, total⟩ => ⟨ascending, sized, total⟩,
      fun partition => ⟨partition.ascending, partition.sized, partition.total⟩⟩

/-! ## The enumeration is ordered -/

/-- Every sequence that is enumerated from a larger least part comes later. -/
theorem cons_lt_of_mem_enumerateParts {limit remaining least : Int} (positive : 0 < least)
    (nonzero : remaining ≠ 0) {rest later : List Int}
    (enumerated : later ∈ enumerateParts limit remaining (least + 1)) : least :: rest < later := by
  obtain ⟨-, sized, total⟩ := (mem_enumerateParts (by omega)).mp enumerated
  cases later with
  | nil => exact (nonzero total.symm).elim
  | cons head others =>
      have above := (sized head List.mem_cons_self).1
      exact List.cons_lt_cons_iff.mpr (Or.inl (by omega))

/-- **The enumeration is strictly lexicographic.** -/
theorem enumerateParts_ascending {limit remaining least : Int} (positive : 0 < least) :
    (enumerateParts limit remaining least).Pairwise (· < ·) := by
  induction remaining, least using enumerateParts.induct limit with
  | case1 least =>
      rw [enumerateParts_zero]
      exact List.pairwise_singleton _ _
  | case2 remaining least nonzero stop =>
      rw [enumerateParts_of_exhausted nonzero stop]
      exact List.Pairwise.nil
  | case3 remaining least nonzero continues ihTake ihSkip =>
      rw [enumerateParts_of_fits positive (by omega), List.pairwise_append]
      refine ⟨List.pairwise_map.mpr ((ihTake positive).imp fun before =>
          List.cons_lt_cons_iff.mpr (Or.inr ⟨rfl, before⟩)), ihSkip (by omega), ?_⟩
      intro first inside later enumerated
      obtain ⟨rest, -, rfl⟩ := List.mem_map.mp inside
      exact cons_lt_of_mem_enumerateParts positive nonzero enumerated

/-- The enumeration begins with single players. -/
theorem enumerateParts_eq_cons {limit : Int} (parties : 1 ≤ limit) (remaining : Nat) :
    ∃ later, enumerateParts limit remaining 1 = List.replicate remaining 1 :: later := by
  induction remaining with
  | zero => exact ⟨[], enumerateParts_zero limit 1⟩
  | succ remaining ih =>
      obtain ⟨later, enumerated⟩ := ih
      rw [enumerateParts_of_fits Int.zero_lt_one (by push_cast; omega), Nat.cast_succ,
        Int.add_sub_cancel, enumerated]
      exact ⟨_, rfl⟩

/-- A non-decreasing sequence is determined by the multiplicities of its parts. -/
theorem groupedCombination_injective {first second : List Int}
    (firstAscending : first.Pairwise (· ≤ ·)) (secondAscending : second.Pairwise (· ≤ ·))
    (same : groupedCombination first = groupedCombination second) : first = second := by
  have counts : ∀ part, first.count part = second.count part := by
    intro part
    have looked := congrArg (fun grouped => OrderedMap.find? grouped part) same
    simp only [find?_groupedCombination] at looked
    split_ifs at looked with inFirst inSecond inSecond
    · exact Int.ofNat_inj.mp (Option.some.inj looked)
    · rw [List.count_eq_zero_of_not_mem inFirst, List.count_eq_zero_of_not_mem inSecond]
  exact (List.perm_iff_count.mpr counts).eq_of_pairwise' firstAscending secondAscending

/-! ## Every part size occurs -/

/-- One party of the given size and single players for the rest. -/
def singlesWith (matchPlayerCount size : Int) : List Int :=
  List.replicate (matchPlayerCount - size).toNat 1 ++ [size]

theorem isPartition_singlesWith {limit matchPlayerCount size : Int} (positive : 1 ≤ size)
    (fits : size ≤ min matchPlayerCount limit) :
    IsPartition limit matchPlayerCount (singlesWith matchPlayerCount size) where
  ascending := by
    refine List.pairwise_append.mpr ⟨List.pairwise_replicate.mpr (Or.inr le_rfl),
      List.pairwise_singleton _ _, ?_⟩
    intro single inside last isLast
    rw [List.eq_of_mem_replicate inside, List.mem_singleton.mp isLast]
    exact positive
  sized part inside := by
    rcases List.mem_append.mp inside with single | last
    · have := List.eq_of_mem_replicate single
      omega
    · have := List.mem_singleton.mp last
      omega
  total := by
    rw [singlesWith, List.sum_append, List.sum_replicate, List.sum_singleton]
    rw [nsmul_eq_mul, mul_one]
    omega

/-- The parts of a partition keep both bounds. -/
theorem IsPartition.part_le {limit matchPlayerCount : Int} {parts : List Int}
    (partition : IsPartition limit matchPlayerCount parts) {part : Int} (inside : part ∈ parts) :
    1 ≤ part ∧ part ≤ min matchPlayerCount limit := by
  have sized := partition.sized part inside
  have total : part ≤ parts.sum := List.single_le_sum
    (fun other member => by have := partition.sized other member; omega) part inside
  rw [partition.total] at total
  omega

theorem IsPartition.exists_mem {limit matchPlayerCount : Int} {parts : List Int}
    (partition : IsPartition limit matchPlayerCount parts) (players : 1 ≤ matchPlayerCount) :
    ∃ part, part ∈ parts := by
  refine List.exists_mem_of_ne_nil parts fun nothing => ?_
  have total := partition.total
  rw [nothing, List.sum_nil] at total
  omega

/-- **Every party size that fits into a match is used.** -/
theorem exists_partition_with_iff {limit matchPlayerCount size : Int} :
    (∃ parts, IsPartition limit matchPlayerCount parts ∧ size ∈ parts) ↔
      1 ≤ size ∧ size ≤ min matchPlayerCount limit := by
  constructor
  · rintro ⟨parts, partition, inside⟩
    exact partition.part_le inside
  · rintro ⟨positive, fits⟩
    exact ⟨_, isPartition_singlesWith positive fits, List.mem_append_right _ List.mem_cons_self⟩

/-! ## The variables of the loop stay within `int` -/

/-- The frames and parts of the loop stay between zero and one above the player
count of the match. -/
structure CombinationState.Bounded (matchPlayerCount : Int) (state : CombinationState) : Prop where
  remaining : ∀ frame ∈ state.combinationStack,
    0 ≤ frame.remainingCount ∧ frame.remainingCount ≤ matchPlayerCount
  next : ∀ frame ∈ state.combinationStack,
    1 ≤ frame.nextPartSize ∧ frame.nextPartSize ≤ matchPlayerCount + 1
  largest : ∀ frame ∈ state.combinationStack, frame.maxPartSize ≤ frame.remainingCount
  parts : ∀ part ∈ state.currentParts, 1 ≤ part ∧ part ≤ matchPlayerCount

private theorem CombinationFrame.mem_of_mem_leave {frame : CombinationFrame} {parts : List Int}
    {part : Int} (inside : part ∈ frame.leave parts) : part ∈ parts := by
  rw [CombinationFrame.leave] at inside
  split_ifs at inside
  · exact List.dropLast_subset _ inside
  · exact inside

theorem CombinationState.Bounded.step {matchPlayerCount limit : Int} {state : CombinationState}
    (bounded : state.Bounded matchPlayerCount) :
    (combinationStep limit state).Bounded matchPlayerCount := by
  obtain ⟨combinationMap, currentParts, combinationStack⟩ := state
  cases combinationStack with
  | nil => exact bounded
  | cons frame rest =>
      have popped (recorded : CombinationMap) :
          (⟨recorded, frame.leave currentParts, rest⟩ : CombinationState).Bounded
            matchPlayerCount :=
        ⟨fun other below => bounded.remaining other (List.mem_cons_of_mem _ below),
          fun other below => bounded.next other (List.mem_cons_of_mem _ below),
          fun other below => bounded.largest other (List.mem_cons_of_mem _ below),
          fun part inside => bounded.parts part (CombinationFrame.mem_of_mem_leave inside)⟩
      have remaining := bounded.remaining frame List.mem_cons_self
      have next := bounded.next frame List.mem_cons_self
      have largest := bounded.largest frame List.mem_cons_self
      rw [combinationStep]
      dsimp only
      split_ifs with complete exhausted
      · exact popped _
      · exact popped _
      · constructor
        · simp only [List.forall_mem_cons]
          exact ⟨by omega, remaining, fun other below =>
            bounded.remaining other (List.mem_cons_of_mem _ below)⟩
        · simp only [List.forall_mem_cons]
          exact ⟨by omega, by omega, fun other below =>
            bounded.next other (List.mem_cons_of_mem _ below)⟩
        · simp only [List.forall_mem_cons]
          exact ⟨by omega, largest, fun other below =>
            bounded.largest other (List.mem_cons_of_mem _ below)⟩
        · intro part inside
          rcases List.mem_append.mp inside with earlier | last
          · exact bounded.parts part earlier
          · have := List.mem_singleton.mp last
            omega

/-- No iteration overflows if `matchPlayerCount + 1` does not. -/
theorem combinationLoop_bounded {matchPlayerCount : Int} (positive : 0 < matchPlayerCount)
    (limit : Int) (iterations : Nat) :
    (combinationLoop limit iterations
      (initialCombinationState matchPlayerCount limit)).Bounded matchPlayerCount := by
  have initial : (initialCombinationState matchPlayerCount limit).Bounded matchPlayerCount := by
    constructor <;> simp only [initialCombinationState, List.forall_mem_singleton,
      List.not_mem_nil, false_implies, implies_true] <;> omega
  generalize initialCombinationState matchPlayerCount limit = state at initial
  induction iterations generalizing state with
  | zero => exact initial
  | succ iterations ih =>
      rw [combinationLoop]
      split
      · exact initial
      · exact ih _ initial.step

/-! ## The combination map -/

theorem contains_makeCombination_iff {matchPlayerCount limit size : Int}
    (players : 1 ≤ matchPlayerCount) (parties : 1 ≤ limit) :
    (makeCombination matchPlayerCount limit).contains size = true ↔
      1 ≤ size ∧ size ≤ min matchPlayerCount limit := by
  rw [OrderedMap.contains, find?_makeCombination (by omega) (by omega),
    ← exists_partition_with_iff]
  split_ifs with used <;> simpa [mem_enumerateParts_iff_isPartition] using used

/-- Single players are the first combination of their size. -/
theorem MatchmakingRule.getCombination_one {rule : MatchmakingRule}
    (players : 1 ≤ rule.matchPlayerCount) (parties : 1 ≤ rule.partyAvailablePlayerCount) :
    ∃ later, rule.getCombination 1 =
      groupedCombination (List.replicate rule.matchPlayerCount.toNat 1) :: later := by
  obtain ⟨later, enumerated⟩ := enumerateParts_eq_cons parties rule.matchPlayerCount.toNat
  rw [Int.toNat_of_nonneg (by omega)] at enumerated
  have single : (1 : Int) ∈ List.replicate rule.matchPlayerCount.toNat 1 :=
    List.mem_replicate.mpr ⟨by omega, rfl⟩
  rw [getCombination, combination, find?_makeCombination (by omega) (by omega), enumerated,
    if_pos ⟨_, List.mem_cons_self, single⟩, Option.getD_some, List.filter_cons,
    if_pos (decide_eq_true single)]
  exact ⟨_, rfl⟩

/-- **The combination map lists the partitions.** Its keys are the party sizes that
fit, and under a key stand the multiplicity maps of exactly the partitions that use
it, each once and in lexicographic order. -/
theorem makeCombination_lists_partitions (matchPlayerCount partyAvailablePlayerCount : Int) :
    (1 ≤ matchPlayerCount → 1 ≤ partyAvailablePlayerCount →
      (∀ key, (makeCombination matchPlayerCount partyAvailablePlayerCount).contains key = true ↔
        1 ≤ key ∧ key ≤ min matchPlayerCount partyAvailablePlayerCount) ∧
      ∀ key combination,
        (makeCombination matchPlayerCount partyAvailablePlayerCount).find? key =
            some combination →
          combination.Nodup ∧ ∃ partitions : List (List Int),
            partitions.Pairwise (· < ·) ∧
            (∀ parts, parts ∈ partitions ↔
              IsPartition partyAvailablePlayerCount matchPlayerCount parts ∧ key ∈ parts) ∧
            List.Forall₂ IsMultiplicityMap partitions combination) ∧
    (matchPlayerCount ≤ 0 ∨ partyAvailablePlayerCount ≤ 0 →
      makeCombination matchPlayerCount partyAvailablePlayerCount = OrderedMap.empty) := by
  refine ⟨fun players parties => ⟨fun key => contains_makeCombination_iff players parties,
    fun key combination found => ?_⟩, fun guard => if_pos guard⟩
  rw [find?_makeCombination (by omega) (by omega)] at found
  split_ifs at found
  obtain rfl := Option.some.inj found
  have members : ∀ parts,
      parts ∈ (enumerateParts partyAvailablePlayerCount matchPlayerCount 1).filter (key ∈ ·) ↔
        IsPartition partyAvailablePlayerCount matchPlayerCount parts ∧ key ∈ parts := by
    intro parts
    rw [List.mem_filter, mem_enumerateParts_iff_isPartition, decide_eq_true_iff]
  have ascending : ((enumerateParts partyAvailablePlayerCount matchPlayerCount 1).filter
      (key ∈ ·)).Pairwise (· < ·) :=
    (enumerateParts_ascending Int.zero_lt_one).filter _
  refine ⟨?_, _, ascending, members, ?_⟩
  · refine List.Nodup.map_on (fun first inFirst second inSecond => ?_) (ascending.imp ne_of_lt)
    exact groupedCombination_injective ((members first).mp inFirst).1.ascending
      ((members second).mp inSecond).1.ascending
  · rw [List.forall₂_map_right_iff, List.forall₂_same]
    exact fun parts _ => groupedCombination_isMultiplicityMap parts

end MatchmakingMvp
