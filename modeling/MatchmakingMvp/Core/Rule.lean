import MatchmakingMvp.Core.Types
import Mathlib.Algebra.Order.BigOperators.Group.List
import Mathlib.Data.List.Induction

/-! # Matchmaking rules and their party combinations

`makeCombination` lists, for every party size, the ways to fill a match with
parties that include one of that size. It walks an explicit stack of frames, one
for each part chosen so far. -/

namespace MatchmakingMvp

open Foundation

/-- How many parties of each size a match takes. -/
abbrev GroupedCombination := OrderedMap Int Int

abbrev Combination := List GroupedCombination

abbrev CombinationMap := OrderedMap Int Combination

structure CombinationFrame where
  remainingCount : Int := 0
  nextPartSize : Int := 1
  maxPartSize : Int := 0
  selectedPartSize : Int := 0

/-- The variables of the loop. The top of the stack is the head of the list. -/
structure CombinationState where
  combinationMap : CombinationMap
  currentParts : List Int
  combinationStack : List CombinationFrame

/-- Count the parts of each size. -/
def groupedCombination (parts : List Int) : GroupedCombination :=
  parts.foldl (fun grouped playerCount =>
    grouped.insertOrAssign playerCount ((grouped.find? playerCount).getD 0 + 1)) OrderedMap.empty

/-- Append a combination to the list of every party size it uses. -/
def recordCombination (combinationMap : CombinationMap) (parts : List Int) : CombinationMap :=
  let grouped := groupedCombination parts
  grouped.keys.foldl (fun combinationMap playerCount =>
    combinationMap.insertOrAssign playerCount
      ((combinationMap.find? playerCount).getD [] ++ [grouped])) combinationMap

/-- The selected parts after the given frame is left. -/
def CombinationFrame.leave (frame : CombinationFrame) (currentParts : List Int) : List Int :=
  if frame.selectedPartSize > 0 then currentParts.dropLast else currentParts

/-- One iteration of the loop. -/
def combinationStep (partyAvailablePlayerCount : Int) (state : CombinationState) :
    CombinationState :=
  match state.combinationStack with
  | [] => state
  | frame :: rest =>
      if frame.remainingCount = 0 then
        ⟨recordCombination state.combinationMap state.currentParts,
          frame.leave state.currentParts, rest⟩
      else if frame.nextPartSize > frame.maxPartSize then
        ⟨state.combinationMap, frame.leave state.currentParts, rest⟩
      else
        let nextPartSize := frame.nextPartSize
        let remainingCount := frame.remainingCount - nextPartSize
        ⟨state.combinationMap, state.currentParts ++ [nextPartSize],
          ⟨remainingCount, nextPartSize, min remainingCount partyAvailablePlayerCount,
            nextPartSize⟩ :: { frame with nextPartSize := nextPartSize + 1 } :: rest⟩

/-- Iterate until the stack is empty. -/
def combinationLoop (partyAvailablePlayerCount : Int) : Nat → CombinationState → CombinationState
  | 0, state => state
  | fuel + 1, state =>
      match state.combinationStack with
      | [] => state
      | _ :: _ => combinationLoop partyAvailablePlayerCount fuel
          (combinationStep partyAvailablePlayerCount state)

/-- The stack holding only the frame of the whole match. -/
def initialCombinationState (matchPlayerCount partyAvailablePlayerCount : Int) :
    CombinationState :=
  ⟨OrderedMap.empty, [],
    [⟨matchPlayerCount, 1, min matchPlayerCount partyAvailablePlayerCount, 0⟩]⟩

/-- The combinations that fill a match, by the party sizes they use. The loop
ends within the iterations it is given (`combinationLoop_finishes`). -/
def makeCombination (matchPlayerCount partyAvailablePlayerCount : Int) : CombinationMap :=
  if matchPlayerCount ≤ 0 ∨ partyAvailablePlayerCount ≤ 0 then OrderedMap.empty
  else (combinationLoop partyAvailablePlayerCount (2 ^ (matchPlayerCount.toNat + 1))
    (initialCombinationState matchPlayerCount partyAvailablePlayerCount)).combinationMap

/-- The rule of a zone. Its player count is a 32-bit `int`. -/
structure MatchmakingRule where
  matchZoneId : String
  matchPlayerCount : Int := 1
  partyAvailablePlayerCount : Int
  inRange : -2 ^ 31 ≤ matchPlayerCount ∧ matchPlayerCount < 2 ^ 31 := by decide
deriving DecidableEq

namespace MatchmakingRule

theorem inRange_two : (-2 ^ 31 : Int) ≤ 2 ∧ (2 : Int) < 2 ^ 31 := by decide

theorem inRange_four : (-2 ^ 31 : Int) ≤ 4 ∧ (4 : Int) < 2 ^ 31 := by decide

/-- The combinations are computed when the rule is constructed and never change. -/
def combination (rule : MatchmakingRule) : CombinationMap :=
  makeCombination rule.matchPlayerCount rule.partyAvailablePlayerCount

def getCombination (rule : MatchmakingRule) (playerCount : Int) : Combination :=
  (rule.combination.find? playerCount).getD []

end MatchmakingRule

/-! ## The combinations in recursive form -/

/-- The non-decreasing sequences of parts between `least` and `limit` with sum
`remaining`, in lexicographic order. -/
def enumerateParts (limit remaining least : Int) : List (List Int) :=
  if remaining = 0 then [[]]
  else if min remaining limit < least ∨ least ≤ 0 ∨ remaining < 0 then []
  else (enumerateParts limit (remaining - least) least).map (least :: ·) ++
    enumerateParts limit remaining (least + 1)
termination_by (remaining.toNat, (limit + 1 - least).toNat)
decreasing_by
  · exact Prod.Lex.left _ _ (by omega)
  · exact Prod.Lex.right _ (by omega)

theorem enumerateParts_zero (limit least : Int) : enumerateParts limit 0 least = [[]] := by
  rw [enumerateParts, if_pos rfl]

theorem enumerateParts_of_exhausted {limit remaining least : Int} (nonzero : remaining ≠ 0)
    (stop : min remaining limit < least ∨ least ≤ 0 ∨ remaining < 0) :
    enumerateParts limit remaining least = [] := by
  rw [enumerateParts, if_neg nonzero, if_pos stop]

theorem enumerateParts_of_fits {limit remaining least : Int} (positive : 0 < least)
    (fits : least ≤ min remaining limit) :
    enumerateParts limit remaining least =
      (enumerateParts limit (remaining - least) least).map (least :: ·) ++
        enumerateParts limit remaining (least + 1) := by
  rw [enumerateParts.eq_def limit remaining least, if_neg (by omega), if_neg (by omega)]

/-- A sequence is enumerated exactly if it is non-decreasing, keeps the bounds
and has the right sum. -/
theorem mem_enumerateParts {limit remaining least : Int} (positive : 0 < least)
    {parts : List Int} :
    parts ∈ enumerateParts limit remaining least ↔
      parts.Pairwise (· ≤ ·) ∧ (∀ part ∈ parts, least ≤ part ∧ part ≤ limit) ∧
        parts.sum = remaining := by
  induction remaining, least using enumerateParts.induct limit generalizing parts with
  | case1 least =>
      rw [enumerateParts_zero, List.mem_singleton]
      constructor
      · rintro rfl
        simp
      · rintro ⟨-, bounds, total⟩
        cases parts with
        | nil => rfl
        | cons head rest =>
            have first := (bounds head List.mem_cons_self).1
            have others : 0 ≤ rest.sum := List.sum_nonneg fun part inside =>
              positive.le.trans (bounds part (List.mem_cons_of_mem _ inside)).1
            rw [List.sum_cons] at total
            omega
  | case2 remaining least nonzero stop =>
      rw [enumerateParts_of_exhausted nonzero stop]
      simp only [List.not_mem_nil, false_iff, not_and]
      rintro - bounds total
      cases parts with
      | nil => exact nonzero total.symm
      | cons head rest =>
          have first := bounds head List.mem_cons_self
          have others : 0 ≤ rest.sum := List.sum_nonneg fun part inside =>
            positive.le.trans (bounds part (List.mem_cons_of_mem _ inside)).1
          rw [List.sum_cons] at total
          omega
  | case3 remaining least nonzero continues ihTake ihSkip =>
      rw [enumerateParts_of_fits positive (by omega), List.mem_append, List.mem_map,
        ihSkip (by omega)]
      constructor
      · rintro (⟨rest, inside, rfl⟩ | ⟨sorted, bounds, total⟩)
        · obtain ⟨sorted, bounds, total⟩ := (ihTake positive).mp inside
          refine ⟨List.pairwise_cons.mpr ⟨fun part member => (bounds part member).1, sorted⟩,
            fun part member => ?_, by rw [List.sum_cons, total]; omega⟩
          rcases List.mem_cons.mp member with rfl | inside
          · omega
          · exact bounds part inside
        · exact ⟨sorted, fun part member => ⟨by have := bounds part member; omega,
            (bounds part member).2⟩, total⟩
      · rintro ⟨sorted, bounds, total⟩
        cases parts with
        | nil => exact (nonzero total.symm).elim
        | cons head rest =>
            obtain ⟨above, sorted⟩ := List.pairwise_cons.mp sorted
            by_cases same : head = least
            · subst same
              refine Or.inl ⟨rest, (ihTake positive).mpr ⟨sorted, fun part inside =>
                bounds part (List.mem_cons_of_mem _ inside), ?_⟩, rfl⟩
              rw [List.sum_cons] at total
              omega
            · refine Or.inr ⟨List.pairwise_cons.mpr ⟨above, sorted⟩, fun part member =>
                ⟨?_, (bounds part member).2⟩, total⟩
              have first := (bounds head List.mem_cons_self).1
              rcases List.mem_cons.mp member with rfl | inside
              · omega
              · have := above part inside
                omega

/-! ## The loop computes the enumeration -/

section Loop

variable {limit : Int}

/-- Every frame of the loop has this maximal part size. -/
def CombinationFrame.explore (limit remaining least selected : Int) : CombinationFrame :=
  ⟨remaining, least, min remaining limit, selected⟩

private theorem combinationLoop_succ {fuel : Nat} {combinationMap : CombinationMap}
    {parts : List Int} {frame : CombinationFrame} {rest : List CombinationFrame} :
    combinationLoop limit (fuel + 1) ⟨combinationMap, parts, frame :: rest⟩ =
      combinationLoop limit fuel (combinationStep limit ⟨combinationMap, parts, frame :: rest⟩) :=
  rfl

private theorem combinationLoop_empty {fuel : Nat} {combinationMap : CombinationMap}
    {parts : List Int} :
    combinationLoop limit fuel ⟨combinationMap, parts, []⟩ = ⟨combinationMap, parts, []⟩ := by
  cases fuel <;> rfl

/-- Leaving a frame drops the part that was selected for it, whatever lies below. -/
private theorem leave_selected {remaining least selected : Int} (positive : 0 < selected)
    (parts : List Int) :
    (CombinationFrame.explore limit remaining least selected).leave (parts ++ [selected]) =
      parts := by
  simp [CombinationFrame.leave, CombinationFrame.explore, positive]

/-- A frame is explored in a bounded number of iterations. Meanwhile exactly the
enumerated completions of the selected parts are recorded, in their order. -/
theorem combinationLoop_explore {remaining least : Int} (positive : 0 < least)
    (nonneg : 0 ≤ remaining) (selected : Int) (combinationMap : CombinationMap)
    (parts : List Int) (rest : List CombinationFrame) :
    ∃ iterations, iterations + 1 ≤ 2 ^ ((remaining + 1 - least).toNat + 1) ∧ ∀ fuel,
      combinationLoop limit (iterations + fuel)
          ⟨combinationMap, parts, .explore limit remaining least selected :: rest⟩ =
        combinationLoop limit fuel
          ⟨((enumerateParts limit remaining least).map (parts ++ ·)).foldl recordCombination
              combinationMap,
            (CombinationFrame.explore limit remaining least selected).leave parts, rest⟩ := by
  induction remaining, least using enumerateParts.induct limit
    generalizing selected combinationMap parts rest with
  | case1 least =>
      refine ⟨1, by have := Nat.one_le_two_pow (n := (0 + 1 - least).toNat); omega,
        fun fuel => ?_⟩
      rw [Nat.add_comm, combinationLoop_succ, enumerateParts_zero]
      simp [combinationStep, CombinationFrame.explore, CombinationFrame.leave]
  | case2 remaining least nonzero stop =>
      refine ⟨1, by have := Nat.one_le_two_pow (n := (remaining + 1 - least).toNat); omega,
        fun fuel => ?_⟩
      have exhausted : min remaining limit < least := by omega
      rw [Nat.add_comm, combinationLoop_succ, enumerateParts_of_exhausted nonzero stop]
      simp [combinationStep, CombinationFrame.explore, CombinationFrame.leave, nonzero, exhausted]
  | case3 remaining least nonzero continues ihTake ihSkip =>
      have fits : least ≤ min remaining limit := by omega
      obtain ⟨taking, takingBound, take⟩ := ihTake positive (by omega) least combinationMap
        (parts ++ [least]) (.explore limit remaining (least + 1) selected :: rest)
      obtain ⟨skipping, skippingBound, skip⟩ := ihSkip (by omega) nonneg selected
        (((enumerateParts limit (remaining - least) least).map ((parts ++ [least]) ++ ·)).foldl
          recordCombination combinationMap) parts rest
      refine ⟨1 + taking + skipping, ?_, fun fuel => ?_⟩
      · have takingBound' : taking + 1 ≤ 2 ^ ((remaining - least).toNat + 1) :=
          takingBound.trans (Nat.pow_le_pow_right (by decide) (by omega))
        have skippingBound' : skipping + 1 ≤ 2 ^ ((remaining - least).toNat + 1) :=
          skippingBound.trans (Nat.pow_le_pow_right (by decide) (by omega))
        have split : (remaining + 1 - least).toNat = (remaining - least).toNat + 1 := by omega
        rw [split, pow_succ _ ((remaining - least).toNat + 1)]
        omega
      · have enter : combinationStep limit
            ⟨combinationMap, parts, .explore limit remaining least selected :: rest⟩ =
            ⟨combinationMap, parts ++ [least], .explore limit (remaining - least) least least ::
              .explore limit remaining (least + 1) selected :: rest⟩ := by
          simp [combinationStep, CombinationFrame.explore, nonzero, not_lt.mpr fits]
        rw [show 1 + taking + skipping + fuel = taking + (skipping + fuel) + 1 by omega,
          combinationLoop_succ, enter, take, leave_selected positive, skip,
          enumerateParts_of_fits positive fits]
        simp [CombinationFrame.leave, CombinationFrame.explore, List.map_map,
          Function.comp_def, List.foldl_append]

end Loop

/-- **The loop terminates with every combination recorded.** -/
theorem combinationLoop_finishes {matchPlayerCount limit : Int} (positive : 0 < matchPlayerCount) :
    combinationLoop limit (2 ^ (matchPlayerCount.toNat + 1))
        (initialCombinationState matchPlayerCount limit) =
      ⟨(enumerateParts limit matchPlayerCount 1).foldl recordCombination OrderedMap.empty,
        [], []⟩ := by
  obtain ⟨iterations, bound, explored⟩ := combinationLoop_explore
    Int.zero_lt_one positive.le 0 OrderedMap.empty [] []
  have enough : iterations ≤ 2 ^ (matchPlayerCount.toNat + 1) := by
    rw [Int.add_sub_cancel] at bound
    omega
  have split := explored (2 ^ (matchPlayerCount.toNat + 1) - iterations)
  rw [Nat.add_sub_cancel' enough, combinationLoop_empty] at split
  rw [initialCombinationState]
  simpa [CombinationFrame.explore, CombinationFrame.leave] using split

/-! ## Lookups in the combination map -/

theorem find?_groupedCombination (parts : List Int) (playerCount : Int) :
    (groupedCombination parts).find? playerCount =
      if playerCount ∈ parts then some (parts.count playerCount : Int) else none := by
  induction parts using List.reverseRecOn with
  | nil => rfl
  | append_singleton parts last ih =>
      have unfolded : groupedCombination (parts ++ [last]) =
          (groupedCombination parts).insertOrAssign last
            (((groupedCombination parts).find? last).getD 0 + 1) := by
        simp [groupedCombination]
      rw [unfolded, OrderedMap.find?_insertOrAssign]
      by_cases same : playerCount = last
      · subst same
        simp only [ih, if_true, List.mem_append, List.mem_singleton, or_true,
          List.count_append, List.count_singleton_self]
        split_ifs with inside
        · simp
        · simp [List.count_eq_zero_of_not_mem inside]
      · simp [ih, same, Ne.symm same]

theorem mem_keys_groupedCombination {parts : List Int} {playerCount : Int} :
    playerCount ∈ (groupedCombination parts).keys ↔ playerCount ∈ parts := by
  simp [OrderedMap.mem_keys_iff, find?_groupedCombination]

private theorem find?_foldl_append {combination : GroupedCombination} {keys : List Int}
    (nodup : keys.Nodup) (combinationMap : CombinationMap) (playerCount : Int) :
    (keys.foldl (fun combinationMap key => combinationMap.insertOrAssign key
        ((combinationMap.find? key).getD [] ++ [combination])) combinationMap).find? playerCount =
      if playerCount ∈ keys then some ((combinationMap.find? playerCount).getD [] ++ [combination])
      else combinationMap.find? playerCount := by
  induction keys generalizing combinationMap with
  | nil => rfl
  | cons head rest ih =>
      obtain ⟨outside, distinct⟩ := List.nodup_cons.mp nodup
      rw [List.foldl_cons, ih distinct]
      by_cases same : playerCount = head
      · subst same
        simp [outside]
      · simp [same]

theorem find?_recordCombination (combinationMap : CombinationMap) (parts : List Int)
    (playerCount : Int) :
    (recordCombination combinationMap parts).find? playerCount =
      if playerCount ∈ parts then
        some ((combinationMap.find? playerCount).getD [] ++ [groupedCombination parts])
      else combinationMap.find? playerCount := by
  simp only [recordCombination, find?_foldl_append (OrderedMap.keys_nodup _),
    mem_keys_groupedCombination]

private theorem find?_foldl_record (sequences : List (List Int)) (combinationMap : CombinationMap)
    (playerCount : Int) :
    (sequences.foldl recordCombination combinationMap).find? playerCount =
      if ∃ parts ∈ sequences, playerCount ∈ parts then
        some ((combinationMap.find? playerCount).getD [] ++
          (sequences.filter (playerCount ∈ ·)).map groupedCombination)
      else combinationMap.find? playerCount := by
  induction sequences generalizing combinationMap with
  | nil => simp
  | cons parts rest ih =>
      rw [List.foldl_cons, ih, find?_recordCombination]
      by_cases used : playerCount ∈ parts
      · by_cases later : ∃ parts ∈ rest, playerCount ∈ parts
        · simp [used, later]
        · have none : rest.filter (playerCount ∈ ·) = [] := by
            simpa [List.filter_eq_nil_iff] using later
          simp [used, later, none]
      · simp [used]

/-- **The combinations of a rule.** Under each party size stand the enumerated
combinations that use it. -/
theorem find?_makeCombination {matchPlayerCount limit : Int} (players : 0 < matchPlayerCount)
    (parties : 0 < limit) (playerCount : Int) :
    (makeCombination matchPlayerCount limit).find? playerCount =
      if ∃ parts ∈ enumerateParts limit matchPlayerCount 1, playerCount ∈ parts then
        some (((enumerateParts limit matchPlayerCount 1).filter (playerCount ∈ ·)).map
          groupedCombination)
      else none := by
  rw [makeCombination, if_neg (by omega), combinationLoop_finishes players, find?_foldl_record]
  simp

theorem find?_makeCombination_of_nonpos {matchPlayerCount limit : Int}
    (guard : matchPlayerCount ≤ 0 ∨ limit ≤ 0) (playerCount : Int) :
    (makeCombination matchPlayerCount limit).find? playerCount = none := by
  rw [makeCombination, if_pos guard, OrderedMap.find?_empty]

/-- A rule that admits some party size fills matches of at least one player. -/
theorem matchPlayerCount_pos_of_contains {rule : MatchmakingRule} {playerCount : Int}
    (admitted : rule.combination.contains playerCount = true) : 0 < rule.matchPlayerCount := by
  by_contra guard
  rw [MatchmakingRule.combination, OrderedMap.contains,
    find?_makeCombination_of_nonpos (Or.inl (not_lt.mp guard))] at admitted
  cases admitted

/-- Only parties of at least one player take part in a combination. -/
theorem pos_of_contains {rule : MatchmakingRule} {playerCount : Int}
    (admitted : rule.combination.contains playerCount = true) : 0 < playerCount := by
  obtain ⟨combination, found⟩ := OrderedMap.contains_iff.mp admitted
  rw [MatchmakingRule.combination] at found
  by_cases guard : rule.matchPlayerCount ≤ 0 ∨ rule.partyAvailablePlayerCount ≤ 0
  · rw [find?_makeCombination_of_nonpos guard] at found
    cases found
  · rw [find?_makeCombination (by omega) (by omega)] at found
    split_ifs at found with used
    obtain ⟨parts, enumerated, inside⟩ := used
    exact ((mem_enumerateParts Int.zero_lt_one).mp enumerated).2.1 _ inside |>.1

end MatchmakingMvp
