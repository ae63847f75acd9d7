import Mathlib.Algebra.BigOperators.Group.Finset.Basic
import Mathlib.Algebra.Order.BigOperators.Group.Finset
import Mathlib.Algebra.BigOperators.Intervals
import Mathlib.Algebra.Ring.GeomSum
import Mathlib.Combinatorics.Pigeonhole
import Mathlib.Data.Nat.GCD.Basic
import Mathlib.Tactic.Common
import Mathlib.Tactic.Linarith
import Mathlib.Tactic.Ring

/-! # Splitting off a full pack

Items have sizes between one and a limit, and every such size divides the size of a
pack. Then from any items that fill a whole number of packs, some items fill exactly
one (`Foundation.exists_pack`).

Either one size occurs often enough to top up whatever the other items leave open, or
every size is rare and the items together fill a single pack.
-/

namespace Foundation

variable {Item : Type} [DecidableEq Item] {items : Finset Item} {size : Item → Nat}

/-! ## Bundles divisible by a size -/

/-- Two prefixes of as many numbers as the modulus leave the same remainder. -/
private theorem exists_prefixes_modEq {modulus : Nat} (positive : 0 < modulus)
    (values : List Nat) :
    ∃ first second, first < second ∧ second ≤ modulus ∧
      (values.take first).sum ≡ (values.take second).sum [MOD modulus] := by
  have fewer : (Finset.range modulus).card < (Finset.range (modulus + 1)).card := by
    simp only [Finset.card_range]
    omega
  obtain ⟨first, inFirst, second, inSecond, different, same⟩ :=
    Finset.exists_ne_map_eq_of_card_lt_of_maps_to fewer
      (f := fun count => (values.take count).sum % modulus)
      fun _ _ => Finset.mem_range.mpr (Nat.mod_lt _ positive)
  rw [Finset.mem_range] at inFirst inSecond
  rcases different.lt_or_gt with before | after
  · exact ⟨first, second, before, by omega, same⟩
  · exact ⟨second, first, after, by omega, same.symm⟩

/-- Among as many items as the modulus, some nonempty bundle of no more items has a size
divisible by it. -/
theorem exists_bundle {modulus : Nat} (positive : 0 < modulus) (size : Item → Nat)
    (enough : modulus ≤ items.card) :
    ∃ bundle ⊆ items, bundle.Nonempty ∧ bundle.card ≤ modulus ∧
      modulus ∣ ∑ item ∈ bundle, size item := by
  obtain ⟨first, second, before, bounded, same⟩ :=
    exists_prefixes_modEq positive (items.toList.map size)
  have nodup : ((items.toList.take second).drop first).Nodup :=
    (items.nodup_toList.sublist (List.take_sublist _ _)).sublist (List.drop_sublist _ _)
  have length : ((items.toList.take second).drop first).length = second - first := by
    rw [List.length_drop, List.length_take, Finset.length_toList]
    omega
  refine ⟨((items.toList.take second).drop first).toFinset, ?_, ?_, ?_, ?_⟩
  · intro item inside
    exact Finset.mem_toList.mp (List.mem_of_mem_take
      (List.mem_of_mem_drop (List.mem_toFinset.mp inside)))
  · refine List.toFinset_nonempty_iff _ |>.mpr fun empty => ?_
    rw [empty, List.length_nil] at length
    omega
  · rw [List.toFinset_card_of_nodup nodup, length]
    omega
  · rw [List.sum_toFinset _ nodup]
    have split : ((items.toList.map size).take second).sum =
        ((items.toList.map size).take first).sum +
          (((items.toList.take second).drop first).map size).sum := by
      have parts := List.take_append_drop first (items.toList.take second)
      rw [List.take_take, min_eq_left before.le] at parts
      rw [← List.map_take, ← List.map_take, ← List.sum_append, ← List.map_append, parts]
    rw [split] at same
    exact (Nat.modEq_zero_iff_dvd).mp
      (Nat.ModEq.add_left_cancel' _ (same.symm.trans (Nat.add_zero _ ▸ Nat.ModEq.refl _)))

/-- Items whose sizes add up to a multiple have a bundle, however few they are. -/
theorem exists_bundle_of_dvd {modulus : Nat} (positive : 0 < modulus)
    (nonempty : items.Nonempty) (whole : modulus ∣ ∑ item ∈ items, size item) :
    ∃ bundle ⊆ items, bundle.Nonempty ∧ bundle.card ≤ modulus ∧
      modulus ∣ ∑ item ∈ bundle, size item := by
  rcases le_total modulus items.card with enough | few
  · exact exists_bundle positive size enough
  · exact ⟨items, Finset.Subset.refl _, nonempty, few, whole⟩

/-! ## A frequent size -/

section Frequent

variable {common pack limit : Nat}

omit [DecidableEq Item] in
theorem sum_common (items : Finset Item) (size : Item → Nat) (common : Nat) :
    ∑ item ∈ items with size item = common, size item =
      (items.filter (size · = common)).card * common :=
  Finset.sum_const_nat fun _ inside => (Finset.mem_filter.mp inside).2

/-- Items of one size fill what a choice among the others leaves open. -/
private theorem exists_pack_of_open (positive : 0 < common) {chosen : Finset Item}
    (others : chosen ⊆ items.filter (size · ≠ common))
    (fits : ∑ item ∈ chosen, size item ≤ pack)
    (divides : common ∣ pack - ∑ item ∈ chosen, size item)
    (enough : pack - ∑ item ∈ chosen, size item ≤
      (items.filter (size · = common)).card * common) :
    ∃ part ⊆ items, ∑ item ∈ part, size item = pack := by
  obtain ⟨copies, left⟩ := divides
  have present : copies ≤ (items.filter (size · = common)).card := by
    rw [left, mul_comm] at enough
    exact Nat.le_of_mul_le_mul_right enough positive
  obtain ⟨top, among, count⟩ := Finset.exists_subset_card_eq present
  have sized : ∑ item ∈ top, size item = copies * common := by
    rw [← count]
    exact Finset.sum_const_nat fun _ inside => (Finset.mem_filter.mp (among inside)).2
  have apart : Disjoint chosen top := by
    refine Finset.disjoint_left.mpr fun item inside added => ?_
    exact (Finset.mem_filter.mp (others inside)).2 (Finset.mem_filter.mp (among added)).2
  refine ⟨chosen ∪ top, ?_, ?_⟩
  · exact Finset.union_subset (others.trans (Finset.filter_subset _ _))
      (among.trans (Finset.filter_subset _ _))
  · rw [Finset.sum_union apart, sized, mul_comm, ← left]
    omega

/-- **A frequent size.** If one size occurs almost as often as the limit, a largest
divisible choice among the other items leaves less open than items of that size fill. -/
theorem exists_pack_of_frequent (positive : 0 < common) (divides : common ∣ pack)
    (sized : ∀ item ∈ items, 1 ≤ size item ∧ size item ≤ limit)
    (frequent : limit ≤ (items.filter (size · = common)).card + 1)
    (whole : pack ∣ ∑ item ∈ items, size item) (full : pack ≤ ∑ item ∈ items, size item) :
    ∃ part ⊆ items, ∑ item ∈ part, size item = pack := by
  have total := Finset.sum_filter_add_sum_filter_not items (size · = common) size
  rw [sum_common] at total
  set others := items.filter (size · ≠ common) with othersOf
  obtain ⟨chosen, candidate, largest⟩ := Finset.exists_max_image
    (others.powerset.filter fun part =>
      common ∣ ∑ item ∈ part, size item ∧ ∑ item ∈ part, size item ≤ pack)
    (fun part => ∑ item ∈ part, size item) ⟨∅, by simp⟩
  simp only [Finset.mem_filter, Finset.mem_powerset] at candidate largest
  obtain ⟨among, divisible, fits⟩ := candidate
  refine exists_pack_of_open positive among fits (Nat.dvd_sub divides divisible) ?_
  have left := Finset.sum_sdiff (f := size) among
  rcases (others \ chosen).eq_empty_or_nonempty with none | some
  · rw [none, Finset.sum_empty] at left
    omega
  · have wholeLeft : common ∣ ∑ item ∈ others \ chosen, size item := by
      have all : common ∣ ∑ item ∈ others, size item :=
        (Nat.dvd_add_right (Nat.dvd_mul_left common _)).mp (total ▸ divides.trans whole)
      exact (Nat.dvd_add_left divisible).mp (left ▸ all)
    obtain ⟨bundle, inside, nonempty, few, dvd⟩ := exists_bundle_of_dvd positive some wholeLeft
    have mine : ∀ item ∈ bundle, item ∈ items := fun item member =>
      Finset.mem_of_mem_filter _ (Finset.sdiff_subset (inside member))
    have apart : Disjoint chosen bundle :=
      Finset.disjoint_left.mpr fun item first second =>
        (Finset.mem_sdiff.mp (inside second)).2 first
    have added := Finset.sum_union (f := size) apart
    have grows : 0 < ∑ item ∈ bundle, size item :=
      Finset.sum_pos (fun item member => (sized item (mine item member)).1) nonempty
    have bounded : ∑ item ∈ bundle, size item ≤ common * limit := by
      refine (Finset.sum_le_card_nsmul _ _ _ fun item member =>
        (sized item (mine item member)).2).trans ?_
      exact Nat.mul_le_mul_right _ few
    -- a divisible choice that is larger does not fit any more
    have exceeds : pack < ∑ item ∈ chosen, size item + ∑ item ∈ bundle, size item := by
      by_contra within
      have larger := largest (chosen ∪ bundle)
        ⟨Finset.union_subset among (inside.trans Finset.sdiff_subset),
          added ▸ dvd_add divisible dvd, by omega⟩
      omega
    obtain ⟨copies, rest⟩ := Nat.dvd_sub divides divisible
    rw [rest, mul_comm]
    refine Nat.mul_le_mul_right _ ?_
    have fewer : common * copies < common * limit := by omega
    have := Nat.lt_of_mul_lt_mul_left fewer
    omega

end Frequent

/-! ## Rare sizes -/

omit [DecidableEq Item] in
/-- Items of which every size is rare have a small total. -/
theorem sum_le_of_rare {limit bound : Nat} (sized : ∀ item ∈ items, size item ≤ limit)
    (rare : ∀ common, (items.filter (size · = common)).card ≤ bound) :
    (∑ item ∈ items, size item) * 2 ≤ bound * ((limit + 1) * limit) := by
  have fibers := Finset.sum_fiberwise_of_maps_to (s := items) (t := Finset.range (limit + 1))
    (g := size) (fun item inside => Finset.mem_range.mpr (Nat.lt_succ_of_le (sized item inside)))
    size
  have bounded :
      ∑ item ∈ items, size item ≤ bound * ∑ common ∈ Finset.range (limit + 1), common := by
    rw [← fibers, Finset.mul_sum]
    refine Finset.sum_le_sum fun common _ => ?_
    rw [sum_common]
    exact Nat.mul_le_mul_right _ (rare common)
  have gauss := Finset.sum_range_id_mul_two (limit + 1)
  rw [Nat.add_sub_cancel] at gauss
  rw [← gauss, ← mul_assoc]
  exact Nat.mul_le_mul_right _ bounded

/-- The product of three numbers in a row divides twice each of their common multiples. -/
theorem three_dvd_two_mul {number pack : Nat} (first : number ∣ pack) (second : number + 1 ∣ pack)
    (third : number + 2 ∣ pack) : number * ((number + 1) * (number + 2)) ∣ 2 * pack := by
  have last : (number + 1) * (number + 2) ∣ pack :=
    Nat.Coprime.mul_dvd_of_dvd_of_dvd (Nat.coprime_self_add_right.mpr (Nat.coprime_one_right _))
      second third
  have shared : number.gcd ((number + 1) * (number + 2)) ∣ 2 := by
    rw [Nat.Coprime.gcd_mul_left_cancel_right _ (by simp)]
    simp only [Nat.gcd_self_add_right]
    exact Nat.gcd_dvd_right _ _
  rw [← Nat.gcd_mul_lcm]
  exact mul_dvd_mul shared (Nat.lcm_dvd first last)

/-- The total of rare sizes is below two packs. -/
theorem lt_two_mul_of_rare {pack bound total : Nat} (positive : 0 < pack)
    (divides : ∀ common, 1 ≤ common → common ≤ bound + 2 → common ∣ pack)
    (small : total * 2 ≤ bound * ((bound + 2 + 1) * (bound + 2))) : total < 2 * pack := by
  match bound with
  | 0 => omega
  | 1 =>
      have two := divides 2 (by decide) (by decide)
      have three := divides 3 (by decide) (by decide)
      omega
  | rest + 2 =>
      have dvd := three_dvd_two_mul (divides (rest + 2) (by omega) (by omega))
        (divides (rest + 2 + 1) (by omega) (by omega)) (divides (rest + 2 + 2) (by omega) le_rfl)
      have least := Nat.le_of_dvd (by omega) dvd
      have wider : (rest + 2) * ((rest + 2 + 2 + 1) * (rest + 2 + 2)) <
          (rest + 2) * ((rest + 2 + 1) * (rest + 2 + 2)) * 2 := by
        rw [mul_assoc]
        refine Nat.mul_lt_mul_of_pos_left ?_ (by omega)
        rw [mul_right_comm]
        exact Nat.mul_lt_mul_of_pos_right (by omega) (by omega)
      omega

/-- **Splitting off a full pack.** If every size up to the limit divides the pack, some
of the items fill exactly one. -/
theorem exists_pack {pack : Nat} (limit : Nat) (positive : 0 < pack)
    (divides : ∀ common, 1 ≤ common → common ≤ limit → common ∣ pack)
    (sized : ∀ item ∈ items, 1 ≤ size item ∧ size item ≤ limit)
    (nonempty : items.Nonempty) (whole : pack ∣ ∑ item ∈ items, size item) :
    ∃ part ⊆ items, ∑ item ∈ part, size item = pack := by
  have some : 0 < ∑ item ∈ items, size item :=
    Finset.sum_pos (fun item inside => (sized item inside).1) nonempty
  by_cases frequent : ∃ common, 1 ≤ common ∧ common ≤ limit ∧
      limit ≤ (items.filter (size · = common)).card + 1
  · obtain ⟨common, least, most, many⟩ := frequent
    exact exists_pack_of_frequent least (divides common least most) sized many whole
      (Nat.le_of_dvd some whole)
  · have rare := not_exists.mp frequent
    have single := rare 1
    have short : 1 ≤ limit := by
      obtain ⟨item, inside⟩ := nonempty
      exact (sized item inside).1.trans (sized item inside).2
    obtain ⟨bound, rfl⟩ : ∃ bound, limit = bound + 2 := ⟨limit - 2, by omega⟩
    have few : ∀ common, (items.filter (size · = common)).card ≤ bound := by
      intro common
      by_cases inRange : 1 ≤ common ∧ common ≤ bound + 2
      · have := rare common
        omega
      · have outside : ∀ item ∈ items, size item ≠ common := by
          rintro item inside rfl
          exact inRange (sized item inside)
        rw [Finset.filter_false_of_mem outside]
        exact Nat.zero_le _
    have below := lt_two_mul_of_rare positive divides
      (sum_le_of_rare (fun item inside => (sized item inside).2) few)
    obtain ⟨packs, filled⟩ := whole
    have one : packs = 1 := by
      rw [filled, mul_comm 2] at below
      have less := Nat.lt_of_mul_lt_mul_left below
      have more : packs ≠ 0 := by
        rintro rfl
        omega
      omega
    exact ⟨items, Finset.Subset.refl _, by rw [filled, one, mul_one]⟩

end Foundation
