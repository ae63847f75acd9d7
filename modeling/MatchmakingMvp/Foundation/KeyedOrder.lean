import Mathlib.Algebra.Order.BigOperators.Group.Finset
import Mathlib.Algebra.Order.BigOperators.Group.List
import Mathlib.Algebra.Order.Ring.Int
import Mathlib.Data.Set.Defs
import Mathlib.Order.Compare
import Mathlib.Tactic.Common

/-! # Comparing by a key that not every item has

Two items that both have a key are compared by their keys, and otherwise by their fields
(`Foundation.compareKeyed`). Such a comparison mixes two orders. It is a weak ordering of
a set of items exactly if an item without a key never lies, by its fields, between two
items that their keys order differently (`Foundation.weaklyOrders_compareKeyed_iff`).
-/

namespace Foundation

variable {Item Key Field : Type}

/-- A comparison orders the items of a set weakly: it is antisymmetric, and both "less"
and "equivalent" are transitive. -/
structure WeaklyOrders (comparison : Item → Item → Ordering) (items : Set Item) : Prop where
  swapped : ∀ first ∈ items, ∀ second ∈ items,
    comparison first second = .lt ↔ comparison second first = .gt
  lt_trans : ∀ first ∈ items, ∀ second ∈ items, ∀ third ∈ items,
    comparison first second = .lt → comparison second third = .lt → comparison first third = .lt
  eq_trans : ∀ first ∈ items, ∀ second ∈ items, ∀ third ∈ items,
    comparison first second = .eq → comparison second third = .eq → comparison first third = .eq

namespace WeaklyOrders

variable {comparison : Item → Item → Ordering} {items : Set Item} {first second third : Item}

theorem eq_symm (weak : WeaklyOrders comparison items) (inFirst : first ∈ items)
    (inSecond : second ∈ items) (same : comparison first second = .eq) :
    comparison second first = .eq := by
  cases other : comparison second first with
  | eq => rfl
  | lt => rw [(weak.swapped second inSecond first inFirst).mp other] at same; cases same
  | gt => rw [(weak.swapped first inFirst second inSecond).mpr other] at same; cases same

/-- A less item is less than what is equivalent to the greater one. -/
theorem lt_of_lt_of_eq (weak : WeaklyOrders comparison items) (inFirst : first ∈ items)
    (inSecond : second ∈ items) (inThird : third ∈ items)
    (less : comparison first second = .lt) (same : comparison second third = .eq) :
    comparison first third = .lt := by
  have back := weak.eq_symm inSecond inThird same
  cases other : comparison first third with
  | lt => rfl
  | eq =>
      have wrong := weak.eq_trans first inFirst third inThird second inSecond other back
      rw [less] at wrong
      cases wrong
  | gt =>
      have reversed := (weak.swapped third inThird first inFirst).mpr other
      have wrong := weak.lt_trans third inThird first inFirst second inSecond reversed less
      rw [back] at wrong
      cases wrong

theorem lt_of_eq_of_lt (weak : WeaklyOrders comparison items) (inFirst : first ∈ items)
    (inSecond : second ∈ items) (inThird : third ∈ items)
    (same : comparison first second = .eq) (less : comparison second third = .lt) :
    comparison first third = .lt := by
  have back := weak.eq_symm inFirst inSecond same
  cases other : comparison first third with
  | lt => rfl
  | eq =>
      have wrong := weak.eq_trans second inSecond first inFirst third inThird back other
      rw [less] at wrong
      cases wrong
  | gt =>
      have reversed := (weak.swapped third inThird first inFirst).mpr other
      have wrong := weak.lt_trans second inSecond third inThird first inFirst less reversed
      rw [back] at wrong
      cases wrong

end WeaklyOrders

section Keyed

variable [LinearOrder Key] [LinearOrder Field] (key : Item → Option Key) (field : Item → Field)

/-- Compare by the keys if both items have one, and by the fields otherwise. -/
def compareKeyed (first second : Item) : Ordering :=
  match key first, key second with
  | some firstKey, some secondKey => compare firstKey secondKey
  | _, _ => compare (field first) (field second)

variable {key field} {first second : Item}

theorem compareKeyed_of_keys {firstKey secondKey : Key} (keyed : key first = some firstKey)
    (other : key second = some secondKey) :
    compareKeyed key field first second = compare firstKey secondKey := by
  rw [compareKeyed, keyed, other]

theorem compareKeyed_of_none (unkeyed : key first = none ∨ key second = none) :
    compareKeyed key field first second = compare (field first) (field second) := by
  rw [compareKeyed]
  rcases unkeyed with none | none
  · rw [none]
  · cases key first <;> rw [none]

theorem compareKeyed_swap (first second : Item) :
    (compareKeyed key field first second).swap = compareKeyed key field second first := by
  rw [compareKeyed, compareKeyed]
  cases key first with
  | none => cases key second <;> exact Std.OrientedOrd.eq_swap.symm
  | some firstKey => cases key second <;> exact Std.OrientedOrd.eq_swap.symm

/-- The keys order two items as their fields do, whenever some item without a key lies
between them. -/
def Agreeing (key : Item → Option Key) (field : Item → Field) (items : Set Item) : Prop :=
  ∀ low ∈ items, ∀ middle ∈ items, ∀ high ∈ items, ∀ lowKey highKey,
    key low = some lowKey → key middle = none → key high = some highKey →
    field low ≤ field middle → field middle ≤ field high →
    compare lowKey highKey = compare (field low) (field high)

theorem WeaklyOrders.agreeing {items : Set Item}
    (weak : WeaklyOrders (compareKeyed key field) items) : Agreeing key field items := by
  intro low inLow middle inMiddle high inHigh lowKey highKey lowKeyed unkeyed highKeyed below above
  have first : compareKeyed key field low middle = compare (field low) (field middle) :=
    compareKeyed_of_none (Or.inr unkeyed)
  have second : compareKeyed key field middle high = compare (field middle) (field high) :=
    compareKeyed_of_none (Or.inl unkeyed)
  have keyed : compareKeyed key field low high = compare lowKey highKey :=
    compareKeyed_of_keys lowKeyed highKeyed
  rw [← keyed]
  rcases below.lt_or_eq with less | same
  · rw [compare_lt_iff_lt.mpr (less.trans_le above)]
    rw [compare_lt_iff_lt.mpr less] at first
    rcases above.lt_or_eq with more | level
    · rw [compare_lt_iff_lt.mpr more] at second
      exact weak.lt_trans low inLow middle inMiddle high inHigh first second
    · rw [compare_eq_iff_eq.mpr level] at second
      exact weak.lt_of_lt_of_eq inLow inMiddle inHigh first second
  · rw [compare_eq_iff_eq.mpr same] at first
    rw [same]
    rcases above.lt_or_eq with more | level
    · rw [compare_lt_iff_lt.mpr more] at second ⊢
      exact weak.lt_of_eq_of_lt inLow inMiddle inHigh first second
    · rw [compare_eq_iff_eq.mpr level] at second ⊢
      exact weak.eq_trans low inLow middle inMiddle high inHigh first second

section Agreeing

variable {items : Set Item} {third : Item} (agreeing : Agreeing key field items)
  (inFirst : first ∈ items) (inSecond : second ∈ items) (inThird : third ∈ items)

include agreeing inFirst inSecond inThird

theorem Agreeing.lt_trans (before : compareKeyed key field first second = .lt)
    (after : compareKeyed key field second third = .lt) :
    compareKeyed key field first third = .lt := by
  cases keyFirst : key first with
  | none =>
      rw [compareKeyed_of_none (Or.inl keyFirst), compare_lt_iff_lt] at before ⊢
      cases keySecond : key second with
      | none =>
          rw [compareKeyed_of_none (Or.inl keySecond), compare_lt_iff_lt] at after
          exact before.trans after
      | some secondKey =>
          cases keyThird : key third with
          | none =>
              rw [compareKeyed_of_none (Or.inr keyThird), compare_lt_iff_lt] at after
              exact before.trans after
          | some thirdKey =>
              -- the third item cannot lie at or below the first, on the other side of the second
              rw [compareKeyed_of_keys keySecond keyThird, compare_lt_iff_lt] at after
              by_contra above
              have order := agreeing third inThird first inFirst second inSecond _ _ keyThird
                keyFirst keySecond (not_lt.mp above) before.le
              rw [compare_lt_iff_lt.mpr ((not_lt.mp above).trans_lt before),
                compare_lt_iff_lt] at order
              exact order.asymm after
  | some firstKey =>
      cases keySecond : key second with
      | none =>
          rw [compareKeyed_of_none (Or.inr keySecond), compare_lt_iff_lt] at before
          rw [compareKeyed_of_none (Or.inl keySecond), compare_lt_iff_lt] at after
          cases keyThird : key third with
          | none =>
              rw [compareKeyed_of_none (Or.inr keyThird), compare_lt_iff_lt]
              exact before.trans after
          | some thirdKey =>
              rw [compareKeyed_of_keys keyFirst keyThird, agreeing first inFirst second inSecond
                third inThird _ _ keyFirst keySecond keyThird before.le after.le,
                compare_lt_iff_lt]
              exact before.trans after
      | some secondKey =>
          rw [compareKeyed_of_keys keyFirst keySecond, compare_lt_iff_lt] at before
          cases keyThird : key third with
          | none =>
              rw [compareKeyed_of_none (Or.inr keyThird), compare_lt_iff_lt] at after ⊢
              by_contra above
              have order := agreeing second inSecond third inThird first inFirst _ _ keySecond
                keyThird keyFirst after.le (not_lt.mp above)
              rw [compare_lt_iff_lt.mpr (after.trans_le (not_lt.mp above)),
                compare_lt_iff_lt] at order
              exact order.asymm before
          | some thirdKey =>
              rw [compareKeyed_of_keys keySecond keyThird, compare_lt_iff_lt] at after
              rw [compareKeyed_of_keys keyFirst keyThird, compare_lt_iff_lt]
              exact before.trans after

theorem Agreeing.eq_trans (before : compareKeyed key field first second = .eq)
    (after : compareKeyed key field second third = .eq) :
    compareKeyed key field first third = .eq := by
  cases keyFirst : key first with
  | none =>
      rw [compareKeyed_of_none (Or.inl keyFirst), compare_eq_iff_eq] at before ⊢
      cases keySecond : key second with
      | none =>
          rw [compareKeyed_of_none (Or.inl keySecond), compare_eq_iff_eq] at after
          exact before.trans after
      | some secondKey =>
          cases keyThird : key third with
          | none =>
              rw [compareKeyed_of_none (Or.inr keyThird), compare_eq_iff_eq] at after
              exact before.trans after
          | some thirdKey =>
              rw [compareKeyed_of_keys keySecond keyThird, compare_eq_iff_eq] at after
              rcases le_total (field first) (field third) with below | above
              · have order := agreeing second inSecond first inFirst third inThird _ _ keySecond
                  keyFirst keyThird before.ge below
                rw [compare_eq_iff_eq.mpr after, eq_comm, compare_eq_iff_eq] at order
                exact before.trans order
              · have order := agreeing third inThird first inFirst second inSecond _ _ keyThird
                  keyFirst keySecond above before.le
                rw [compare_eq_iff_eq.mpr after.symm, eq_comm, compare_eq_iff_eq] at order
                exact before.trans order.symm
  | some firstKey =>
      cases keySecond : key second with
      | none =>
          rw [compareKeyed_of_none (Or.inr keySecond), compare_eq_iff_eq] at before
          rw [compareKeyed_of_none (Or.inl keySecond), compare_eq_iff_eq] at after
          cases keyThird : key third with
          | none =>
              rw [compareKeyed_of_none (Or.inr keyThird), compare_eq_iff_eq]
              exact before.trans after
          | some thirdKey =>
              rw [compareKeyed_of_keys keyFirst keyThird, agreeing first inFirst second inSecond
                third inThird _ _ keyFirst keySecond keyThird before.le after.le,
                compare_eq_iff_eq]
              exact before.trans after
      | some secondKey =>
          rw [compareKeyed_of_keys keyFirst keySecond, compare_eq_iff_eq] at before
          cases keyThird : key third with
          | none =>
              rw [compareKeyed_of_none (Or.inr keyThird), compare_eq_iff_eq] at after ⊢
              rcases le_total (field first) (field third) with below | above
              · have order := agreeing first inFirst third inThird second inSecond _ _ keyFirst
                  keyThird keySecond below after.ge
                rw [compare_eq_iff_eq.mpr before, eq_comm, compare_eq_iff_eq] at order
                exact order.trans after
              · have order := agreeing second inSecond third inThird first inFirst _ _ keySecond
                  keyThird keyFirst after.le above
                rw [compare_eq_iff_eq.mpr before.symm, eq_comm, compare_eq_iff_eq] at order
                exact order.symm.trans after
          | some thirdKey =>
              rw [compareKeyed_of_keys keySecond keyThird, compare_eq_iff_eq] at after
              rw [compareKeyed_of_keys keyFirst keyThird, compare_eq_iff_eq]
              exact before.trans after

end Agreeing

/-- **A keyed comparison** orders a set of items weakly exactly if its keys and fields
agree around every item without a key. -/
theorem weaklyOrders_compareKeyed_iff {items : Set Item} :
    WeaklyOrders (compareKeyed key field) items ↔ Agreeing key field items := by
  refine ⟨WeaklyOrders.agreeing, fun agreeing => ⟨?_, ?_, ?_⟩⟩
  · intro first _ second _
    rw [← compareKeyed_swap first second]
    cases compareKeyed key field first second <;> decide
  · exact fun first inFirst second inSecond third inThird =>
      agreeing.lt_trans inFirst inSecond inThird
  · exact fun first inFirst second inSecond third inThird =>
      agreeing.eq_trans inFirst inSecond inThird

end Keyed

end Foundation
