import Mathlib.Order.Monotone.Basic
import Mathlib.Algebra.Order.Group.Nat
import Mathlib.Data.Nat.Init

/-! # Progress along infinite runs

A run that never gains rank and loses some again and again, until it is done, is done at some
point (`Foundation.exists_done_of_rank`). What is done and stays so holds from then on
(`Foundation.eventually_of_kept`).
-/

namespace Foundation

variable {State : Type} {run : Nat → State}

/-- What steps keep holds all along a run. -/
theorem forall_of_kept (invariant : State → Prop) (begins : invariant (run 0))
    (kept : ∀ round, invariant (run round) → invariant (run (round + 1))) (round : Nat) :
    invariant (run round) := by
  induction round with
  | zero => exact begins
  | succ round ih => exact kept round ih

/-- **Progress.** The rank never grows, and again and again a step lowers it or the run is
done. -/
theorem exists_done_of_rank (done : State → Prop) (rank : State → Nat)
    (nonincreasing : ∀ round, rank (run (round + 1)) ≤ rank (run round))
    (progress : ∀ round, ∃ later, round ≤ later ∧
      (done (run later) ∨ rank (run (later + 1)) < rank (run later))) (round : Nat) :
    ∃ later, round ≤ later ∧ done (run later) := by
  suffices ∀ bound round, rank (run round) = bound → ∃ later, round ≤ later ∧ done (run later) from
    this _ round rfl
  intro bound
  induction bound using Nat.strong_induction_on with
  | _ bound ih =>
      intro round ranked
      obtain ⟨later, after, finished | lower⟩ := progress round
      · exact ⟨later, after, finished⟩
      · have falls : Antitone fun round => rank (run round) :=
          antitone_nat_of_succ_le nonincreasing
        have less : rank (run (later + 1)) < bound :=
          lower.trans_le ((falls after).trans ranked.le)
        obtain ⟨last, follows, finished⟩ := ih _ less (later + 1) rfl
        exact ⟨last, by omega, finished⟩

/-- What is done once and stays so is done from then on. -/
theorem eventually_of_kept (done : State → Prop) {round : Nat} (finished : done (run round))
    (kept : ∀ later, round ≤ later → done (run later) → done (run (later + 1))) :
    ∀ later, round ≤ later → done (run later) := by
  intro later after
  induction later, after using Nat.le_induction with
  | base => exact finished
  | succ later after ih => exact kept later after ih

end Foundation
