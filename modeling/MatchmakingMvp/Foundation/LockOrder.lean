import Mathlib.Data.Finset.Insert
import Mathlib.Data.Prod.Lex
import Mathlib.Logic.Function.Basic
import Mathlib.Logic.Relation
import Mathlib.Order.OrderDual

/-! # Lock orders

Threads that run code of which only the use of mutexes is kept: which scopes hold a mutex, for
reading or for writing, and where another thread is joined. Every branch may be taken and every
loop may go on or end, so what holds of this code holds of every code with these scopes.

A lock order ranks the mutexes and the threads. Code keeps the order if every scope opens on a
mutex of higher rank than all that are held, except where a mutex is recursive, or where it is
read already and a guard keeps the writers away, and if threads are joined with no mutex held.
Threads whose code keeps a lock order never wait in a circle
(`Foundation.LockOrder.Reached.acyclic`), also where no reader may pass a writer that waits.
-/

namespace Foundation

/-- How a scope holds its mutex. -/
inductive LockMode
  | shared
  | exclusive
deriving DecidableEq

/-- Two scopes cannot hold one mutex at the same time. -/
def LockMode.Clashes (first second : LockMode) : Prop := first = .exclusive ∨ second = .exclusive

/-- The use of mutexes in a piece of code. -/
inductive Locking (Mutex Thread : Type) : Type
  | skip
  | hold (mode : LockMode) (mutex : Mutex) (body : Locking Mutex Thread)
  | join (thread : Thread)
  | seq (first second : Locking Mutex Thread)
  | either (left right : Locking Mutex Thread)
  | any (choice : Nat → Locking Mutex Thread)
  | loop (body : Locking Mutex Thread)

/-- What a thread still has to do: run a piece of code, or leave a scope it is in. -/
inductive LockFrame (Mutex Thread : Type) : Type
  | run (code : Locking Mutex Thread)
  | unlock (mode : LockMode) (mutex : Mutex)

variable {Mutex Thread : Type}

/-- The thread may have to wait for others here. -/
def LockFrame.blocks : LockFrame Mutex Thread → Bool
  | .run (.hold _ _ _) | .run (.join _) => true
  | _ => false

/-- The mutexes a thread holds, innermost first. -/
def heldLocks : List (LockFrame Mutex Thread) → List (LockMode × Mutex)
  | [] => []
  | .run _ :: rest => heldLocks rest
  | .unlock mode mutex :: rest => (mode, mutex) :: heldLocks rest

/-- The next step of a thread, if nothing blocks it. -/
inductive LockAdvances : List (LockFrame Mutex Thread) → List (LockFrame Mutex Thread) → Prop
  | skip {rest} : LockAdvances (.run .skip :: rest) rest
  | hold {mode mutex body rest} :
      LockAdvances (.run (.hold mode mutex body) :: rest) (.run body :: .unlock mode mutex :: rest)
  | unlock {mode mutex rest} : LockAdvances (.unlock mode mutex :: rest) rest
  | join {thread rest} : LockAdvances (.run (.join thread) :: rest) rest
  | seq {first second rest} :
      LockAdvances (.run (.seq first second) :: rest) (.run first :: .run second :: rest)
  | left {left right rest} : LockAdvances (.run (.either left right) :: rest) (.run left :: rest)
  | right {left right rest} : LockAdvances (.run (.either left right) :: rest) (.run right :: rest)
  | any {choice rest} (number : Nat) :
      LockAdvances (.run (.any choice) :: rest) (.run (choice number) :: rest)
  | again {body rest} :
      LockAdvances (.run (.loop body) :: rest) (.run body :: .run (.loop body) :: rest)
  | leave {body rest} : LockAdvances (.run (.loop body) :: rest) rest

/-! ## The order -/

/-- A ranking of mutexes and threads. Mutexes for which it is declared may be locked again by
the thread that holds them. The guard of a mutex is held by all that write it. -/
structure LockOrder (Mutex Thread : Type) where
  rank : Mutex → Nat
  recursive : Mutex → Prop
  guard : Mutex → Option Mutex
  level : Thread → Nat

namespace LockOrder

variable (order : LockOrder Mutex Thread)

/-- The mutex is above all that are held, and its guard is held if it is written. -/
structure Fresh (held : List (LockMode × Mutex)) (mode : LockMode) (mutex : Mutex) : Prop where
  above : ∀ lock ∈ held, order.rank lock.2 < order.rank mutex
  guarded : mode = .exclusive → ∀ guard ∈ order.guard mutex, (.exclusive, guard) ∈ held

/-- The thread holds the recursive mutex already. -/
structure Reentrant (held : List (LockMode × Mutex)) (mode : LockMode) (mutex : Mutex) : Prop where
  recursive : order.recursive mutex
  writes : mode = .exclusive
  holds : (.exclusive, mutex) ∈ held

/-- The thread reads already, and the guard it holds keeps writers away. -/
structure Reread (held : List (LockMode × Mutex)) (mode : LockMode) (mutex : Mutex) : Prop where
  reads : mode = .shared
  holds : (.shared, mutex) ∈ held
  only : (.exclusive, mutex) ∉ held
  guarded : ∃ guard ∈ order.guard mutex, (.exclusive, guard) ∈ held

/-- A thread that holds these mutexes may lock this one. -/
def Admits (held : List (LockMode × Mutex)) (mode : LockMode) (mutex : Mutex) : Prop :=
  order.Fresh held mode mutex ∨ order.Reentrant held mode mutex ∨ order.Reread held mode mutex

end LockOrder

/-- Code of a thread that holds these mutexes keeps the order. -/
def Locking.Keeps (order : LockOrder Mutex Thread) (self : Thread) :
    List (LockMode × Mutex) → Locking Mutex Thread → Prop
  | _, .skip => True
  | held, .hold mode mutex body =>
      order.Admits held mode mutex ∧ body.Keeps order self ((mode, mutex) :: held)
  | held, .join thread => held = [] ∧ order.level thread < order.level self
  | held, .seq first second => first.Keeps order self held ∧ second.Keeps order self held
  | held, .either left right => left.Keeps order self held ∧ right.Keeps order self held
  | held, .any choice => ∀ number, (choice number).Keeps order self held
  | held, .loop body => body.Keeps order self held

def KeepsLocks (order : LockOrder Mutex Thread) (self : Thread) :
    List (LockFrame Mutex Thread) → Prop
  | [] => True
  | .run code :: rest => code.Keeps order self (heldLocks rest) ∧ KeepsLocks order self rest
  | .unlock _ _ :: rest => KeepsLocks order self rest

theorem KeepsLocks.advances {order : LockOrder Mutex Thread} {self : Thread}
    {frames next : List (LockFrame Mutex Thread)} (keeps : KeepsLocks order self frames)
    (advances : LockAdvances frames next) : KeepsLocks order self next := by
  cases advances with
  | skip => exact keeps.2
  | hold => exact ⟨keeps.1.2, keeps.2⟩
  | unlock => exact keeps
  | join => exact keeps.2
  | seq => exact ⟨keeps.1.1, keeps.1.2, keeps.2⟩
  | left => exact ⟨keeps.1.1, keeps.2⟩
  | right => exact ⟨keeps.1.2, keeps.2⟩
  | any number => exact ⟨keeps.1 number, keeps.2⟩
  | again => exact ⟨keeps.1, keeps⟩
  | leave => exact keeps.2

/-! ## Code that climbs -/

namespace Locking

def read (mutex : Mutex) : Locking Mutex Thread := hold .shared mutex skip

def write (mutex : Mutex) : Locking Mutex Thread := hold .exclusive mutex skip

/-- Code that is run or left out. -/
def optionally (code : Locking Mutex Thread) : Locking Mutex Thread := either skip code

/-- A loop over objects. -/
def forEach (code : Nat → Locking Mutex Thread) : Locking Mutex Thread := loop (any code)

/-- Code for one of the elements of a list. -/
def oneOf {Element : Type} (elements : List Element) (code : Element → Locking Mutex Thread) :
    Locking Mutex Thread :=
  any fun number => (elements[number]?.map code).getD skip

/-- A loop over the elements of a list. -/
def each {Element : Type} (elements : List Element) (code : Element → Locking Mutex Thread) :
    Locking Mutex Thread :=
  elements.foldr (fun element rest => seq (code element) rest) skip

end Locking

namespace LockOrder

variable (order : LockOrder Mutex Thread)

/-- Code that keeps the order where all held mutexes are below the rank and the guards are
held. -/
def Climbs (guards : List Mutex) (rank : Nat) (code : Locking Mutex Thread) : Prop :=
  ∀ self held, (∀ lock ∈ held, order.rank lock.2 < rank) →
    (∀ guard ∈ guards, (.exclusive, guard) ∈ held) → code.Keeps order self held

variable {order : LockOrder Mutex Thread} {guards : List Mutex} {rank : Nat} {mode : LockMode}
  {mutex guard : Mutex} {code first second : Locking Mutex Thread}

theorem Climbs.keeps (climbs : order.Climbs [] rank code) (self : Thread) :
    code.Keeps order self [] :=
  climbs self [] (fun _ inside => absurd inside List.not_mem_nil) fun _ inside =>
    absurd inside List.not_mem_nil

/-- Code that climbs from a higher rank climbs from a lower one. -/
theorem Climbs.mono {higher : Nat} {fewer : List Mutex} (climbs : order.Climbs fewer higher code)
    (low : rank ≤ higher) (subset : fewer ⊆ guards) : order.Climbs guards rank code :=
  fun self held below guarded =>
    climbs self held (fun lock inside => (below lock inside).trans_le low) fun guard inside =>
      guarded guard (subset inside)

theorem climbs_skip : order.Climbs guards rank .skip := fun _ _ _ _ => trivial

theorem Climbs.seq (before : order.Climbs guards rank first)
    (after : order.Climbs guards rank second) : order.Climbs guards rank (.seq first second) :=
  fun self held below guarded => ⟨before self held below guarded, after self held below guarded⟩

theorem Climbs.either (left : order.Climbs guards rank first)
    (right : order.Climbs guards rank second) :
    order.Climbs guards rank (.either first second) :=
  fun self held below guarded => ⟨left self held below guarded, right self held below guarded⟩

theorem Climbs.any {choice : Nat → Locking Mutex Thread}
    (climbs : ∀ number, order.Climbs guards rank (choice number)) :
    order.Climbs guards rank (.any choice) :=
  fun self held below guarded number => climbs number self held below guarded

theorem Climbs.loop (climbs : order.Climbs guards rank code) :
    order.Climbs guards rank (.loop code) :=
  climbs

theorem Climbs.optionally (climbs : order.Climbs guards rank code) :
    order.Climbs guards rank (.optionally code) :=
  climbs_skip.either climbs

theorem Climbs.forEach {choice : Nat → Locking Mutex Thread}
    (climbs : ∀ number, order.Climbs guards rank (choice number)) :
    order.Climbs guards rank (.forEach choice) :=
  (Climbs.any climbs).loop

theorem Climbs.oneOf {Element : Type} {elements : List Element}
    {choice : Element → Locking Mutex Thread}
    (climbs : ∀ element ∈ elements, order.Climbs guards rank (choice element)) :
    order.Climbs guards rank (.oneOf elements choice) := by
  apply Climbs.any
  intro number
  cases found : elements[number]? with
  | none => exact climbs_skip
  | some element => exact climbs element (List.mem_of_getElem? found)

/-- A scope that reads a mutex above all that are held. -/
theorem Climbs.shared (climbs : order.Climbs guards (order.rank mutex + 1) code)
    (low : rank ≤ order.rank mutex) : order.Climbs guards rank (.hold .shared mutex code) := by
  intro self held below guarded
  refine ⟨.inl ⟨fun lock inside => (below lock inside).trans_le low, by simp⟩, ?_⟩
  refine climbs self _ (fun lock inside => ?_) fun guard inside =>
    List.mem_cons_of_mem _ (guarded guard inside)
  obtain rfl | before := List.mem_cons.mp inside
  · exact Nat.lt_succ_self _
  · exact ((below lock before).trans_le low).trans (Nat.lt_succ_self _)

/-- A scope that writes a mutex above all that are held, with its guard. -/
theorem Climbs.exclusive
    (climbs : order.Climbs (mutex :: guards) (order.rank mutex + 1) code)
    (low : rank ≤ order.rank mutex) (isGuarded : ∀ guard ∈ order.guard mutex, guard ∈ guards) :
    order.Climbs guards rank (.hold .exclusive mutex code) := by
  intro self held below guarded
  refine ⟨.inl ⟨fun lock inside => (below lock inside).trans_le low, fun _ guard isGuard =>
    guarded guard (isGuarded guard isGuard)⟩, ?_⟩
  refine climbs self _ (fun lock inside => ?_) fun guard inside => ?_
  · obtain rfl | before := List.mem_cons.mp inside
    · exact Nat.lt_succ_self _
    · exact ((below lock before).trans_le low).trans (Nat.lt_succ_self _)
  · obtain rfl | before := List.mem_cons.mp inside
    · exact List.mem_cons_self
    · exact List.mem_cons_of_mem _ (guarded guard before)

/-- A scope that locks a recursive mutex once more. -/
theorem Climbs.reentrant (climbs : order.Climbs guards rank code)
    (recursive : order.recursive mutex) (holds : mutex ∈ guards) :
    order.Climbs guards rank (.hold .exclusive mutex code) := by
  intro self held below guarded
  refine ⟨.inr (.inl ⟨recursive, rfl, guarded mutex holds⟩), ?_⟩
  refine climbs self _ (fun lock inside => ?_) fun guard inside =>
    List.mem_cons_of_mem _ (guarded guard inside)
  obtain rfl | before := List.mem_cons.mp inside
  · exact below _ (guarded mutex holds)
  · exact below lock before

/-- A scope that reads a mutex and then reads it once more, with its guard. -/
theorem Climbs.reread (climbs : order.Climbs guards (order.rank mutex + 1) code)
    (low : rank ≤ order.rank mutex) (isGuard : order.guard mutex = some guard)
    (holds : guard ∈ guards) :
    order.Climbs guards rank (.hold .shared mutex (.hold .shared mutex code)) := by
  intro self held below guarded
  have unheld : ∀ mode, (mode, mutex) ∉ held := fun mode inside =>
    absurd ((below _ inside).trans_le low) (lt_irrefl _)
  refine ⟨.inl ⟨fun lock inside => (below lock inside).trans_le low, by simp⟩, .inr (.inr
    ⟨rfl, List.mem_cons_self, ?_, guard, isGuard, List.mem_cons_of_mem _ (guarded guard holds)⟩),
    ?_⟩
  · simp [unheld]
  · refine climbs self _ (fun lock inside => ?_) fun guard inside =>
      List.mem_cons_of_mem _ (List.mem_cons_of_mem _ (guarded guard inside))
    simp only [List.mem_cons] at inside
    obtain rfl | rfl | before := inside
    · exact Nat.lt_succ_self _
    · exact Nat.lt_succ_self _
    · exact ((below lock before).trans_le low).trans (Nat.lt_succ_self _)

theorem climbs_read (low : rank ≤ order.rank mutex) : order.Climbs guards rank (.read mutex) :=
  climbs_skip.shared low

theorem climbs_write (low : rank ≤ order.rank mutex)
    (isGuarded : ∀ guard ∈ order.guard mutex, guard ∈ guards) :
    order.Climbs guards rank (.write mutex) :=
  climbs_skip.exclusive low isGuarded

end LockOrder

theorem Locking.Keeps.each {Element : Type} {order : LockOrder Mutex Thread} {self : Thread}
    {held : List (LockMode × Mutex)} {elements : List Element}
    {code : Element → Locking Mutex Thread}
    (keeps : ∀ element ∈ elements, (code element).Keeps order self held) :
    (Locking.each elements code).Keeps order self held := by
  induction elements with
  | nil => trivial
  | cons element rest ih =>
      exact ⟨keeps element List.mem_cons_self, ih fun other inside =>
        keeps other (List.mem_cons_of_mem _ inside)⟩

/-! ## Threads that share mutexes -/

abbrev LockThreads (Mutex Thread : Type) := Thread → List (LockFrame Mutex Thread)

/-- The thread is about to lock the mutex. -/
def Wants (threads : LockThreads Mutex Thread) (thread : Thread) (mode : LockMode)
    (mutex : Mutex) : Prop :=
  ∃ body rest, threads thread = .run (.hold mode mutex body) :: rest

def Joins (threads : LockThreads Mutex Thread) (thread other : Thread) : Prop :=
  ∃ rest, threads thread = .run (.join other) :: rest

theorem Wants.eq {threads : LockThreads Mutex Thread} {thread : Thread}
    {first second : LockMode} {mutex other : Mutex} (wants : Wants threads thread first mutex)
    (also : Wants threads thread second other) : first = second ∧ mutex = other := by
  obtain ⟨body, rest, same⟩ := wants
  obtain ⟨_, _, again⟩ := also
  rw [same] at again
  simp only [List.cons.injEq, LockFrame.run.injEq, Locking.hold.injEq] at again
  exact ⟨again.1.1, again.1.2.1⟩

theorem Wants.not_joins {threads : LockThreads Mutex Thread} {thread other : Thread}
    {mode : LockMode} {mutex : Mutex} (wants : Wants threads thread mode mutex) :
    ¬ Joins threads thread other := by
  obtain ⟨body, rest, same⟩ := wants
  intro joins
  obtain ⟨_, again⟩ := joins
  simp [same] at again

namespace LockOrder

variable (order : LockOrder Mutex Thread)

/-- One thread waits for another: for a scope to end, for its end, or, where readers are
polite, for a writer that waits. -/
inductive Waits (polite : Bool) (threads : LockThreads Mutex Thread) : Thread → Thread → Prop
  | holder {thread other mode held mutex} (wants : Wants threads thread mode mutex)
      (holds : (held, mutex) ∈ heldLocks (threads other)) (clashes : held.Clashes mode)
      (own : other = thread → ¬ order.recursive mutex) : Waits polite threads thread other
  | writer {thread other mutex} (isPolite : polite = true)
      (wants : Wants threads thread .shared mutex)
      (writes : Wants threads other .exclusive mutex) : Waits polite threads thread other
  | join {thread other} (joins : Joins threads thread other) (unfinished : threads other ≠ []) :
      Waits polite threads thread other

/-- A thread that waits for none takes a step. -/
inductive Step [DecidableEq Thread] (polite : Bool) (threads : LockThreads Mutex Thread) :
    LockThreads Mutex Thread → Prop
  | step {thread next} (advances : LockAdvances (threads thread) next)
      (free : ∀ other, ¬ order.Waits polite threads thread other) :
      Step polite threads (Function.update threads thread next)

/-- The threads keep the order, and no two of them are in scopes that clash. -/
structure Kept (threads : LockThreads Mutex Thread) : Prop where
  keeps : ∀ thread, KeepsLocks order thread (threads thread)
  apart : ∀ {thread other mode held mutex}, thread ≠ other →
    (mode, mutex) ∈ heldLocks (threads thread) → (held, mutex) ∈ heldLocks (threads other) →
    ¬ held.Clashes mode

variable {order : LockOrder Mutex Thread} {threads : LockThreads Mutex Thread}
  {polite : Bool} {thread other : Thread} {mode held : LockMode} {mutex guard : Mutex}

theorem Kept.admits (kept : order.Kept threads) (wants : Wants threads thread mode mutex) :
    order.Admits (heldLocks (threads thread)) mode mutex := by
  obtain ⟨body, rest, same⟩ := wants
  have keeps := kept.keeps thread
  rw [same] at keeps ⊢
  exact keeps.1.1

theorem Kept.of_joins (kept : order.Kept threads) (joins : Joins threads thread other) :
    heldLocks (threads thread) = [] ∧ order.level other < order.level thread := by
  obtain ⟨rest, same⟩ := joins
  have keeps := kept.keeps thread
  rw [same] at keeps ⊢
  exact keeps.1

/-- Only one thread holds a mutex exclusively. -/
theorem Kept.eq_of_exclusive (kept : order.Kept threads)
    (first : (.exclusive, guard) ∈ heldLocks (threads thread))
    (second : (mode, guard) ∈ heldLocks (threads other)) : thread = other := by
  by_contra different
  exact kept.apart different first second (.inr rfl)

/-- A thread that locks a recursive mutex once more waits for none. -/
theorem Kept.not_waits_of_reentrant (kept : order.Kept threads)
    (wants : Wants threads thread mode mutex)
    (reentrant : order.Reentrant (heldLocks (threads thread)) mode mutex) :
    ¬ order.Waits polite threads thread other := by
  intro waits
  cases waits with
  | holder also holds clashes own =>
      obtain ⟨rfl, rfl⟩ := wants.eq also
      exact own (kept.eq_of_exclusive reentrant.holds holds).symm reentrant.recursive
  | writer _ also _ =>
      obtain ⟨rfl, rfl⟩ := wants.eq also
      exact absurd reentrant.writes (by simp)
  | join joins _ => exact wants.not_joins joins

/-- A thread that reads a mutex once more, with its guard, waits for none. -/
theorem Kept.not_waits_of_reread (kept : order.Kept threads)
    (wants : Wants threads thread mode mutex)
    (reread : order.Reread (heldLocks (threads thread)) mode mutex) :
    ¬ order.Waits polite threads thread other := by
  obtain ⟨guard, isGuard, guards⟩ := reread.guarded
  intro waits
  cases waits with
  | holder also holds clashes _ =>
      obtain ⟨rfl, rfl⟩ := wants.eq also
      obtain rfl | shared := clashes
      · obtain rfl := kept.eq_of_exclusive holds reread.holds
        exact reread.only holds
      · exact absurd (reread.reads.symm.trans shared) (by simp)
  | writer _ also writes =>
      obtain ⟨rfl, rfl⟩ := wants.eq also
      -- The writer holds the guard too, or the mutex itself.
      obtain fresh | reentrant | again := kept.admits writes
      · obtain rfl := kept.eq_of_exclusive guards (fresh.guarded rfl guard isGuard)
        exact absurd (wants.eq writes).1 (by simp)
      · obtain rfl := kept.eq_of_exclusive reentrant.holds reread.holds
        exact reread.only reentrant.holds
      · exact absurd again.reads (by simp)
  | join joins _ => exact wants.not_joins joins

/-- A thread that waits has begun nothing above the mutex it wants. -/
theorem Kept.rank_lt (kept : order.Kept threads) (wants : Wants threads thread mode mutex)
    (waits : order.Waits polite threads thread other) (lock : LockMode × Mutex)
    (holds : lock ∈ heldLocks (threads thread)) : order.rank lock.2 < order.rank mutex := by
  obtain fresh | reentrant | reread := kept.admits wants
  · exact fresh.above lock holds
  · exact absurd waits (kept.not_waits_of_reentrant wants reentrant)
  · exact absurd waits (kept.not_waits_of_reread wants reread)

/-! ## No circles -/

/-- How far a waiting thread is from those it waits for: joins come before locks, joins of
high threads before those of low ones, and readers of a mutex before its writers. -/
def urgency (order : LockOrder Mutex Thread) (thread : Thread) :
    List (LockFrame Mutex Thread) → Nat ×ₗ Natᵒᵈ
  | .run (.hold .shared mutex _) :: _ => toLex (2 * order.rank mutex + 1, OrderDual.toDual 0)
  | .run (.hold .exclusive mutex _) :: _ => toLex (2 * order.rank mutex + 2, OrderDual.toDual 0)
  | _ => toLex (0, OrderDual.toDual (order.level thread))

theorem urgency_of_wants (order : LockOrder Mutex Thread)
    (wants : Wants threads thread mode mutex) :
    ∃ urgent, order.urgency thread (threads thread) = toLex (urgent, OrderDual.toDual 0) ∧
      2 * order.rank mutex < urgent ∧ urgent ≤ 2 * order.rank mutex + 2 := by
  obtain ⟨body, rest, same⟩ := wants
  rw [same]
  cases mode with
  | shared => exact ⟨_, rfl, by omega, by omega⟩
  | exclusive => exact ⟨_, rfl, by omega, by omega⟩

theorem urgency_of_joins (joins : Joins threads thread other) :
    order.urgency thread (threads thread) =
      toLex (0, OrderDual.toDual (order.level thread)) := by
  obtain ⟨rest, same⟩ := joins
  rw [same]
  rfl

/-- Along the threads that wait for one another the urgency grows. -/
theorem Kept.urgency_lt {third : Thread} (kept : order.Kept threads)
    (first : order.Waits polite threads thread other)
    (second : order.Waits polite threads other third) :
    order.urgency thread (threads thread) < order.urgency other (threads other) := by
  cases first with
  | @holder mode held mutex wants holds clashes own =>
      obtain ⟨urgent, same, -, low⟩ := urgency_of_wants order wants
      have nested : ∀ {mode mutex'}, Wants threads other mode mutex' →
          order.urgency thread (threads thread) < order.urgency other (threads other) := by
        intro mode mutex' also
        obtain ⟨later, same', high, -⟩ := urgency_of_wants order also
        have above := kept.rank_lt also second _ holds
        rw [same, same', Prod.Lex.toLex_lt_toLex]
        exact .inl (by simp only at above ⊢; omega)
      cases second with
      | holder also _ _ _ => exact nested also
      | writer _ also _ => exact nested also
      | join joins _ =>
          rw [(kept.of_joins joins).1] at holds
          exact absurd holds List.not_mem_nil
  | @writer mutex _ wants writes =>
      obtain ⟨body, rest, same⟩ := wants
      obtain ⟨body', rest', same'⟩ := writes
      rw [same, same']
      refine Prod.Lex.toLex_lt_toLex.mpr (.inl ?_)
      simp only
      omega
  | join joins unfinished =>
      have lower := (kept.of_joins joins).2
      rw [urgency_of_joins joins]
      have locked : ∀ {mode mutex}, Wants threads other mode mutex →
          toLex (0, OrderDual.toDual (order.level thread)) <
            order.urgency other (threads other) := by
        intro mode mutex wants
        obtain ⟨urgent, same, high, -⟩ := urgency_of_wants order wants
        rw [same, Prod.Lex.toLex_lt_toLex]
        exact .inl (by simp only; omega)
      cases second with
      | holder wants _ _ _ => exact locked wants
      | writer _ wants _ => exact locked wants
      | join again _ =>
          rw [urgency_of_joins again, Prod.Lex.toLex_lt_toLex]
          exact .inr ⟨rfl, OrderDual.toDual_lt_toDual.mpr lower⟩

theorem Kept.urgency_lt_of_transGen {third : Thread} (kept : order.Kept threads)
    (first : Relation.TransGen (order.Waits polite threads) thread other)
    (second : order.Waits polite threads other third) :
    order.urgency thread (threads thread) < order.urgency other (threads other) := by
  induction first generalizing third with
  | single waits => exact kept.urgency_lt waits second
  | tail _ waits ih => exact (ih waits).trans (kept.urgency_lt waits second)

/-- **No circle of threads.** -/
theorem Kept.acyclic (kept : order.Kept threads) (thread : Thread) :
    ¬ Relation.TransGen (order.Waits polite threads) thread thread := by
  intro circle
  obtain ⟨next, waits, _⟩ := Relation.TransGen.head'_iff.mp circle
  exact lt_irrefl _ (kept.urgency_lt_of_transGen circle waits)

/-! ## Steps -/

/-- What a step of a thread does to the mutexes it holds. -/
theorem held_of_advances {frames next : List (LockFrame Mutex Thread)}
    (advances : LockAdvances frames next) :
    (∃ mode mutex body rest, frames = .run (.hold mode mutex body) :: rest ∧
      heldLocks next = (mode, mutex) :: heldLocks frames) ∨
    heldLocks next ⊆ heldLocks frames := by
  cases advances with
  | @hold mode mutex body rest => exact .inl ⟨mode, mutex, body, rest, rfl, rfl⟩
  | unlock => exact .inr (List.subset_cons_self _ _)
  | _ => exact .inr (List.Subset.refl _)

variable [DecidableEq Thread]

theorem Kept.step {after : LockThreads Mutex Thread} (kept : order.Kept threads)
    (step : order.Step polite threads after) : order.Kept after := by
  obtain @⟨thread, next, advances, free⟩ := step
  -- What the stepping thread holds now clashes with nothing that another thread holds.
  have mine : ∀ {other mode held mutex}, other ≠ thread → (mode, mutex) ∈ heldLocks next →
      (held, mutex) ∈ heldLocks (threads other) → ¬ held.Clashes mode := by
    intro other mode held mutex different begun holds clashes
    obtain ⟨entered, locked, body, rest, same, grown⟩ | shrunk := held_of_advances advances
    · rw [grown] at begun
      obtain new | old := List.mem_cons.mp begun
      · obtain ⟨rfl, rfl⟩ := Prod.mk.inj new
        exact free other (.holder ⟨body, rest, same⟩ holds clashes fun same' =>
          absurd same' different)
      · exact kept.apart different.symm old holds clashes
    · exact kept.apart different.symm (shrunk begun) holds clashes
  refine ⟨fun other => ?_, fun {first second mode held mutex} different begun holds clashes => ?_⟩
  · by_cases same : other = thread
    · subst same
      rw [Function.update_self]
      exact (kept.keeps other).advances advances
    · rw [Function.update_of_ne same]
      exact kept.keeps other
  · by_cases same : first = thread
    · subst same
      rw [Function.update_self] at begun
      rw [Function.update_of_ne different.symm] at holds
      exact mine different.symm begun holds clashes
    · rw [Function.update_of_ne same] at begun
      by_cases same' : second = thread
      · subst same'
        rw [Function.update_self] at holds
        exact mine same holds begun (Or.symm clashes)
      · rw [Function.update_of_ne same'] at holds
        exact kept.apart different begun holds clashes

/-! ## Runs -/

/-- Some threads begin with their code, the others have none. -/
def begin (running : Finset Thread) (code : Thread → Locking Mutex Thread) :
    LockThreads Mutex Thread :=
  fun thread => if thread ∈ running then [.run (code thread)] else []

/-- What the threads get into, readers being polite or not. -/
def Reached (order : LockOrder Mutex Thread) (running : Finset Thread)
    (code : Thread → Locking Mutex Thread) (threads : LockThreads Mutex Thread) : Prop :=
  Relation.ReflTransGen (order.Step false) (begin running code) threads

variable {running : Finset Thread} {code : Thread → Locking Mutex Thread}

/-- A thread that is not at a scope or a join takes its next step. -/
theorem Reached.advance {next : List (LockFrame Mutex Thread)}
    (reached : order.Reached running code threads) (advances : LockAdvances (threads thread) next)
    (passes : (threads thread).head?.any LockFrame.blocks = false) :
    order.Reached running code (Function.update threads thread next) := by
  refine .tail reached (.step advances fun other waits => ?_)
  cases waits with
  | holder wants _ _ _ =>
      obtain ⟨_, _, same⟩ := wants
      simp [same, LockFrame.blocks] at passes
  | writer isPolite _ _ => exact absurd isPolite (by simp)
  | join joins _ =>
      obtain ⟨_, same⟩ := joins
      simp [same, LockFrame.blocks] at passes

/-- A thread enters a scope whose mutex nobody holds. -/
theorem Reached.enter {body : Locking Mutex Thread} {rest : List (LockFrame Mutex Thread)}
    (reached : order.Reached running code threads)
    (same : threads thread = .run (.hold mode mutex body) :: rest)
    (free : ∀ other held, (held, mutex) ∉ heldLocks (threads other)) :
    order.Reached running code
      (Function.update threads thread (.run body :: .unlock mode mutex :: rest)) := by
  refine .tail reached (.step (by rw [same]; exact .hold) fun other waits => ?_)
  have wanted : Wants threads thread mode mutex := ⟨_, _, same⟩
  cases waits with
  | holder wants holds _ _ =>
      obtain ⟨rfl, rfl⟩ := wants.eq wanted
      exact free _ _ holds
  | writer isPolite _ _ => exact absurd isPolite (by simp)
  | join joins _ => exact wanted.not_joins joins

/-- No thread begins in a scope. -/
theorem heldLocks_begin (running : Finset Thread) (code : Thread → Locking Mutex Thread)
    (thread : Thread) : heldLocks (begin running code thread) = [] := by
  unfold begin
  split_ifs
  · rfl
  · rfl

theorem kept_begin (keeps : ∀ thread ∈ running, (code thread).Keeps order thread []) :
    order.Kept (begin running code) := by
  refine ⟨fun thread => ?_, fun _ begun _ _ => ?_⟩
  · unfold begin
    split_ifs with inside
    · exact ⟨keeps thread inside, trivial⟩
    · trivial
  · rw [heldLocks_begin] at begun
    exact absurd begun List.not_mem_nil

theorem Reached.kept (reached : order.Reached running code threads)
    (keeps : ∀ thread ∈ running, (code thread).Keeps order thread []) : order.Kept threads := by
  induction reached with
  | refl => exact kept_begin keeps
  | tail _ step ih => exact ih.step step

/-- **Threads that keep a lock order never wait in a circle**, also where readers are polite. -/
theorem Reached.acyclic (reached : order.Reached running code threads)
    (keeps : ∀ thread ∈ running, (code thread).Keeps order thread []) (thread : Thread) :
    ¬ Relation.TransGen (order.Waits polite threads) thread thread :=
  (reached.kept keeps).acyclic thread

/-- Without a guard, a thread that reads a mutex in two nested scopes and one that writes it can
wait for each other, where readers are polite. -/
theorem exists_circle_of_reread (order : LockOrder Mutex Thread) {mutex : Mutex}
    {reader writer : Thread} (different : reader ≠ writer) :
    ∃ threads, order.Reached {reader, writer} (fun thread =>
        if thread = reader then .hold .shared mutex (.read mutex) else .write mutex) threads ∧
      Relation.TransGen (order.Waits true threads) reader reader := by
  set code : Thread → Locking Mutex Thread := fun thread =>
    if thread = reader then .hold .shared mutex (.read mutex) else .write mutex with coded
  have reading : begin {reader, writer} code reader =
      [.run (.hold .shared mutex (.read mutex))] := by
    simp [coded, begin]
  -- The reader enters the outer one of its two scopes.
  have reached : order.Reached {reader, writer} code (Function.update
      (begin {reader, writer} code) reader [.run (.read mutex), .unlock .shared mutex]) :=
    Reached.enter .refl reading fun other held => by
      rw [heldLocks_begin]
      exact List.not_mem_nil
  refine ⟨_, reached, ?_⟩
  set threads := Function.update (begin {reader, writer} code) reader
    [.run (.read mutex), .unlock .shared mutex] with stepped
  have rereading : threads reader = [.run (.read mutex), .unlock .shared mutex] :=
    Function.update_self _ _ _
  have rereads : Wants threads reader .shared mutex := ⟨_, _, rereading⟩
  have holds : (.shared, mutex) ∈ heldLocks (threads reader) := by
    rw [rereading]
    exact List.mem_cons_self
  have writes : Wants threads writer .exclusive mutex := by
    refine ⟨.skip, [], ?_⟩
    rw [stepped, Function.update_of_ne different.symm]
    simp [coded, begin, different.symm, Locking.write]
  exact .tail (.single (.writer rfl rereads writes)) (.holder writes holds (.inr rfl)
    fun same => absurd same different)

end LockOrder

end Foundation
