import Mathlib.Algebra.Order.BigOperators.Group.Finset
import Mathlib.Algebra.Order.BigOperators.Group.List
import Mathlib.Algebra.Order.Ring.Int
import Mathlib.Data.List.Forall2
import Mathlib.Data.Multiset.AddSub
import Mathlib.Logic.Relation
import Mathlib.Tactic.Common

/-! # Programs of atomic commands and their interleavings

A program performs atomic commands one after another and decides from the state
before each command how to continue. Run alone it is a state transformer
(`Foundation.Program.run`). A pool of programs advances one command at a time,
in any order, while new programs may join at any moment
(`Foundation.Execution`).

What every command keeps holds after every interleaving
(`Foundation.Execution.invariant`). For more, a thread is given a stage that its
commands change, and a relation says which commands are issued between which
stages in which states. A program is shown once to follow its stages
(`Foundation.Program.Follows`); every assertion about the trace, the state and the
stages of all threads is then checked command by command
(`Foundation.Execution.asserted`), and for a program that runs alone likewise
(`Foundation.Program.Follows.run`, `Foundation.Program.Follows.executed`).
-/

namespace Foundation

/-- A program over atomic commands. The continuation of a command reads the
state the command was performed in. -/
inductive Program (Command State Result : Type) : Type
  | done (result : Result)
  | step (command : Command) (next : State → Program Command State Result)

namespace Program

variable {Command State First Second Third : Type}

/-- Sequential composition. -/
def bind : Program Command State First → (First → Program Command State Second) →
    Program Command State Second
  | done result, continuation => continuation result
  | step command next, continuation => step command fun state => (next state).bind continuation

instance : Monad (Program Command State) where
  pure := done
  bind := bind

instance : LawfulMonad (Program Command State) := LawfulMonad.mk' _
  (by
    intro _ program
    induction program with
    | done => rfl
    | step command next ih => exact congrArg (step command) (funext ih))
  (by intros; rfl)
  (by
    intro _ _ _ program _ _
    induction program with
    | done => rfl
    | step command next ih => exact congrArg (step command) (funext ih))

/-- Perform one command and return a reading of the state it was performed in. -/
def atomically (command : Command) (reading : State → First) : Program Command State First :=
  step command fun state => done (reading state)

/-- The command a program performs next. -/
def next? : Program Command State First → Option Command
  | done _ => none
  | step command _ => some command

variable (perform : Command → State → State)

/-- The result and the final state of a program that runs alone. -/
def run : Program Command State First → State → First × State
  | done result, state => (result, state)
  | step command next, state => (next state).run (perform command state)

@[simp] theorem run_pure (result : First) (state : State) :
    (pure result : Program Command State First).run perform state = (result, state) := (rfl)

@[simp] theorem run_atomically (command : Command) (reading : State → First) (state : State) :
    (atomically command reading).run perform state =
      (reading state, perform command state) := (rfl)

@[simp] theorem run_bind (program : Program Command State First)
    (continuation : First → Program Command State Second) (state : State) :
    (program >>= continuation).run perform state =
      (continuation (program.run perform state).1).run perform (program.run perform state).2 := by
  induction program generalizing state with
  | done => rfl
  | step command next ih => exact ih state (perform command state)

@[simp] theorem run_map (transform : First → Second) (program : Program Command State First)
    (state : State) :
    (transform <$> program).run perform state =
      (transform (program.run perform state).1, (program.run perform state).2) := by
  rw [← bind_pure_comp, run_bind]
  rfl

@[simp] theorem run_ite (condition : Prop) [Decidable condition]
    (program other : Program Command State First) (state : State) :
    (if condition then program else other).run perform state =
      if condition then program.run perform state else other.run perform state := by
  split_ifs <;> rfl

/-- Every command the program can perform satisfies a predicate. -/
def Everywhere (predicate : Command → Prop) : Program Command State First → Prop
  | done _ => True
  | step command next => predicate command ∧ ∀ state, (next state).Everywhere predicate

section Everywhere

variable {predicate : Command → Prop}

@[simp] theorem everywhere_pure (result : First) :
    (pure result : Program Command State First).Everywhere predicate := trivial

@[simp] theorem everywhere_atomically (command : Command) (reading : State → First) :
    (atomically command reading).Everywhere predicate ↔ predicate command :=
  ⟨fun everywhere => everywhere.1, fun holds => ⟨holds, fun _ => trivial⟩⟩

theorem Everywhere.bind {program : Program Command State First}
    {continuation : First → Program Command State Second}
    (first : program.Everywhere predicate)
    (second : ∀ result, (continuation result).Everywhere predicate) :
    (program >>= continuation).Everywhere predicate := by
  induction program with
  | done result => exact second result
  | step command next ih => exact ⟨first.1, fun state => ih state (first.2 state)⟩

theorem Everywhere.ite {condition : Prop} [Decidable condition]
    {program other : Program Command State First} (first : program.Everywhere predicate)
    (second : other.Everywhere predicate) :
    (if condition then program else other).Everywhere predicate := by
  split_ifs
  · exact first
  · exact second

theorem Everywhere.mono {stronger weaker : Command → Prop}
    (implies : ∀ command, stronger command → weaker command)
    {program : Program Command State First} (everywhere : program.Everywhere stronger) :
    program.Everywhere weaker := by
  induction program with
  | done => trivial
  | step command next ih =>
      exact ⟨implies _ everywhere.1, fun state => ih state (everywhere.2 state)⟩

/-- What every command preserves, the program preserves. -/
theorem Everywhere.run_invariant {invariant : State → Prop} {program : Program Command State First}
    (everywhere : program.Everywhere predicate)
    (preserved : ∀ command state, predicate command → invariant state →
      invariant (perform command state))
    {state : State} (initially : invariant state) :
    invariant (program.run perform state).2 := by
  induction program generalizing state with
  | done => exact initially
  | step command next ih =>
      exact ih state (everywhere.2 state) (preserved command state everywhere.1 initially)

end Everywhere

/-- What every command preserves, every program preserves. -/
theorem run_invariant {invariant : State → Prop}
    (preserved : ∀ command state, invariant state → invariant (perform command state))
    (program : Program Command State First) {state : State} (initially : invariant state) :
    invariant (program.run perform state).2 := by
  induction program generalizing state with
  | done => exact initially
  | step command next ih => exact ih state (preserved command state initially)

end Program

/-- A performed command with the states around it. -/
structure Executed (Command State : Type) where
  command : Command
  before : State
  after : State

/-- The commands a program performs when it runs alone. -/
def Program.trace {Command State Result : Type} (perform : Command → State → State) :
    Program Command State Result → State → List (Executed Command State)
  | .done _, _ => []
  | .step command next, state =>
      ⟨command, state, perform command state⟩ :: (next state).trace perform (perform command state)

theorem Program.trace_bind {Command State First Second : Type}
    (perform : Command → State → State) (program : Program Command State First)
    (continuation : First → Program Command State Second) (state : State) :
    (program >>= continuation).trace perform state = program.trace perform state ++
      (continuation (program.run perform state).1).trace perform
        (program.run perform state).2 := by
  induction program generalizing state with
  | done => rfl
  | step command next ih => exact congrArg (List.cons _) (ih state (perform command state))

/-- The commands of a run are among those a program can perform. -/
theorem Program.Everywhere.of_mem_trace {Command State Result : Type}
    {perform : Command → State → State} {predicate : Command → Prop}
    {program : Program Command State Result} (everywhere : program.Everywhere predicate)
    {state : State} : ∀ executed ∈ program.trace perform state, predicate executed.command := by
  induction program generalizing state with
  | done => exact nofun
  | step command next ih =>
      intro executed inside
      rcases List.mem_cons.mp inside with rfl | later
      · exact everywhere.1
      · exact ih state (everywhere.2 state) executed later

/-- What every command preserves holds before each command of a program. -/
theorem Program.invariant_of_mem_trace {Command State Result : Type}
    {perform : Command → State → State} {invariant : State → Prop}
    (preserved : ∀ command state, invariant state → invariant (perform command state))
    (program : Program Command State Result) {state : State} (initially : invariant state) :
    ∀ executed ∈ program.trace perform state, invariant executed.before := by
  induction program generalizing state with
  | done => exact nofun
  | step command next ih =>
      intro executed inside
      rcases List.mem_cons.mp inside with rfl | later
      · exact initially
      · exact ih state (preserved command state initially) executed later

/-- A shared state and the rest of each thread's program. -/
structure Pool (Command State : Type) where
  state : State
  threads : List (Program Command State Unit)

/-- All threads are done. -/
def Pool.quiet {Command State : Type} (pool : Pool Command State) : Bool :=
  pool.threads.all fun
    | .done _ => true
    | .step _ _ => false

section Executions

variable {Command State : Type} (perform : Command → State → State)
  (joins : Program Command State Unit → Prop) (allowed : Command → State → Prop)
  (initial : State)

/-- The interleavings from an initial state, with their traces: programs may
join at any moment, and any thread may perform its next command wherever that
is allowed. -/
inductive Execution : List (Executed Command State) → Pool Command State → Prop
  | start : Execution [] ⟨initial, []⟩
  | join {trace state threads program} (prior : Execution trace ⟨state, threads⟩)
      (joining : joins program) : Execution trace ⟨state, program :: threads⟩
  | advance {trace state front command next back}
      (prior : Execution trace ⟨state, front ++ .step command next :: back⟩)
      (permitted : allowed command state) :
      Execution (trace ++ [⟨command, state, perform command state⟩])
        ⟨perform command state, front ++ next state :: back⟩

variable {perform joins allowed initial}

/-- Interleavings that begin with a pool of threads, where a command may be allowed
depending on what the other threads are about to do. -/
inductive PoolRun (perform : Command → State → State)
    (joins : Program Command State Unit → Prop)
    (guard : Command → State → List (Program Command State Unit) → Prop)
    (begin : Pool Command State) : List (Executed Command State) → Pool Command State → Prop
  | start : PoolRun perform joins guard begin [] begin
  | join {trace state threads program}
      (prior : PoolRun perform joins guard begin trace ⟨state, threads⟩)
      (joining : joins program) :
      PoolRun perform joins guard begin trace ⟨state, program :: threads⟩
  | advance {trace state front command next back}
      (prior : PoolRun perform joins guard begin trace ⟨state, front ++ .step command next :: back⟩)
      (permitted : guard command state (front ++ back)) :
      PoolRun perform joins guard begin (trace ++ [⟨command, state, perform command state⟩])
        ⟨perform command state, front ++ next state :: back⟩

theorem execution_iff_poolRun {trace : List (Executed Command State)}
    {pool : Pool Command State} :
    Execution perform joins allowed initial trace pool ↔
      PoolRun perform joins (fun command state _ => allowed command state) ⟨initial, []⟩
        trace pool := by
  constructor
  · intro execution
    induction execution with
    | start => exact .start
    | join _ joining ih => exact .join ih joining
    | advance _ permitted ih => exact .advance ih permitted
  · intro run
    induction run with
    | start => exact .start
    | join _ joining ih => exact .join ih joining
    | advance _ permitted ih => exact .advance ih permitted

/-- Every recorded step performs its command in the state recorded before it. -/
theorem Execution.after_eq {trace : List (Executed Command State)} {pool : Pool Command State}
    (execution : Execution perform joins allowed initial trace pool) :
    ∀ executed ∈ trace, executed.after = perform executed.command executed.before := by
  induction execution with
  | start => simp
  | join _ _ ih => exact ih
  | advance _ _ ih =>
      intro executed member
      rcases List.mem_append.mp member with earlier | last
      · exact ih executed earlier
      · rw [List.mem_singleton.mp last]

/-- An execution whose steps all meet a condition is one under that condition. -/
theorem Execution.restrict {permitted : Command → State → Prop}
    {trace : List (Executed Command State)} {pool : Pool Command State}
    (execution : Execution perform joins allowed initial trace pool)
    (meets : ∀ executed ∈ trace, permitted executed.command executed.before) :
    Execution perform joins permitted initial trace pool := by
  induction execution with
  | start => exact .start
  | join _ joining ih => exact .join (ih meets) joining
  | advance _ _ ih =>
      refine .advance (ih fun executed member => meets executed (List.mem_append_left _ member)) ?_
      exact meets _ (List.mem_append_right _ (List.mem_singleton_self _))

/-- What every allowed command keeps holds after every interleaving. -/
theorem Execution.invariant (invariant : State → Prop) (begins : invariant initial)
    (kept : ∀ command state, allowed command state → invariant state →
      invariant (perform command state))
    {trace : List (Executed Command State)} {pool : Pool Command State}
    (execution : Execution perform joins allowed initial trace pool) : invariant pool.state := by
  induction execution with
  | start => exact begins
  | join _ _ ih => exact ih
  | advance _ permitted ih => exact kept _ _ permitted ih

section Order

variable {related : State → State → Prop}
  (refl : ∀ state, related state state)
  (trans : ∀ first second third, related first second → related second third →
    related first third)
  (step : ∀ command state, allowed command state → related state (perform command state))

include refl trans step

/-- A preorder that every allowed command respects relates the state after a recorded
step to the current state. -/
theorem Execution.related_current {trace : List (Executed Command State)}
    {pool : Pool Command State} (execution : Execution perform joins allowed initial trace pool) :
    ∀ executed ∈ trace, related executed.after pool.state := by
  induction execution with
  | start => simp
  | join _ _ ih => exact ih
  | advance _ permitted ih =>
      intro executed member
      rcases List.mem_append.mp member with earlier | last
      · exact trans _ _ _ (ih executed earlier) (step _ _ permitted)
      · rw [List.mem_singleton.mp last]
        exact refl _

/-- A preorder that every allowed command respects relates the state after a recorded
step to the state before any later one. -/
theorem Execution.related_later {steps : List (Executed Command State)}
    {pool : Pool Command State} (execution : Execution perform joins allowed initial steps pool)
    {first second : Nat} (order : first < second) {earlier later : Executed Command State}
    (atFirst : steps[first]? = some earlier) (atSecond : steps[second]? = some later) :
    related earlier.after later.before := by
  induction execution with
  | start => simp at atFirst
  | join _ _ ih => exact ih atFirst atSecond
  | @advance steps _ _ _ _ _ prior _ ih =>
      by_cases inside : second < steps.length
      · rw [List.getElem?_append_left (order.trans inside)] at atFirst
        rw [List.getElem?_append_left inside] at atSecond
        exact ih atFirst atSecond
      · have last : second = steps.length := by
          have bound := (List.getElem?_eq_some_iff.mp atSecond).1
          simp only [List.length_append, List.length_singleton] at bound
          omega
        subst last
        rw [List.getElem?_append_left order] at atFirst
        simp only [List.getElem?_concat_length, Option.some.injEq] at atSecond
        rw [← atSecond]
        exact prior.related_current refl trans step _ (List.mem_of_getElem? atFirst)

end Order

/-! ## Stages -/

section Stages

variable {Stage : Type} (perform) (invariant : State → Prop) (before : State → State → Prop)
  (issues : Command → State → Stage → Stage → Prop)

/-- A program follows the stages: each of its commands is issued between two
stages. Of the present state it knows the invariant, and that the state it saw
last came before. -/
def Program.Follows {Result : Type} (post : State → Stage → Result → Prop) :
    State → Stage → Program Command State Result → Prop
  | seen, stage, .done result => post seen stage result
  | seen, stage, .step command next => ∀ state, before seen state → invariant state →
      ∃ stage', issues command state stage stage' ∧
        (next state).Follows post (perform command state) stage'

variable {perform invariant before issues}

theorem forall₂_split {Left Right : Type} {relation : Left → Right → Prop}
    {lefts : List Left} {front : List Right} {middle : Right} {back : List Right}
    (related : List.Forall₂ relation lefts (front ++ middle :: back)) :
    ∃ frontLefts left backLefts, lefts = frontLefts ++ left :: backLefts ∧
      List.Forall₂ relation frontLefts front ∧ relation left middle ∧
      List.Forall₂ relation backLefts back := by
  have taken := List.forall₂_take_append lefts front (middle :: back) related
  have dropped := List.forall₂_drop_append lefts front (middle :: back) related
  obtain ⟨left, backLefts, atMiddle, behind, split⟩ := List.forall₂_cons_right_iff.mp dropped
  refine ⟨_, left, backLefts, ?_, taken, atMiddle, behind⟩
  rw [← split, List.take_append_drop]

/-- Every element on the left has a partner on the right. -/
theorem exists_of_forall₂ {Left Right : Type} {relation : Left → Right → Prop}
    {lefts : List Left} {rights : List Right} (related : List.Forall₂ relation lefts rights)
    {left : Left} (inside : left ∈ lefts) : ∃ right ∈ rights, relation left right := by
  induction related with
  | nil => cases inside
  | @cons first right _ _ holds _ ih =>
      rcases List.mem_cons.mp inside with rfl | later
      · exact ⟨right, List.mem_cons_self, holds⟩
      · obtain ⟨partner, member, related⟩ := ih later
        exact ⟨partner, List.mem_cons_of_mem _ member, related⟩

theorem Program.Follows.bind {First Second : Type} {middle : State → Stage → First → Prop}
    {post : State → Stage → Second → Prop} {program : Program Command State First}
    {continuation : First → Program Command State Second} {seen : State} {stage : Stage}
    (first : program.Follows perform invariant before issues middle seen stage)
    (second : ∀ seen stage result, middle seen stage result →
      (continuation result).Follows perform invariant before issues post seen stage) :
    (program >>= continuation).Follows perform invariant before issues post seen stage := by
  induction program generalizing seen stage with
  | done result => exact second seen stage result first
  | step command next ih =>
      intro state reached holds
      obtain ⟨stage', issued, rest⟩ := first state reached holds
      exact ⟨stage', issued, ih state rest⟩

theorem Program.Follows.mono {Result : Type} {stronger weaker : State → Stage → Result → Prop}
    (implies : ∀ seen stage result, stronger seen stage result → weaker seen stage result)
    {program : Program Command State Result} {seen : State} {stage : Stage}
    (follows : program.Follows perform invariant before issues stronger seen stage) :
    program.Follows perform invariant before issues weaker seen stage := by
  induction program generalizing seen stage with
  | done result => exact implies _ _ _ follows
  | step command next ih =>
      intro state reached holds
      obtain ⟨stage', issued, rest⟩ := follows state reached holds
      exact ⟨stage', issued, ih state rest⟩

/-- A program that follows two kinds of stages follows their pairs. -/
theorem Program.Follows.both {Progress Result : Type}
    {advances : Command → State → Progress → Progress → Prop}
    {post : State → Stage → Result → Prop} {ends : State → Progress → Result → Prop}
    {program : Program Command State Result} {seen : State} {stage : Stage} {progress : Progress}
    (first : program.Follows perform invariant before issues post seen stage)
    (second : program.Follows perform invariant before advances ends seen progress) :
    program.Follows perform invariant before
      (fun command state (stages stages' : Stage × Progress) =>
        issues command state stages.1 stages'.1 ∧ advances command state stages.2 stages'.2)
      (fun state stages result => post state stages.1 result ∧ ends state stages.2 result)
      seen (stage, progress) := by
  induction program generalizing seen stage progress with
  | done result => exact ⟨first, second⟩
  | step command next ih =>
      intro state reached holds
      obtain ⟨stage', issued, rest⟩ := first state reached holds
      obtain ⟨progress', advanced, remaining⟩ := second state reached holds
      exact ⟨(stage', progress'), ⟨issued, advanced⟩, ih state rest remaining⟩

/-- **Interleaved programs.** Let the threads at the beginning and every joining
program follow the stages. Then the invariant holds throughout, every step was issued
between two stages, and an assertion about the trace, the state and the stages of all
threads holds throughout, when every command that is issued and allowed under the
assertion moves the state forward and keeps both, where the other threads are known to
follow their stages. The stages are listed as the threads are. -/
theorem PoolRun.upheldInOrder
    {guard : Command → State → List (Program Command State Unit) → Prop}
    {begin : Pool Command State} (post : State → Stage → Unit → Prop)
    (asserts : List (Executed Command State) → State → List Stage → Prop)
    (refl : ∀ state, before state state)
    (trans : ∀ first second third, before first second → before second third →
      before first third)
    (begins : invariant begin.state)
    (starting : ∃ stages : List Stage,
      List.Forall₂ (fun stage (program : Program Command State Unit) =>
        program.Follows perform invariant before issues post begin.state stage)
        stages begin.threads ∧ asserts [] begin.state stages)
    (joining : ∀ program, joins program → ∃ stage,
      (∀ seen, program.Follows perform invariant before issues post seen stage) ∧
      ∀ trace state stages, asserts trace state stages → asserts trace state (stage :: stages))
    (upheld : ∀ trace state (front back : List Stage) threads command stage stage',
      invariant state → issues command state stage stage' → guard command state threads →
      List.Forall₂ (fun stage (program : Program Command State Unit) => ∃ seen,
        before seen state ∧ program.Follows perform invariant before issues post seen stage)
        (front ++ back) threads →
      asserts trace state (front ++ stage :: back) →
      before state (perform command state) ∧ invariant (perform command state) ∧
        asserts (trace ++ [⟨command, state, perform command state⟩]) (perform command state)
          (front ++ stage' :: back))
    {trace : List (Executed Command State)} {pool : Pool Command State}
    (run : PoolRun perform joins guard begin trace pool) :
    invariant pool.state ∧
      (∀ executed ∈ trace, invariant executed.before ∧
        ∃ stage stage', issues executed.command executed.before stage stage') ∧
      ∃ stages : List Stage, asserts trace pool.state stages ∧
        List.Forall₂ (fun stage (program : Program Command State Unit) => ∃ seen,
          before seen pool.state ∧
            program.Follows perform invariant before issues post seen stage)
          stages pool.threads := by
  induction run with
  | start =>
      obtain ⟨stages, follows, asserted⟩ := starting
      exact ⟨begins, by simp, stages, asserted, follows.imp fun _ _ follow => ⟨_, refl _, follow⟩⟩
  | join prior joined ih =>
      obtain ⟨holds, issued, stages, asserted, follows⟩ := ih
      obtain ⟨stage, follow, add⟩ := joining _ joined
      exact ⟨holds, issued, stage :: stages, add _ _ _ asserted,
        .cons ⟨_, refl _, follow _⟩ follows⟩
  | @advance trace state front command next back prior permitted ih =>
      obtain ⟨holds, issued, stages, asserted, follows⟩ := ih
      obtain ⟨frontStages, stage, backStages, rfl, frontFollows, ⟨seen, reached, follow⟩,
        backFollows⟩ := forall₂_split follows
      obtain ⟨stage', issue, remaining⟩ := follow state reached holds
      obtain ⟨forward, kept, asserted'⟩ := upheld _ _ _ _ _ _ _ _ holds issue permitted
        (List.rel_append frontFollows backFollows) asserted
      refine ⟨kept, ?_, frontStages ++ stage' :: backStages, asserted', ?_⟩
      · intro executed member
        rcases List.mem_append.mp member with earlier | last
        · exact issued executed earlier
        · rw [List.mem_singleton.mp last]
          exact ⟨holds, stage, stage', issue⟩
      · have later : ∀ (stage : Stage) (program : Program Command State Unit),
            (∃ seen, before seen state ∧
              program.Follows perform invariant before issues post seen stage) →
            ∃ seen, before seen (perform command state) ∧
              program.Follows perform invariant before issues post seen stage :=
          fun stage program ⟨seen, reached, follow⟩ =>
            ⟨seen, trans _ _ _ reached forward, follow⟩
        exact List.rel_append (frontFollows.imp later)
          (.cons ⟨_, refl _, remaining⟩ (backFollows.imp later))

/-- The same for an assertion that does not depend on the order of the threads. -/
theorem PoolRun.upheld {guard : Command → State → List (Program Command State Unit) → Prop}
    {begin : Pool Command State} (post : State → Stage → Unit → Prop)
    (asserts : List (Executed Command State) → State → Multiset Stage → Prop)
    (refl : ∀ state, before state state)
    (trans : ∀ first second third, before first second → before second third →
      before first third)
    (begins : invariant begin.state)
    (starting : ∃ stages : List Stage,
      List.Forall₂ (fun stage (program : Program Command State Unit) =>
        program.Follows perform invariant before issues post begin.state stage)
        stages begin.threads ∧ asserts [] begin.state stages)
    (joining : ∀ program, joins program → ∃ stage,
      (∀ seen, program.Follows perform invariant before issues post seen stage) ∧
      ∀ trace state stages, asserts trace state stages → asserts trace state (stage ::ₘ stages))
    (upheld : ∀ trace state (others : List Stage) threads command stage stage',
      invariant state → issues command state stage stage' → guard command state threads →
      List.Forall₂ (fun stage (program : Program Command State Unit) => ∃ seen,
        before seen state ∧ program.Follows perform invariant before issues post seen stage)
        others threads →
      asserts trace state (stage ::ₘ others) →
      before state (perform command state) ∧ invariant (perform command state) ∧
        asserts (trace ++ [⟨command, state, perform command state⟩]) (perform command state)
          (stage' ::ₘ others))
    {trace : List (Executed Command State)} {pool : Pool Command State}
    (run : PoolRun perform joins guard begin trace pool) :
    invariant pool.state ∧
      (∀ executed ∈ trace, invariant executed.before ∧
        ∃ stage stage', issues executed.command executed.before stage stage') ∧
      ∃ stages : List Stage, asserts trace pool.state stages ∧
        List.Forall₂ (fun stage (program : Program Command State Unit) => ∃ seen,
          before seen pool.state ∧
            program.Follows perform invariant before issues post seen stage)
          stages pool.threads := by
  refine run.upheldInOrder post (fun trace state stages => asserts trace state stages)
    refl trans begins starting (fun program joined => ?_) ?_
  · obtain ⟨stage, follow, add⟩ := joining program joined
    exact ⟨stage, follow, fun _ _ _ => add _ _ _⟩
  · intro trace state front back threads command stage stage' holds issue permitted follows asserted
    have rotate : ∀ middle : Stage, ((front ++ middle :: back : List Stage) : Multiset Stage) =
        middle ::ₘ ((front ++ back : List Stage) : Multiset Stage) :=
      fun middle => Multiset.coe_eq_coe.mpr List.perm_middle
    rw [rotate] at asserted ⊢
    exact upheld _ _ _ _ _ _ _ holds issue permitted follows asserted

/-- The same for an execution, whose threads all join. -/
theorem Execution.upheld {trace : List (Executed Command State)}
    {pool : Pool Command State}
    (execution : Execution perform joins allowed initial trace pool)
    (post : State → Stage → Unit → Prop)
    (asserts : List (Executed Command State) → State → Multiset Stage → Prop)
    (refl : ∀ state, before state state)
    (trans : ∀ first second third, before first second → before second third →
      before first third)
    (begins : invariant initial) (assertsInitially : asserts [] initial 0)
    (joining : ∀ program, joins program → ∃ stage,
      (∀ seen, program.Follows perform invariant before issues post seen stage) ∧
      ∀ trace state stages, asserts trace state stages → asserts trace state (stage ::ₘ stages))
    (upheld : ∀ trace state (others : List Stage) command stage stage', invariant state →
      issues command state stage stage' → allowed command state →
      asserts trace state (stage ::ₘ others) →
      before state (perform command state) ∧ invariant (perform command state) ∧
        asserts (trace ++ [⟨command, state, perform command state⟩]) (perform command state)
          (stage' ::ₘ others)) :
    invariant pool.state ∧
      (∀ executed ∈ trace, invariant executed.before ∧
        ∃ stage stage', issues executed.command executed.before stage stage') ∧
      ∃ stages : Multiset Stage, asserts trace pool.state stages := by
  obtain ⟨holds, issued, stages, asserted, -⟩ :=
    (execution_iff_poolRun.mp execution).upheld post asserts refl trans begins
      ⟨[], .nil, assertsInitially⟩ joining
      fun _ _ _ _ _ _ _ holds issue permitted _ => upheld _ _ _ _ _ _ holds issue permitted
  exact ⟨holds, issued, stages, asserted⟩

section

variable (kept : ∀ command state stage stage', invariant state →
    issues command state stage stage' → invariant (perform command state))

include kept

/-- **A program that runs alone.** An assertion about the state and the stage
that every issued command keeps holds at the end. -/
theorem Program.Follows.run {Result : Type} {post : State → Stage → Result → Prop}
    {asserts : State → Stage → Prop} (refl : ∀ state, before state state)
    (preserved : ∀ command state stage stage', invariant state →
      issues command state stage stage' → asserts state stage →
      asserts (perform command state) stage')
    {program : Program Command State Result} {state : State} {stage : Stage}
    (follows : program.Follows perform invariant before issues post state stage)
    (holds : invariant state) (asserted : asserts state stage) :
    invariant (program.run perform state).2 ∧ ∃ stage',
      asserts (program.run perform state).2 stage' ∧
      post (program.run perform state).2 stage' (program.run perform state).1 := by
  induction program generalizing state stage with
  | done result => exact ⟨holds, stage, asserted, follows⟩
  | step command next ih =>
      obtain ⟨stage', issued, rest⟩ := follows state (refl state) holds
      exact ih state rest (kept _ _ _ _ holds issued) (preserved _ _ _ _ holds issued asserted)

/-- What holds before each command of a program that runs alone. -/
theorem Program.Follows.executed {Result : Type} {post : State → Stage → Result → Prop}
    {asserts : State → Stage → Prop} (refl : ∀ state, before state state)
    (preserved : ∀ command state stage stage', invariant state →
      issues command state stage stage' → asserts state stage →
      asserts (perform command state) stage')
    {program : Program Command State Result} {state : State} {stage : Stage}
    (follows : program.Follows perform invariant before issues post state stage)
    (holds : invariant state) (asserted : asserts state stage) :
    ∀ executed ∈ program.trace perform state, invariant executed.before ∧
      ∃ stage stage', asserts executed.before stage ∧
        issues executed.command executed.before stage stage' := by
  induction program generalizing state stage with
  | done result => simp [Program.trace]
  | step command next ih =>
      obtain ⟨stage', issued, rest⟩ := follows state (refl state) holds
      intro executed inside
      rcases List.mem_cons.mp inside with rfl | later
      · exact ⟨holds, stage, stage', asserted, issued⟩
      · exact ih state rest (kept _ _ _ _ holds issued) (preserved _ _ _ _ holds issued asserted)
          executed later

/-- The same where every command moves the state forward and every issued command keeps
the invariant, so that only the assertion is to be shown. -/
theorem PoolRun.assertedInOrder
    {guard : Command → State → List (Program Command State Unit) → Prop}
    {begin : Pool Command State} (post : State → Stage → Unit → Prop)
    (asserts : List (Executed Command State) → State → List Stage → Prop)
    (refl : ∀ state, before state state)
    (trans : ∀ first second third, before first second → before second third →
      before first third)
    (forward : ∀ command state, before state (perform command state))
    (begins : invariant begin.state)
    (starting : ∃ stages : List Stage,
      List.Forall₂ (fun stage (program : Program Command State Unit) =>
        program.Follows perform invariant before issues post begin.state stage)
        stages begin.threads ∧ asserts [] begin.state stages)
    (joining : ∀ program, joins program → ∃ stage,
      (∀ seen, program.Follows perform invariant before issues post seen stage) ∧
      ∀ trace state stages, asserts trace state stages → asserts trace state (stage :: stages))
    (preserved : ∀ trace state (front back : List Stage) threads command stage stage',
      invariant state → issues command state stage stage' → guard command state threads →
      List.Forall₂ (fun stage (program : Program Command State Unit) => ∃ seen,
        before seen state ∧ program.Follows perform invariant before issues post seen stage)
        (front ++ back) threads →
      asserts trace state (front ++ stage :: back) →
      asserts (trace ++ [⟨command, state, perform command state⟩]) (perform command state)
        (front ++ stage' :: back))
    {trace : List (Executed Command State)} {pool : Pool Command State}
    (run : PoolRun perform joins guard begin trace pool) :
    invariant pool.state ∧
      (∀ executed ∈ trace, invariant executed.before ∧
        ∃ stage stage', issues executed.command executed.before stage stage') ∧
      ∃ stages : List Stage, asserts trace pool.state stages ∧
        List.Forall₂ (fun stage (program : Program Command State Unit) => ∃ seen,
          before seen pool.state ∧
            program.Follows perform invariant before issues post seen stage)
          stages pool.threads :=
  run.upheldInOrder post asserts refl trans begins starting joining
    fun _ _ _ _ _ _ _ _ holds issue permitted follows asserted =>
      ⟨forward _ _, kept _ _ _ _ holds issue,
        preserved _ _ _ _ _ _ _ _ holds issue permitted follows asserted⟩

/-- And for an assertion that does not depend on the order of the threads. -/
theorem PoolRun.asserted {guard : Command → State → List (Program Command State Unit) → Prop}
    {begin : Pool Command State} (post : State → Stage → Unit → Prop)
    {asserts : List (Executed Command State) → State → Multiset Stage → Prop}
    (refl : ∀ state, before state state)
    (trans : ∀ first second third, before first second → before second third →
      before first third)
    (forward : ∀ command state, before state (perform command state))
    (begins : invariant begin.state)
    (starting : ∃ stages : List Stage,
      List.Forall₂ (fun stage (program : Program Command State Unit) =>
        program.Follows perform invariant before issues post begin.state stage)
        stages begin.threads ∧ asserts [] begin.state stages)
    (joining : ∀ program, joins program → ∃ stage,
      (∀ seen, program.Follows perform invariant before issues post seen stage) ∧
      ∀ trace state stages, asserts trace state stages → asserts trace state (stage ::ₘ stages))
    (preserved : ∀ trace state (others : List Stage) threads command stage stage',
      invariant state → issues command state stage stage' → guard command state threads →
      List.Forall₂ (fun stage (program : Program Command State Unit) => ∃ seen,
        before seen state ∧ program.Follows perform invariant before issues post seen stage)
        others threads →
      asserts trace state (stage ::ₘ others) →
      asserts (trace ++ [⟨command, state, perform command state⟩]) (perform command state)
        (stage' ::ₘ others))
    {trace : List (Executed Command State)} {pool : Pool Command State}
    (run : PoolRun perform joins guard begin trace pool) :
    invariant pool.state ∧
      (∀ executed ∈ trace, invariant executed.before ∧
        ∃ stage stage', issues executed.command executed.before stage stage') ∧
      ∃ stages : List Stage, asserts trace pool.state stages ∧
        List.Forall₂ (fun stage (program : Program Command State Unit) => ∃ seen,
          before seen pool.state ∧
            program.Follows perform invariant before issues post seen stage)
          stages pool.threads :=
  run.upheld post asserts refl trans begins starting joining
    fun _ _ _ _ _ _ _ holds issue permitted follows asserted =>
      ⟨forward _ _, kept _ _ _ _ holds issue,
        preserved _ _ _ _ _ _ _ holds issue permitted follows asserted⟩

/-- Interleavings from a state, where a command is allowed whatever the other threads
do. -/
theorem Execution.asserted (post : State → Stage → Unit → Prop)
    {asserts : List (Executed Command State) → State → Multiset Stage → Prop}
    (refl : ∀ state, before state state)
    (trans : ∀ first second third, before first second → before second third →
      before first third)
    (forward : ∀ command state, before state (perform command state))
    (begins : invariant initial) (assertsInitially : asserts [] initial 0)
    (joining : ∀ program, joins program → ∃ stage,
      (∀ seen, program.Follows perform invariant before issues post seen stage) ∧
      ∀ trace state stages, asserts trace state stages → asserts trace state (stage ::ₘ stages))
    (preserved : ∀ trace state others command stage stage', invariant state →
      issues command state stage stage' → allowed command state →
      asserts trace state (stage ::ₘ others) →
      asserts (trace ++ [⟨command, state, perform command state⟩]) (perform command state)
        (stage' ::ₘ others))
    {trace : List (Executed Command State)} {pool : Pool Command State}
    (execution : Execution perform joins allowed initial trace pool) :
    invariant pool.state ∧
      (∀ executed ∈ trace, invariant executed.before ∧
        ∃ stage stage', issues executed.command executed.before stage stage') ∧
      ∃ stages : Multiset Stage, asserts trace pool.state stages := by
  exact execution.upheld post asserts refl trans begins assertsInitially joining
    fun _ _ _ _ _ _ holds issue permitted asserted =>
      ⟨forward _ _, kept _ _ _ _ holds issue,
        preserved _ _ _ _ _ _ holds issue permitted asserted⟩

end

end Stages

/-! ## Schedules -/

/-- Let one thread perform its next command. -/
def Pool.advance? (perform : Command → State → State) (pool : Pool Command State) (index : Nat) :
    Option (Executed Command State × Pool Command State) :=
  match pool.threads[index]? with
  | some (.step command next) =>
      some (⟨command, pool.state, perform command pool.state⟩,
        ⟨perform command pool.state, pool.threads.set index (next pool.state)⟩)
  | _ => none

/-- Let threads perform their next commands in a given order; entries that name
no unfinished thread are skipped. -/
def Pool.follow (perform : Command → State → State) :
    List Nat → Pool Command State → List (Executed Command State) × Pool Command State
  | [], pool => ([], pool)
  | index :: rest, pool =>
      match pool.advance? perform index with
      | none => Pool.follow perform rest pool
      | some (executed, next) =>
          (executed :: (Pool.follow perform rest next).1, (Pool.follow perform rest next).2)

/-- Threads may join before the first command. -/
theorem PoolRun.joinAll {guard : Command → State → List (Program Command State Unit) → Prop}
    (programs : List (Program Command State Unit)) (joining : ∀ program ∈ programs, joins program) :
    PoolRun perform joins guard ⟨initial, []⟩ [] ⟨initial, programs⟩ := by
  induction programs with
  | nil => exact .start
  | cons program rest ih =>
      have joined := ih fun program inside => joining program (List.mem_cons_of_mem _ inside)
      exact .join joined (joining program List.mem_cons_self)

/-- Every command of the schedule is permitted beside the other threads. -/
def Pool.Permits (perform : Command → State → State)
    (guard : Command → State → List (Program Command State Unit) → Prop) :
    List Nat → Pool Command State → Prop
  | [], _ => True
  | index :: rest, pool =>
      match pool.threads[index]? with
      | some (.step command next) =>
          guard command pool.state (pool.threads.eraseIdx index) ∧
            Pool.Permits perform guard rest
              ⟨perform command pool.state, pool.threads.set index (next pool.state)⟩
      | _ => Pool.Permits perform guard rest pool

instance Pool.decidablePermits (perform : Command → State → State)
    (guard : Command → State → List (Program Command State Unit) → Prop)
    [∀ command state others, Decidable (guard command state others)] :
    ∀ (schedule : List Nat) (pool : Pool Command State),
      Decidable (pool.Permits perform guard schedule)
  | [], _ => isTrue trivial
  | index :: rest, pool =>
      match found : pool.threads[index]? with
      | some (.step command next) =>
          have := Pool.decidablePermits perform guard rest
            ⟨perform command pool.state, pool.threads.set index (next pool.state)⟩
          decidable_of_iff (guard command pool.state (pool.threads.eraseIdx index) ∧
              Pool.Permits perform guard rest
                ⟨perform command pool.state, pool.threads.set index (next pool.state)⟩)
            (by rw [Pool.Permits, found])
      | some (.done _) | none =>
          have := Pool.decidablePermits perform guard rest pool
          decidable_of_iff (Pool.Permits perform guard rest pool) (by rw [Pool.Permits, found])

theorem Pool.permits_of_free {guard : Command → State → List (Program Command State Unit) → Prop}
    (free : ∀ command state others, guard command state others) (schedule : List Nat)
    (pool : Pool Command State) : pool.Permits perform guard schedule := by
  induction schedule generalizing pool with
  | nil => trivial
  | cons index rest ih =>
      rw [Pool.Permits]
      split
      · exact ⟨free _ _ _, ih _⟩
      · exact ih pool

theorem Pool.Permits.mono
    {guard weaker : Command → State → List (Program Command State Unit) → Prop}
    (implies : ∀ command state others, guard command state others → weaker command state others)
    {schedule : List Nat} {pool : Pool Command State}
    (permits : pool.Permits perform guard schedule) : pool.Permits perform weaker schedule := by
  induction schedule generalizing pool with
  | nil => trivial
  | cons index rest ih =>
      rw [Pool.Permits] at permits ⊢
      cases found : pool.threads[index]? with
      | none =>
          rw [found] at permits
          exact ih permits
      | some program =>
          rw [found] at permits
          cases program with
          | done result => exact ih permits
          | step command next => exact ⟨implies _ _ _ permits.1, ih permits.2⟩

/-- **Following a schedule** whose commands are permitted is an interleaving. -/
theorem PoolRun.follow {guard : Command → State → List (Program Command State Unit) → Prop}
    {begin pool : Pool Command State} {trace : List (Executed Command State)}
    (schedule : List Nat) (permits : pool.Permits perform guard schedule)
    (run : PoolRun perform joins guard begin trace pool) :
    PoolRun perform joins guard begin (trace ++ (pool.follow perform schedule).1)
      (pool.follow perform schedule).2 := by
  induction schedule generalizing trace pool with
  | nil => simpa [Pool.follow] using run
  | cons index rest ih =>
      obtain ⟨state, threads⟩ := pool
      rw [Pool.follow, Pool.advance?]
      rw [Pool.Permits] at permits
      cases found : threads[index]? with
      | none =>
          simp only [found] at permits ⊢
          exact ih permits run
      | some program =>
          cases program with
          | done result =>
              simp only [found] at permits ⊢
              exact ih permits run
          | step command next =>
              simp only [found] at permits ⊢
              rw [List.append_cons]
              apply ih permits.2
              obtain ⟨bound, same⟩ := List.getElem?_eq_some_iff.mp found
              have split : threads = threads.take index ++
                  .step command next :: threads.drop (index + 1) := by
                rw [← same, List.getElem_cons_drop, List.take_append_drop]
              have set : threads.set index (next state) = threads.take index ++
                  next state :: threads.drop (index + 1) :=
                List.set_eq_take_append_cons_drop.trans (if_pos bound)
              rw [set]
              rw [split] at run
              refine .advance run ?_
              rw [← List.eraseIdx_eq_take_drop_succ]
              exact permits.1

/-- Programs that join at once and follow a schedule. -/
theorem Execution.play {programs : List (Program Command State Unit)}
    (joining : ∀ program ∈ programs, joins program) (schedule : List Nat) :
    Execution perform joins (fun _ _ => True) initial
      (Pool.follow perform schedule ⟨initial, programs⟩).1
      (Pool.follow perform schedule ⟨initial, programs⟩).2 :=
  execution_iff_poolRun.mpr (PoolRun.follow schedule
    (Pool.permits_of_free (fun _ _ _ => trivial) schedule _) (PoolRun.joinAll programs joining))

/-- A thread may run to its end at once. -/
theorem PoolRun.finish {guard : Command → State → List (Program Command State Unit) → Prop}
    {begin : Pool Command State} {threads : List (Program Command State Unit)}
    (free : ∀ command state, guard command state threads)
    {trace : List (Executed Command State)} {state : State} {program : Program Command State Unit}
    (run : PoolRun perform joins guard begin trace ⟨state, program :: threads⟩) :
    PoolRun perform joins guard begin (trace ++ program.trace perform state)
      ⟨(program.run perform state).2, .done () :: threads⟩ := by
  induction program generalizing trace state with
  | done result => simpa [Program.trace, Program.run] using run
  | step command next ih =>
      have advanced : PoolRun perform joins guard begin _
          ⟨perform command state, [] ++ next state :: threads⟩ :=
        .advance run (free command state)
      have finished := ih state advanced
      rw [List.append_assoc] at finished
      exact finished

/-- The thread that joined last performs its next command. -/
theorem Execution.advanceFirst {trace : List (Executed Command State)} {state : State}
    {command : Command} {next : State → Program Command State Unit}
    {threads : List (Program Command State Unit)}
    (prior : Execution perform joins allowed initial trace ⟨state, .step command next :: threads⟩)
    (permitted : allowed command state) :
    Execution perform joins allowed initial (trace ++ [⟨command, state, perform command state⟩])
      ⟨perform command state, next state :: threads⟩ :=
  have split : Execution perform joins allowed initial trace
    ⟨state, [] ++ .step command next :: threads⟩ := prior
  .advance split permitted

/-- A program that joins may run to its end at once. -/
theorem Execution.alone (free : ∀ command state, allowed command state)
    {trace : List (Executed Command State)} {state : State}
    {threads : List (Program Command State Unit)}
    (execution : Execution perform joins allowed initial trace ⟨state, threads⟩)
    {program : Program Command State Unit} (joining : joins program) :
    Execution perform joins allowed initial (trace ++ program.trace perform state)
      ⟨(program.run perform state).2, .done () :: threads⟩ :=
  execution_iff_poolRun.mpr ((execution_iff_poolRun.mp execution).join joining |>.finish free)

end Executions

end Foundation
