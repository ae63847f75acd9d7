import MatchmakingMvp.Foundation.Interleaving

/-! # One thread among others

A thread performs its own steps, and others may change the state in any way between any
two of them (`Foundation.ThreadRun`). The steps a thread has performed and the rest of its
program are a path of the program (`Foundation.Program.Path`).
-/

namespace Foundation

variable {Command State Result First Second : Type}

/-- The steps a program has performed, each in whatever state others left, and the rest
of the program. -/
inductive Program.Path (perform : Command → State → State) :
    Program Command State Result → List (Executed Command State) →
      Program Command State Result → Prop
  | stop {program} : Path perform program [] program
  | step {command next rest trace} (state : State) (later : Path perform (next state) trace rest) :
      Path perform (.step command next) (⟨command, state, perform command state⟩ :: trace) rest

/-- The runs of a thread from an initial state: its own steps, the rest of its program and
the current state. Between its steps others perform any commands. -/
inductive ThreadRun (perform : Command → State → State) (program : Program Command State Result)
    (initial : State) :
    List (Executed Command State) → Program Command State Result → State → Prop
  | start : ThreadRun perform program initial [] program initial
  | others {trace rest state} (prior : ThreadRun perform program initial trace rest state)
      (command : Command) : ThreadRun perform program initial trace rest (perform command state)
  | own {trace command next state}
      (prior : ThreadRun perform program initial trace (.step command next) state) :
      ThreadRun perform program initial (trace ++ [⟨command, state, perform command state⟩])
        (next state) (perform command state)

variable {perform : Command → State → State} {program rest : Program Command State Result}
  {initial state : State} {trace : List (Executed Command State)}

/-- Every step of a path is performed where it is issued. -/
theorem Program.Path.performed (path : program.Path perform trace rest) :
    ∀ executed ∈ trace, executed.after = perform executed.command executed.before := by
  induction path with
  | stop => simp
  | step _ _ ih => simpa using ih

theorem Program.Path.snoc {command : Command} {next : State → Program Command State Result}
    (path : program.Path perform trace (.step command next)) (state : State) :
    program.Path perform (trace ++ [⟨command, state, perform command state⟩]) (next state) := by
  generalize last : Program.step command next = rest at path
  induction path with
  | stop =>
      subst last
      exact .step state .stop
  | step earlier _ ih => exact .step earlier (ih last)

theorem ThreadRun.path (run : ThreadRun perform program initial trace rest state) :
    program.Path perform trace rest := by
  induction run with
  | start => exact .stop
  | others _ _ ih => exact ih
  | own _ ih => exact ih.snoc _

/-- What every command keeps holds in the current state. -/
theorem ThreadRun.invariant (invariant : State → Prop) (begins : invariant initial)
    (kept : ∀ command state, invariant state → invariant (perform command state))
    (run : ThreadRun perform program initial trace rest state) : invariant state := by
  induction run with
  | start => exact begins
  | others _ command ih => exact kept command _ ih
  | own _ ih => exact kept _ _ ih

/-- A thread that is left alone. -/
theorem ThreadRun.alone (run : ThreadRun perform program initial trace rest state) :
    ThreadRun perform program initial (trace ++ rest.trace perform state)
      (.done (rest.run perform state).1) (rest.run perform state).2 := by
  induction rest generalizing trace state with
  | done result => simpa [Program.trace, Program.run] using run
  | step command next ih =>
      have finished := ih state run.own
      rw [List.append_assoc] at finished
      exact finished

/-- Every step of a path of a program that follows stages is issued between two stages. -/
theorem Program.Follows.path {Stage : Type} {invariant : State → Prop}
    {before : State → State → Prop} {issues : Command → State → Stage → Stage → Prop}
    {post : State → Stage → Result → Prop} (always : ∀ first second, before first second)
    {seen : State} {stage : Stage}
    (follows : program.Follows perform invariant before issues post seen stage)
    (path : program.Path perform trace rest)
    (holds : ∀ executed ∈ trace, invariant executed.before) :
    ∀ executed ∈ trace, ∃ stage stage', issues executed.command executed.before stage stage' := by
  induction path generalizing seen stage with
  | stop => simp
  | step state later ih =>
      obtain ⟨stage', issued, remaining⟩ :=
        follows state (always _ _) (holds _ List.mem_cons_self)
      intro executed member
      rcases List.mem_cons.mp member with rfl | behind
      · exact ⟨stage, stage', issued⟩
      · exact ih remaining (fun other inside => holds other (List.mem_cons_of_mem _ inside))
          executed behind

end Foundation
