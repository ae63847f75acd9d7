import MatchmakingMvp.Foundation.Interleaving

/-! # Monitors

Worker threads that share a mutex and a condition variable. Each thread runs a loop: under
the mutex it waits, with a deadline, until a job is available for it, and then it performs
the job without the mutex (`Foundation.WorkerPhase`). One more thread, the keeper, may do upkeep
from time to time (`Foundation.KeeperPhase`), and callers perform commands beside them.
Some commands need the mutex, and after some of those the caller notifies all waiting threads.
Stopping the threads lowers a flag, notifies them and joins them and the keeper.

A thread that sleeps while no notification is owed rests soundly
(`Foundation.Monitor.Reached.attentive`), and where no thread can take a step every one of
them rests or has finished (`Foundation.Monitor.Reached.stalled`). Once the flag is down no
thread begins a job (`Foundation.Monitor.not_working_of_flagged`) and only a keeper that rests
begins its upkeep (`Foundation.Monitor.not_resting_of_flagged`), but the notification of the
stop reaches only the threads that wait already (`Foundation.Monitor.Missed.remains`).
-/

namespace Foundation

variable {Command State : Type}

/-- A program that is under way. After a command that notifies it owes the notification. -/
structure Runner (Command State : Type) where
  rest : Program Command State Unit
  owes : Bool := false

/-- How far a worker thread is in its loop. -/
inductive WorkerPhase (Command State : Type) : Type
  | starting
  | locking
  | checking
  | looking
  | timing
  | entering (deadline : Int)
  | waiting (deadline : Int)
  | waking
  | leaving
  | deciding
  | working (runner : Runner Command State)
  | finished

namespace WorkerPhase

/-- The thread has the mutex. -/
def holds : WorkerPhase Command State → Bool
  | .checking | .looking | .timing | .entering _ | .leaving => true
  | .starting | .locking | .waiting _ | .waking | .deciding | .working _ | .finished => false

/-- The phase after a notification. -/
def notified : WorkerPhase Command State → WorkerPhase Command State
  | .waiting _ => .waking
  | phase => phase

/-- The thread's job owes a notification. -/
def owes : WorkerPhase Command State → Bool
  | .working runner => runner.owes
  | _ => false

/-- The thread is performing a job. -/
def isWorking : WorkerPhase Command State → Bool
  | .working _ => true
  | _ => false

/-- The program the thread is performing. -/
def programs : WorkerPhase Command State → Multiset (Program Command State Unit)
  | .working runner => {runner.rest}
  | _ => 0

@[simp] theorem programs_notified (phase : WorkerPhase Command State) :
    phase.notified.programs = phase.programs := by
  cases phase <;> rfl

@[simp] theorem isWorking_notified (phase : WorkerPhase Command State) :
    phase.notified.isWorking = phase.isWorking := by
  cases phase <;> rfl

@[simp] theorem notified_eq_finished {phase : WorkerPhase Command State} :
    phase.notified = .finished ↔ phase = .finished := by
  cases phase <;> simp [notified]

end WorkerPhase

/-- How far the keeper is. It rests between two rounds of upkeep, and looks at the flag only before
it rests. -/
inductive KeeperPhase (Command State : Type) : Type
  | starting
  | deciding
  | resting
  | working (runner : Runner Command State)
  | finished

namespace KeeperPhase

/-- The upkeep owes a notification. -/
def owes : KeeperPhase Command State → Bool
  | .working runner => runner.owes
  | _ => false

/-- The keeper is at its upkeep. -/
def isWorking : KeeperPhase Command State → Bool
  | .working _ => true
  | _ => false

/-- The program the keeper is performing. -/
def programs : KeeperPhase Command State → Multiset (Program Command State Unit)
  | .working runner => {runner.rest}
  | _ => 0

end KeeperPhase

/-- How far the call that stops the threads is. -/
inductive StopPhase
  | idle | flagged | joining | stopped
deriving DecidableEq

/-- The code around the mutex: which commands need it and which are followed by a notification,
when a job is available for a thread, until when a thread waits otherwise, whether there is
upkeep, and the programs of the jobs, of the upkeep and of the callers. -/
structure Monitor (Command State : Type) where
  perform : Command → State → State
  workerCount : Nat
  locks : Command → Bool
  notifies : Command → State → Bool
  locks_of_notifies : ∀ {command state}, notifies command state = true → locks command = true
  isAvailable : Nat → State → Bool
  deadline : Nat → State → Int
  jobs : Nat → Program Command State Unit → Prop
  exists_job : ∀ index, ∃ program, jobs index program
  isKept : Bool
  upkeep : Program Command State Unit → Prop
  calls : Program Command State Unit → Prop

namespace Monitor

/-- The shared state, the worker threads, the keeper, the callers and the call that stops the
threads. -/
structure Config (Command State : Type) where
  state : State
  isRunning : Bool := true
  threads : Nat → WorkerPhase Command State
  keeper : KeeperPhase Command State := .starting
  callers : List (Runner Command State) := []
  stop : StopPhase := .idle

namespace Config

variable (config : Config Command State)

@[simps] def withThread (index : Nat) (phase : WorkerPhase Command State) :
    Config Command State :=
  { config with threads := Function.update config.threads index phase }

@[simp] theorem withThread_withThread (index : Nat) (phase next : WorkerPhase Command State) :
    (config.withThread index phase).withThread index next = config.withThread index next :=
  congrArg (fun threads => { config with threads }) (Function.update_idem ..)

/-- Notify all waiting threads. -/
@[simps] def wakeAll : Config Command State :=
  { config with threads := fun index => (config.threads index).notified }

/-- No thread has the mutex. -/
def Free : Prop := ∀ index, (config.threads index).holds = false

/-- Somebody owes a notification. -/
def Owes : Prop :=
  (∃ caller ∈ config.callers, caller.owes = true) ∨
    (∃ index, (config.threads index).owes = true) ∨ config.keeper.owes = true

/-- The keeper moves on, and nothing else changes. -/
@[simps] def withKeeper (phase : KeeperPhase Command State) : Config Command State :=
  { config with keeper := phase }

end Config

variable (monitor : Monitor Command State)

/-- The threads have been started. -/
def begin (state : State) : Config Command State where
  state := state
  threads := fun index => if index < monitor.workerCount then .starting else .finished

/-- What a worker thread does next. -/
inductive ThreadStep (index : Nat) (config : Config Command State) :
    Config Command State → Prop
  | begin (here : config.threads index = .starting) :
      ThreadStep index config
        (config.withThread index (if config.isRunning then .locking else .finished))
  | lock (here : config.threads index = .locking) (free : config.Free) :
      ThreadStep index config (config.withThread index .checking)
  | check (here : config.threads index = .checking) :
      ThreadStep index config
        (config.withThread index (if config.isRunning then .looking else .leaving))
  | look (here : config.threads index = .looking) :
      ThreadStep index config (config.withThread index
        (if monitor.isAvailable index config.state then .leaving else .timing))
  | time (here : config.threads index = .timing) :
      ThreadStep index config
        (config.withThread index (.entering (monitor.deadline index config.state)))
  | sleep {deadline} (here : config.threads index = .entering deadline) :
      ThreadStep index config (config.withThread index (.waiting deadline))
  | relock (here : config.threads index = .waking) (free : config.Free) :
      ThreadStep index config (config.withThread index .checking)
  | unlock (here : config.threads index = .leaving) :
      ThreadStep index config (config.withThread index .deciding)
  | quit (here : config.threads index = .deciding) (down : config.isRunning = false) :
      ThreadStep index config (config.withThread index .finished)
  | work {program} (here : config.threads index = .deciding) (up : config.isRunning = true)
      (job : monitor.jobs index program) :
      ThreadStep index config (config.withThread index (.working { rest := program }))
  | perform {command next} (here : config.threads index = .working ⟨.step command next, false⟩)
      (unlocked : monitor.locks command = true → config.Free) :
      ThreadStep index config
        { config.withThread index
            (.working ⟨next config.state, monitor.notifies command config.state⟩) with
          state := monitor.perform command config.state }
  | notify {rest} (here : config.threads index = .working ⟨rest, true⟩) :
      ThreadStep index config (config.wakeAll.withThread index (.working ⟨rest, false⟩))
  | complete (here : config.threads index = .working ⟨.done (), false⟩) :
      ThreadStep index config (config.withThread index .starting)

/-- What the keeper does next. -/
inductive KeeperStep (config : Config Command State) : Config Command State → Prop
  | begin (here : config.keeper = .starting) :
      KeeperStep config (config.withKeeper (if monitor.isKept then .deciding else .finished))
  | decide (here : config.keeper = .deciding) :
      KeeperStep config (config.withKeeper (if config.isRunning then .resting else .finished))
  | work {program} (here : config.keeper = .resting) (upkeep : monitor.upkeep program) :
      KeeperStep config (config.withKeeper (.working { rest := program }))
  | perform {command next} (here : config.keeper = .working ⟨.step command next, false⟩)
      (unlocked : monitor.locks command = true → config.Free) :
      KeeperStep config
        { config.withKeeper
            (.working ⟨next config.state, monitor.notifies command config.state⟩) with
          state := monitor.perform command config.state }
  | notify {rest} (here : config.keeper = .working ⟨rest, true⟩) :
      KeeperStep config (config.wakeAll.withKeeper (.working ⟨rest, false⟩))
  | complete (here : config.keeper = .working ⟨.done (), false⟩) :
      KeeperStep config (config.withKeeper .deciding)

/-- What happens beside the worker threads and the keeper. A wait may end at any moment: at its
deadline, or spuriously. -/
inductive OtherStep (config : Config Command State) : Config Command State → Prop
  | wake {index deadline} (here : config.threads index = .waiting deadline) :
      OtherStep config (config.withThread index .waking)
  | call {program} (called : monitor.calls program) :
      OtherStep config { config with callers := { rest := program } :: config.callers }
  | perform {front command next back}
      (callers : config.callers = front ++ ⟨.step command next, false⟩ :: back)
      (unlocked : monitor.locks command = true → config.Free) :
      OtherStep config
        { config with
          state := monitor.perform command config.state
          callers :=
            front ++ ⟨next config.state, monitor.notifies command config.state⟩ :: back }
  | notify {front rest back} (callers : config.callers = front ++ ⟨rest, true⟩ :: back) :
      OtherStep config { config.wakeAll with callers := front ++ ⟨rest, false⟩ :: back }
  | stop (idle : config.stop = .idle) :
      OtherStep config { config with isRunning := false, stop := .flagged }
  | stopNotify (flagged : config.stop = .flagged) :
      OtherStep config { config.wakeAll with stop := .joining }
  | join (joining : config.stop = .joining)
      (finished : ∀ index < monitor.workerCount, config.threads index = .finished)
      (keeper : config.keeper = .finished) :
      OtherStep config { config with stop := .stopped }

inductive Step (config after : Config Command State) : Prop
  | thread {index} (step : monitor.ThreadStep index config after)
  | keeper (step : monitor.KeeperStep config after)
  | other (step : monitor.OtherStep config after)

/-- The configurations of all interleavings. -/
inductive Reached (initial : State) : Config Command State → Prop
  | start : Reached initial (monitor.begin initial)
  | step {config after} (before : Reached initial config) (step : monitor.Step config after) :
      Reached initial after

variable {monitor} {initial : State} {config after : Config Command State}

theorem Reached.trans (reached : monitor.Reached initial config)
    (later : Relation.ReflTransGen monitor.Step config after) : monitor.Reached initial after := by
  induction later with
  | refl => exact reached
  | tail _ step ih => exact ih.step step

/-- A thread that has finished stays so. -/
theorem Step.finished (step : monitor.Step config after) {index : Nat}
    (finished : config.threads index = .finished) : after.threads index = .finished := by
  have elsewhere : ∀ {other : Nat} {phase next : WorkerPhase Command State},
      config.threads other = phase → phase ≠ .finished →
        Function.update config.threads other next index = .finished := by
    intro other phase next here alive
    rw [Function.update_of_ne, finished]
    rintro rfl
    exact alive (here ▸ finished)
  have woken : (config.threads index).notified = .finished := by
    rw [finished]
    rfl
  cases step with
  | thread step =>
      cases step with
      | notify here =>
          rw [Config.withThread_threads, Function.update_of_ne]
          · exact woken
          rintro rfl
          rw [here] at finished
          cases finished
      | begin here | lock here | check here | look here | time here | sleep here | relock here
      | unlock here | quit here | work here | perform here | complete here =>
          exact elsewhere here nofun
  | keeper step =>
      cases step with
      | notify => exact woken
      | begin | decide | work | perform | complete => exact finished
  | other step =>
      cases step with
      | wake here => exact elsewhere here nofun
      | notify | stopNotify => exact woken
      | call | perform | stop | join => exact finished

/-- A keeper that has finished stays so. -/
theorem Step.keeper_finished (step : monitor.Step config after)
    (finished : config.keeper = .finished) : after.keeper = .finished := by
  cases step with
  | thread step => cases step <;> exact finished
  | keeper step =>
      cases step with
      | begin here | decide here | work here | perform here | notify here | complete here =>
          rw [finished] at here
          cases here
  | other step => cases step <;> exact finished

/-! ## No deadlock -/

/-- A thread that has the mutex can go on. -/
theorem exists_threadStep_of_holds {index : Nat} (holds : (config.threads index).holds = true) :
    ∃ after, monitor.ThreadStep index config after := by
  cases here : config.threads index with
  | checking => exact ⟨_, .check here⟩
  | looking => exact ⟨_, .look here⟩
  | timing => exact ⟨_, .time here⟩
  | entering deadline => exact ⟨_, .sleep here⟩
  | leaving => exact ⟨_, .unlock here⟩
  | starting | locking | waiting | waking | deciding | working | finished =>
      rw [here] at holds
      cases holds

/-- A thread that needs the mutex can have it, or the thread that has it can go on. -/
theorem exists_threadStep_of_needs {index : Nat}
    (proceeds : config.Free → ∃ after, monitor.ThreadStep index config after) :
    ∃ other after, monitor.ThreadStep other config after := by
  by_cases free : config.Free
  · exact ⟨index, proceeds free⟩
  · rw [Config.Free, not_forall] at free
    obtain ⟨other, holds⟩ := free
    exact ⟨other, exists_threadStep_of_holds (Bool.not_eq_false _ ▸ holds)⟩

/-- **No deadlock.** While some thread neither waits nor has finished, some thread can take a
step. -/
theorem exists_threadStep {index : Nat}
    (awake : ∀ deadline, config.threads index ≠ .waiting deadline)
    (alive : config.threads index ≠ .finished) :
    ∃ other after, monitor.ThreadStep other config after := by
  cases here : config.threads index with
  | starting => exact ⟨_, _, .begin here⟩
  | locking => exact exists_threadStep_of_needs fun free => ⟨_, .lock here free⟩
  | checking | looking | timing | entering | leaving =>
      exact ⟨index, exists_threadStep_of_holds (by rw [here]; rfl)⟩
  | waiting deadline => exact (awake deadline here).elim
  | waking => exact exists_threadStep_of_needs fun free => ⟨_, .relock here free⟩
  | deciding =>
      cases running : config.isRunning with
      | true =>
          obtain ⟨program, job⟩ := monitor.exists_job index
          exact ⟨_, _, .work here running job⟩
      | false => exact ⟨_, _, .quit here running⟩
  | working runner =>
      obtain ⟨rest, owes⟩ := runner
      cases owes with
      | true => exact ⟨_, _, .notify here⟩
      | false =>
          cases rest with
          | done => exact ⟨_, _, .complete here⟩
          | step command next =>
              exact exists_threadStep_of_needs fun free => ⟨_, .perform here fun _ => free⟩
  | finished => exact (alive here).elim

/-! ## The interleavings of the programs -/

namespace Config

/-- The programs that are under way, without the one of a thread. -/
def programsBeside (workerCount index : Nat) (config : Config Command State) :
    Multiset (Program Command State Unit) :=
  (config.callers.map Runner.rest : Multiset _) + config.keeper.programs +
    ∑ other ∈ (Finset.range workerCount).erase index, (config.threads other).programs

/-- The programs that are under way. -/
def programs (workerCount : Nat) (config : Config Command State) :
    Multiset (Program Command State Unit) :=
  (config.callers.map Runner.rest : Multiset _) + config.keeper.programs +
    ∑ index ∈ Finset.range workerCount, (config.threads index).programs

variable {workerCount index : Nat}

theorem programs_eq (below : index < workerCount) (config : Config Command State) :
    config.programs workerCount =
      (config.threads index).programs + config.programsBeside workerCount index := by
  rw [programs, programsBeside, ← Finset.add_sum_erase _ _ (Finset.mem_range.mpr below),
    add_left_comm]

@[simp] theorem programsBeside_withThread (phase : WorkerPhase Command State) :
    (config.withThread index phase).programsBeside workerCount index =
      config.programsBeside workerCount index := by
  refine congrArg (_ + ·) (Finset.sum_congr rfl fun other inside => ?_)
  rw [withThread_threads, Function.update_of_ne (Finset.ne_of_mem_erase inside)]

/-- A thread moves on and begins or goes on with at most the programs given. -/
theorem programs_withThread (below : index < workerCount) (phase : WorkerPhase Command State) :
    (config.withThread index phase).programs workerCount =
      phase.programs + config.programsBeside workerCount index := by
  rw [programs_eq below, programsBeside_withThread, withThread_threads, Function.update_self]

@[simp] theorem programsBeside_wakeAll :
    config.wakeAll.programsBeside workerCount index = config.programsBeside workerCount index := by
  simp [programsBeside]

@[simp] theorem programs_wakeAll :
    config.wakeAll.programs workerCount = config.programs workerCount := by
  simp [programs]

end Config

/-- The threads beyond the last have nothing to do. -/
def Config.Confined (workerCount : Nat) (config : Config Command State) : Prop :=
  ∀ index, workerCount ≤ index → config.threads index = .finished

/-- The threads of an interleaving that ends in the state are the programs under way and the
jobs that are done. -/
def Config.Interleaves (monitor : Monitor Command State)
    (joins : Program Command State Unit → Prop) (initial : State)
    (config : Config Command State) : Prop :=
  ∃ trace threads ended, Execution monitor.perform joins (fun _ _ => True) initial trace
      ⟨config.state, threads⟩ ∧
    (threads : Multiset (Program Command State Unit)) =
      config.programs monitor.workerCount + Multiset.replicate ended (.done ())

section Interleaves

variable {joins : Program Command State Unit → Prop}

theorem Config.Interleaves.same (interleaves : config.Interleaves monitor joins initial)
    (state : after.state = config.state)
    (programs : after.programs monitor.workerCount = config.programs monitor.workerCount) :
    after.Interleaves monitor joins initial := by
  obtain ⟨trace, threads, ended, execution, split⟩ := interleaves
  exact ⟨trace, threads, ended, state ▸ execution, programs ▸ split⟩

theorem Config.Interleaves.complete (interleaves : config.Interleaves monitor joins initial)
    (state : after.state = config.state)
    (programs : config.programs monitor.workerCount =
      {.done ()} + after.programs monitor.workerCount) :
    after.Interleaves monitor joins initial := by
  obtain ⟨trace, threads, ended, execution, split⟩ := interleaves
  refine ⟨trace, threads, ended + 1, state ▸ execution, ?_⟩
  rw [split, programs, Multiset.replicate_succ, ← Multiset.singleton_add, add_assoc,
    add_left_comm]

theorem Config.Interleaves.join (interleaves : config.Interleaves monitor joins initial)
    {program : Program Command State Unit} (joining : joins program)
    (state : after.state = config.state)
    (programs : after.programs monitor.workerCount =
      {program} + config.programs monitor.workerCount) :
    after.Interleaves monitor joins initial := by
  obtain ⟨trace, threads, ended, execution, split⟩ := interleaves
  refine ⟨trace, program :: threads, ended, state ▸ execution.join joining, ?_⟩
  rw [← Multiset.cons_coe, ← Multiset.singleton_add, split, programs, add_assoc]

/-- A program that is under way performs its next command. -/
theorem Config.Interleaves.advance (interleaves : config.Interleaves monitor joins initial)
    {command : Command} (next : State → Program Command State Unit)
    (others : Multiset (Program Command State Unit))
    (state : after.state = monitor.perform command config.state)
    (before : config.programs monitor.workerCount = {.step command next} + others)
    (later : after.programs monitor.workerCount = {next config.state} + others) :
    after.Interleaves monitor joins initial := by
  obtain ⟨trace, threads, ended, execution, split⟩ := interleaves
  have inside : .step command next ∈ threads := by
    rw [← Multiset.mem_coe, split, before]
    simp
  obtain ⟨front, back, rfl⟩ := List.append_of_mem inside
  have rotate : ∀ program : Program Command State Unit,
      (↑(front ++ program :: back) : Multiset (Program Command State Unit)) =
        {program} + ↑(front ++ back) := fun program => by
    rw [Multiset.singleton_add, Multiset.cons_coe, Multiset.coe_eq_coe]
    exact List.perm_middle
  rw [rotate, before, add_assoc] at split
  refine ⟨_, _, ended, state ▸ execution.advance trivial, ?_⟩
  rw [rotate, later, add_assoc, add_left_cancel split]

theorem Config.Interleaves.threadStep (interleaves : config.Interleaves monitor joins initial)
    (confined : config.Confined monitor.workerCount)
    (jobs : ∀ index program, monitor.jobs index program → joins program) {index : Nat}
    (step : monitor.ThreadStep index config after) : after.Interleaves monitor joins initial := by
  have below : ∀ {phase}, config.threads index = phase → phase ≠ .finished →
      index < monitor.workerCount := fun here alive =>
    not_le.mp fun beyond => alive (here ▸ confined index beyond)
  have moved : ∀ {phase next : WorkerPhase Command State}, config.threads index = phase →
      phase ≠ .finished → phase.programs = 0 → next.programs = 0 →
        (config.withThread index next).Interleaves monitor joins initial := by
    intro phase next here alive idle none
    refine interleaves.same rfl ?_
    rw [Config.programs_withThread (below here alive), none,
      Config.programs_eq (below here alive) config, here, idle]
  cases step with
  | begin here | check here | look here =>
      exact moved here (by simp) rfl (by split_ifs <;> rfl)
  | lock here | time here | sleep here | relock here | unlock here | quit here =>
      exact moved here (by simp) rfl rfl
  | complete here =>
      refine interleaves.complete rfl ?_
      rw [Config.programs_eq (below here (by simp)) config,
        Config.programs_withThread (below here (by simp)), here]
      exact congrArg (_ + ·) (zero_add _).symm
  | work here _ job =>
      refine interleaves.join (jobs _ _ job) rfl ?_
      rw [Config.programs_withThread (below here (by simp)),
        Config.programs_eq (below here (by simp)) config, here]
      exact congrArg (_ + ·) (zero_add _).symm
  | @perform command next here =>
      refine interleaves.advance next (config.programsBeside monitor.workerCount index) rfl ?_ ?_
      · rw [Config.programs_eq (below here (by simp)) config, here]
        rfl
      · exact Config.programs_withThread (below here (by simp)) _
  | notify here =>
      refine interleaves.same rfl ?_
      rw [Config.programs_withThread (below here (by simp)), Config.programsBeside_wakeAll,
        Config.programs_eq (below here (by simp)) config, here]
      rfl

/-- What the keeper takes up is its program. -/
theorem Config.programs_withKeeper (workerCount : Nat) (config : Config Command State)
    (phase : KeeperPhase Command State) :
    (config.withKeeper phase).programs workerCount =
      phase.programs + (config.withKeeper .finished).programs workerCount := by
  have unkept : (KeeperPhase.finished : KeeperPhase Command State).programs = 0 := rfl
  simp only [Config.programs, Config.withKeeper_callers, Config.withKeeper_keeper,
    Config.withKeeper_threads, unkept, add_zero]
  rw [add_comm _ phase.programs, add_assoc]

theorem Config.Interleaves.keeperStep (interleaves : config.Interleaves monitor joins initial)
    (upkeep : ∀ program, monitor.upkeep program → joins program)
    (step : monitor.KeeperStep config after) : after.Interleaves monitor joins initial := by
  have split : ∀ {phase}, config.keeper = phase → config.programs monitor.workerCount =
      phase.programs + (config.withKeeper .finished).programs monitor.workerCount := by
    rintro phase rfl
    exact Config.programs_withKeeper _ config _
  have moved : ∀ {phase next : KeeperPhase Command State}, config.keeper = phase →
      phase.programs = 0 → next.programs = 0 →
        (config.withKeeper next).Interleaves monitor joins initial := by
    intro phase next here idle none
    refine interleaves.same rfl ?_
    rw [Config.programs_withKeeper, split here, idle, none]
  cases step with
  | begin here | decide here => exact moved here rfl (by split_ifs <;> rfl)
  | work here kept =>
      refine interleaves.join (upkeep _ kept) rfl ?_
      rw [Config.programs_withKeeper, split here]
      exact congrArg (_ + ·) (zero_add _).symm
  | @perform command next here =>
      refine interleaves.advance next
        ((config.withKeeper .finished).programs monitor.workerCount) rfl (split here) ?_
      exact Config.programs_withKeeper _ config _
  | notify here =>
      refine interleaves.same rfl ?_
      rw [Config.programs_withKeeper, split here]
      have woken : (config.withKeeper .finished).wakeAll.programs monitor.workerCount =
          (config.withKeeper .finished).programs monitor.workerCount := Config.programs_wakeAll
      exact congrArg (_ + ·) woken
  | complete here =>
      refine interleaves.complete rfl ?_
      rw [Config.programs_withKeeper, split here]
      exact congrArg (_ + ·) (zero_add _).symm

theorem Config.Interleaves.otherStep (interleaves : config.Interleaves monitor joins initial)
    (confined : config.Confined monitor.workerCount)
    (calls : ∀ program, monitor.calls program → joins program)
    (step : monitor.OtherStep config after) : after.Interleaves monitor joins initial := by
  cases step with
  | @wake index deadline here =>
      have below : index < monitor.workerCount := not_le.mp fun beyond => by
        rw [confined index beyond] at here
        cases here
      refine interleaves.same rfl ?_
      rw [Config.programs_withThread below, Config.programs_eq below config, here]
      rfl
  | call called =>
      refine interleaves.join (calls _ called) rfl ?_
      rw [Config.programs, Config.programs, List.map_cons, ← Multiset.cons_coe,
        ← Multiset.singleton_add, add_assoc, add_assoc, add_assoc]
  | @perform front command next back callers =>
      have split : ∀ runner : Runner Command State,
          (((front ++ runner :: back).map Runner.rest : List _) :
            Multiset (Program Command State Unit)) =
            {runner.rest} + ((front ++ back).map Runner.rest : List _) := fun runner => by
        rw [Multiset.singleton_add, Multiset.cons_coe, Multiset.coe_eq_coe, List.map_append,
          List.map_append]
        exact List.perm_middle
      refine interleaves.advance next (((front ++ back).map Runner.rest : List _) +
        (config.keeper.programs +
          ∑ index ∈ Finset.range monitor.workerCount, (config.threads index).programs)) rfl ?_ ?_
      · rw [Config.programs, callers, split, add_assoc, add_assoc]
      · refine (add_assoc _ _ _).trans ?_
        exact (congrArg (· + _) (split _)).trans (add_assoc _ _ _)
  | @notify front rest back callers =>
      refine interleaves.same rfl ?_
      simp [Config.programs, callers]
  | stopNotify => exact interleaves.same rfl Config.programs_wakeAll
  | stop | join => exact interleaves.same rfl rfl

end Interleaves

/-- **The threads interleave their programs.** What holds after every interleaving of the jobs, the
upkeep and the callers' programs holds whatever the threads do. -/
theorem Reached.interleaves (reached : monitor.Reached initial config)
    {joins : Program Command State Unit → Prop}
    (jobs : ∀ index program, monitor.jobs index program → joins program)
    (upkeep : ∀ program, monitor.upkeep program → joins program)
    (calls : ∀ program, monitor.calls program → joins program) :
    config.Interleaves monitor joins initial := by
  suffices config.Confined monitor.workerCount ∧ config.Interleaves monitor joins initial from
    this.2
  induction reached with
  | start =>
      have none : (monitor.begin initial).programs monitor.workerCount = 0 := by
        refine (zero_add _).trans (Finset.sum_eq_zero fun index _ => ?_)
        simp only [Monitor.begin]
        split_ifs <;> rfl
      refine ⟨fun index beyond => if_neg (not_lt.mpr beyond), [], [], 0, .start, ?_⟩
      rw [none]
      rfl
  | step _ step ih =>
      refine ⟨fun index beyond => step.finished (ih.1 index beyond), ?_⟩
      cases step with
      | thread step => exact ih.2.threadStep ih.1 jobs step
      | keeper step => exact ih.2.keeperStep upkeep step
      | other step => exact ih.2.otherStep ih.1 calls step

/-! ## No lost notification -/

/-- What a thread relies on while it sleeps: `idle` is what it knows after it found no job,
and `rests` what it knows once it has a deadline. Only commands that notify may end either. -/
structure Rest (monitor : Monitor Command State) where
  invariant : State → Prop
  idle : Nat → State → Prop
  rests : Nat → Int → State → Prop
  kept : ∀ {command state}, invariant state → invariant (monitor.perform command state)
  idle_of_unavailable : ∀ {index state}, invariant state →
    monitor.isAvailable index state = false → idle index state
  rests_of_idle : ∀ {index state}, invariant state → idle index state →
    rests index (monitor.deadline index state) state
  idle_perform : ∀ {index command state}, invariant state →
    monitor.notifies command state = false → idle index state →
    idle index (monitor.perform command state)
  rests_perform : ∀ {index deadline command state}, invariant state →
    monitor.notifies command state = false → rests index deadline state →
    rests index deadline (monitor.perform command state)

namespace Rest

variable (rest : monitor.Rest)

/-- What a thread knows in a phase, where `owed` says that somebody owes a notification. -/
def Attends (index : Nat) (state : State) (owed : Prop) : WorkerPhase Command State → Prop
  | .timing => rest.idle index state
  | .entering deadline => rest.rests index deadline state
  | .waiting deadline => rest.rests index deadline state ∨ owed
  | _ => True

/-- Every thread knows what its phase says. -/
structure Attentive (config : Config Command State) : Prop where
  invariant : rest.invariant config.state
  attends : ∀ index, rest.Attends index config.state config.Owes (config.threads index)

variable {rest} {index : Nat} {state : State} {owed : Prop} {phase : WorkerPhase Command State}

theorem Attends.mono {owed' : Prop} (attends : rest.Attends index state owed phase)
    (implies : owed → owed') : rest.Attends index state owed' phase := by
  cases phase with
  | waiting deadline => exact Or.imp_right implies attends
  | _ => exact attends

theorem Attends.notified {owed' : Prop} (attends : rest.Attends index state owed phase) :
    rest.Attends index state owed' phase.notified := by
  cases phase with
  | waiting deadline => trivial
  | _ => exact attends

/-- A command leaves the thread with what it knows, unless it notifies and leaves the
notification owed. It does not notify while a thread has the mutex. -/
theorem Attends.perform {command : Command} {owed' : Prop} (holds : rest.invariant state)
    (attends : rest.Attends index state owed phase) (implies : owed → owed')
    (owes : monitor.notifies command state = true → owed' ∧ phase.holds = false) :
    rest.Attends index (monitor.perform command state) owed' phase := by
  cases notifies : monitor.notifies command state with
  | true =>
      obtain ⟨owed, free⟩ := owes notifies
      cases phase with
      | waiting deadline => exact Or.inr owed
      | timing | entering deadline => cases free
      | starting | locking | checking | looking | waking | leaving | deciding | working
      | finished => trivial
  | false =>
      cases phase with
      | timing => exact rest.idle_perform holds notifies attends
      | entering deadline => exact rest.rests_perform holds notifies attends
      | waiting deadline => exact attends.imp (rest.rests_perform holds notifies) implies
      | starting | locking | checking | looking | waking | leaving | deciding | working
      | finished => trivial

end Rest

theorem Config.Owes.withThread (owes : config.Owes) {index : Nat}
    {phase : WorkerPhase Command State}
    (kept : (config.threads index).owes = true → phase.owes = true) :
    (config.withThread index phase).Owes := by
  refine owes.imp_right (Or.imp_left fun ⟨other, owing⟩ => ⟨other, ?_⟩)
  by_cases same : other = index
  · subst same
    simpa using kept owing
  · simpa [Function.update_of_ne same] using owing

section Attention

variable {rest : monitor.Rest}

/-- A thread moves on to a phase whose knowledge it has. -/
theorem Rest.Attentive.withThread (attentive : rest.Attentive config) {index : Nat}
    {phase : WorkerPhase Command State}
    (kept : (config.threads index).owes = true → phase.owes = true)
    (attends : rest.Attends index config.state config.Owes phase) :
    rest.Attentive (config.withThread index phase) := by
  refine ⟨attentive.invariant, fun other => ?_⟩
  have owes : config.Owes → (config.withThread index phase).Owes := (·.withThread kept)
  rw [Config.withThread_threads]
  by_cases same : other = index
  · subst same
    rw [Function.update_self]
    exact attends.mono owes
  · rw [Function.update_of_ne same]
    exact (attentive.attends other).mono owes

theorem Rest.Attentive.wakeAll (attentive : rest.Attentive config) :
    rest.Attentive config.wakeAll :=
  ⟨attentive.invariant, fun index => (attentive.attends index).notified⟩

/-- Every thread keeps what it knows where the callers or a job go on. -/
theorem Rest.Attentive.perform (attentive : rest.Attentive config) {command : Command}
    (unlocked : monitor.locks command = true → config.Free)
    (state : after.state = monitor.perform command config.state)
    (owes : config.Owes → after.Owes)
    (notifies : monitor.notifies command config.state = true → after.Owes)
    (threads : ∀ index, after.threads index = config.threads index ∨
      ∃ runner, after.threads index = .working runner) :
    rest.Attentive after := by
  refine ⟨state ▸ rest.kept attentive.invariant, fun index => ?_⟩
  rcases threads index with same | ⟨runner, working⟩
  · rw [same, state]
    exact (attentive.attends index).perform attentive.invariant owes fun notifying =>
      ⟨notifies notifying, unlocked (monitor.locks_of_notifies notifying) index⟩
  · rw [working]
    trivial

theorem Rest.Attentive.threadStep (attentive : rest.Attentive config) {index : Nat}
    (step : monitor.ThreadStep index config after) : rest.Attentive after := by
  have quiet : ∀ {phase}, config.threads index = phase → phase.owes = false →
      ∀ {next : WorkerPhase Command State}, (config.threads index).owes = true →
        next.owes = true := by
    intro phase here silent next owing
    rw [here, silent] at owing
    cases owing
  cases step with
  | begin here =>
      refine attentive.withThread (quiet here rfl) ?_
      split_ifs <;> trivial
  | check here =>
      refine attentive.withThread (quiet here rfl) ?_
      split_ifs <;> trivial
  | look here =>
      refine attentive.withThread (quiet here rfl) ?_
      cases available : monitor.isAvailable index config.state with
      | true => trivial
      | false => exact rest.idle_of_unavailable attentive.invariant available
  | time here =>
      have idle := attentive.attends index
      rw [here] at idle
      exact attentive.withThread (quiet here rfl)
        (rest.rests_of_idle attentive.invariant idle)
  | sleep here =>
      have rests := attentive.attends index
      rw [here] at rests
      exact attentive.withThread (quiet here rfl) (Or.inl rests)
  | lock here | relock here | unlock here | quit here | complete here | work here =>
      exact attentive.withThread (quiet here rfl) trivial
  | perform here unlocked =>
      refine attentive.perform unlocked rfl (fun owes => ?_) (fun notifies => ?_) fun other => ?_
      · exact owes.withThread (quiet here rfl)
      · exact Or.inr (Or.inl ⟨index, by simpa [WorkerPhase.owes] using notifies⟩)
      · by_cases same : other = index
        · subst same
          exact Or.inr ⟨_, Function.update_self ..⟩
        · exact Or.inl (Function.update_of_ne same _ _)
  | notify here =>
      refine ⟨attentive.invariant, fun other => ?_⟩
      rw [Config.withThread_threads]
      by_cases same : other = index
      · subst same
        rw [Function.update_self]
        trivial
      · rw [Function.update_of_ne same]
        exact (attentive.attends other).notified

theorem Rest.Attentive.keeperStep (attentive : rest.Attentive config)
    (step : monitor.KeeperStep config after) : rest.Attentive after := by
  have moved : ∀ {phase next : KeeperPhase Command State}, config.keeper = phase →
      phase.owes = false → rest.Attentive (config.withKeeper next) := by
    intro phase next here silent
    refine ⟨attentive.invariant, fun index => (attentive.attends index).mono ?_⟩
    refine Or.imp_right (Or.imp_right fun owing => ?_)
    rw [here, silent] at owing
    cases owing
  cases step with
  | begin here | decide here | work here | complete here => exact moved here rfl
  | perform here unlocked =>
      refine attentive.perform unlocked rfl (Or.imp_right (Or.imp_right fun owing => ?_))
        (fun notifies => Or.inr (Or.inr notifies)) fun _ => Or.inl rfl
      rw [here] at owing
      cases owing
  | notify =>
      exact ⟨attentive.invariant, fun index => (attentive.attends index).notified⟩

theorem Rest.Attentive.otherStep (attentive : rest.Attentive config)
    (step : monitor.OtherStep config after) : rest.Attentive after := by
  cases step with
  | wake here =>
      refine attentive.withThread (fun owing => ?_) trivial
      rw [here] at owing
      cases owing
  | call =>
      refine ⟨attentive.invariant, fun index => (attentive.attends index).mono ?_⟩
      exact Or.imp_left fun ⟨caller, member, owes⟩ =>
        ⟨caller, List.mem_cons_of_mem _ member, owes⟩
  | @perform front command next back callers unlocked =>
      refine attentive.perform unlocked rfl (fun owes => ?_) (fun notifies => ?_)
        fun _ => Or.inl rfl
      · refine owes.imp_left fun ⟨caller, member, owing⟩ => ⟨caller, ?_, owing⟩
        rw [callers, List.mem_append, List.mem_cons] at member
        rcases member with inFront | rfl | inBack
        · exact List.mem_append_left _ inFront
        · cases owing
        · exact List.mem_append_right _ (List.mem_cons_of_mem _ inBack)
      · exact Or.inl ⟨_, List.mem_append_right _ List.mem_cons_self, notifies⟩
  | notify =>
      exact ⟨attentive.invariant, fun index => (attentive.attends index).notified⟩
  | stop => exact ⟨attentive.invariant, attentive.attends⟩
  | stopNotify =>
      exact ⟨attentive.invariant, fun index => (attentive.attends index).notified⟩
  | join => exact ⟨attentive.invariant, attentive.attends⟩

/-- **No notification is lost.** Whatever the callers and the threads do, in whatever order, a
thread that sleeps while nobody owes a notification rests soundly. -/
theorem Reached.attentive (reached : monitor.Reached initial config)
    (begins : rest.invariant initial) : rest.Attentive config := by
  induction reached with
  | start =>
      refine ⟨begins, fun index => ?_⟩
      simp only [Monitor.begin]
      split_ifs <;> trivial
  | step _ step ih =>
      cases step with
      | thread step => exact ih.threadStep step
      | keeper step => exact ih.keeperStep step
      | other step => exact ih.otherStep step

theorem Rest.Attentive.rests (attentive : rest.Attentive config) {index : Nat} {deadline : Int}
    (sleeps : config.threads index = .waiting deadline) (settled : ¬ config.Owes) :
    rest.rests index deadline config.state := by
  have attends := attentive.attends index
  rw [sleeps] at attends
  exact attends.resolve_right settled

/-- Where no thread can take a step and nobody owes a notification, every thread has finished
or rests soundly. -/
theorem Reached.stalled (reached : monitor.Reached initial config)
    (begins : rest.invariant initial) (settled : ¬ config.Owes)
    (stuck : ∀ index after, ¬ monitor.ThreadStep index config after) (index : Nat) :
    config.threads index = .finished ∨ ∃ deadline, config.threads index = .waiting deadline ∧
      rest.rests index deadline config.state := by
  by_cases alive : config.threads index = .finished
  · exact Or.inl alive
  · by_cases asleep : ∃ deadline, config.threads index = .waiting deadline
    · obtain ⟨deadline, sleeps⟩ := asleep
      exact Or.inr ⟨deadline, sleeps, (reached.attentive begins).rests sleeps settled⟩
    · obtain ⟨other, after, step⟩ : ∃ other after, monitor.ThreadStep other config after :=
        exists_threadStep (not_exists.mp asleep) alive
      exact (stuck other after step).elim

end Attention

/-! ## Stopping -/

/-- The flag is up until the threads are told to stop, and they and the keeper have finished when
the call that stops them returns. -/
structure Config.Orderly (monitor : Monitor Command State) (config : Config Command State) :
    Prop where
  flag : config.isRunning = decide (config.stop = .idle)
  joined : config.stop = .stopped → ∀ index < monitor.workerCount,
    config.threads index = .finished
  kept : config.stop = .stopped → config.keeper = .finished

theorem Config.Orderly.step (orderly : config.Orderly monitor)
    (step : monitor.Step config after) : after.Orderly monitor := by
  have joined : ∀ {next : Config Command State}, monitor.Step config next →
      next.stop = config.stop → next.stop = .stopped →
      ∀ index < monitor.workerCount, next.threads index = .finished :=
    fun step same stopped index below =>
      step.finished (orderly.joined (same ▸ stopped) index below)
  have kept : ∀ {next : Config Command State}, monitor.Step config next →
      next.stop = config.stop → next.stop = .stopped → next.keeper = .finished :=
    fun step same stopped => step.keeper_finished (orderly.kept (same ▸ stopped))
  cases id step with
  | thread step' => cases step' <;> exact ⟨orderly.flag, joined step rfl, kept step rfl⟩
  | keeper step' => cases step' <;> exact ⟨orderly.flag, joined step rfl, kept step rfl⟩
  | other step' =>
      cases step' with
      | stop idle => exact ⟨rfl, nofun, nofun⟩
      | stopNotify flagged =>
          have flag := orderly.flag
          rw [flagged] at flag
          exact ⟨flag, nofun, nofun⟩
      | join joining finished keeper =>
          have flag := orderly.flag
          rw [joining] at flag
          exact ⟨flag, fun _ => finished, fun _ => keeper⟩
      | _ => exact ⟨orderly.flag, joined step rfl, kept step rfl⟩

theorem Reached.orderly (reached : monitor.Reached initial config) : config.Orderly monitor := by
  induction reached with
  | start => exact ⟨rfl, nofun, nofun⟩
  | step _ step ih => exact ih.step step

/-- Threads only finish once the flag is down. -/
theorem Step.alive (step : monitor.Step config after) {index : Nat}
    (alive : config.isRunning = true → config.threads index ≠ .finished)
    (running : after.isRunning = true) : after.threads index ≠ .finished := by
  have moved : ∀ {other : Nat} {phase : WorkerPhase Command State},
      config.isRunning = true → phase ≠ .finished →
        Function.update config.threads other phase index ≠ .finished := by
    intro other phase up goesOn
    by_cases same : other = index
    · subst same
      rwa [Function.update_self]
    · rw [Function.update_of_ne (Ne.symm same)]
      exact alive up
  have woken : config.isRunning = true → (config.threads index).notified ≠ .finished :=
    fun up finished => alive up (WorkerPhase.notified_eq_finished.mp finished)
  cases step with
  | @thread other step =>
      cases step with
      | begin =>
          rw [if_pos (show config.isRunning = true from running)]
          exact moved running (by simp)
      | check | look => exact moved running (by split_ifs <;> simp)
      | quit _ down => exact absurd (running.symm.trans down) (by decide)
      | @notify rest =>
          by_cases same : other = index
          · subst same
            simp
          · rw [Config.withThread_threads, Function.update_of_ne (Ne.symm same)]
            exact woken running
      | lock | time | sleep | relock | unlock | work | perform | complete =>
          exact moved running (by simp)
  | keeper step =>
      cases step with
      | notify => exact woken running
      | begin | decide | work | perform | complete => exact alive running
  | other step =>
      cases step with
      | wake => exact moved running (by simp)
      | notify | stopNotify => exact woken running
      | stop => cases running
      | call | perform | join => exact alive running

theorem Reached.alive (reached : monitor.Reached initial config) {index : Nat}
    (below : index < monitor.workerCount) (running : config.isRunning = true) :
    config.threads index ≠ .finished := by
  induction reached with
  | start =>
      simp [begin, below]
  | step _ step ih => exact step.alive ih running

/-- The callers are through, no thread can take a step, no upkeep is under way and the flag is
up. -/
structure Config.AtRest (monitor : Monitor Command State) (config : Config Command State) :
    Prop where
  running : config.isRunning = true
  callers : ∀ caller ∈ config.callers, caller = ⟨.done (), false⟩
  keeper : config.keeper = .resting ∨ config.keeper = .finished
  stuck : ∀ index after, ¬ monitor.ThreadStep index config after

theorem Config.AtRest.settled (atRest : config.AtRest monitor) : ¬ config.Owes := by
  rintro (⟨caller, member, owes⟩ | ⟨index, owes⟩ | owes)
  · rw [atRest.callers caller member] at owes
    cases owes
  · cases here : config.threads index with
    | working runner =>
        obtain ⟨rest, owing⟩ := runner
        rw [here] at owes
        cases show owing = true from owes
        exact atRest.stuck index _ (.notify here)
    | _ =>
        rw [here] at owes
        cases owes
  · rcases atRest.keeper with here | here
    · rw [here] at owes
      cases owes
    · rw [here] at owes
      cases owes

/-- **At rest every thread rests soundly.** -/
theorem Reached.rests_of_atRest (reached : monitor.Reached initial config) (rest : monitor.Rest)
    (begins : rest.invariant initial) (atRest : config.AtRest monitor) {index : Nat}
    (below : index < monitor.workerCount) :
    ∃ deadline, config.threads index = .waiting deadline ∧
      rest.rests index deadline config.state :=
  (reached.stalled begins atRest.settled atRest.stuck index).resolve_left
    (reached.alive below atRest.running)

/-- At rest all programs of the interleaving are done. -/
theorem Config.AtRest.exists_quiet (atRest : config.AtRest monitor)
    {joins : Program Command State Unit → Prop}
    (interleaves : config.Interleaves monitor joins initial) :
    ∃ trace pool, Execution monitor.perform joins (fun _ _ => True) initial trace pool ∧
      pool.state = config.state ∧ pool.quiet = true := by
  obtain ⟨trace, threads, ended, execution, split⟩ := interleaves
  refine ⟨trace, _, execution, rfl, List.all_eq_true.mpr fun program inside => ?_⟩
  have unkept : config.keeper.programs = 0 := by
    rcases atRest.keeper with here | here <;> rw [here] <;> rfl
  rw [← Multiset.mem_coe, split, Multiset.mem_add, Config.programs, unkept, add_zero,
    Multiset.mem_add, Multiset.mem_coe, List.mem_map, Multiset.mem_sum] at inside
  rcases inside with (⟨caller, member, rfl⟩ | ⟨index, -, performed⟩) | ended
  · rw [atRest.callers caller member]
  · cases here : config.threads index with
    | working runner =>
        have awake : ∀ deadline, config.threads index ≠ .waiting deadline := by simp [here]
        have alive : config.threads index ≠ .finished := by simp [here]
        obtain ⟨other, after, step⟩ : ∃ other after, monitor.ThreadStep other config after :=
          exists_threadStep awake alive
        exact (atRest.stuck other after step).elim
    | _ =>
        rw [here] at performed
        cases performed
  · rw [Multiset.eq_of_mem_replicate ended]

/-- The flag stays down, and a thread without a job gets none. -/
theorem Step.not_working (step : monitor.Step config after) (down : config.isRunning = false)
    {index : Nat} (idle : (config.threads index).isWorking = false) :
    after.isRunning = false ∧ (after.threads index).isWorking = false := by
  have moved : ∀ {other : Nat} {next : WorkerPhase Command State},
      (other = index → next.isWorking = false) →
        (Function.update config.threads other next index).isWorking = false := by
    intro other next quiet
    by_cases same : other = index
    · subst same
      rw [Function.update_self]
      exact quiet rfl
    · rwa [Function.update_of_ne (Ne.symm same)]
  have busy : ∀ {other : Nat} {runner next : Runner Command State},
      config.threads other = .working runner → other = index →
        (WorkerPhase.working next).isWorking = false := by
    intro other runner next here same
    rw [← same, here] at idle
    cases idle
  cases step with
  | @thread other step =>
      cases step with
      | begin => exact ⟨down, moved fun _ => by split_ifs <;> rfl⟩
      | check => exact ⟨down, moved fun _ => by split_ifs <;> rfl⟩
      | look => exact ⟨down, moved fun _ => by split_ifs <;> rfl⟩
      | work here up => exact absurd (down.symm.trans up) (by decide)
      | perform here => exact ⟨down, moved (busy here)⟩
      | @notify rest here =>
          refine ⟨down, ?_⟩
          rw [Config.withThread_threads]
          by_cases same : other = index
          · cases show (WorkerPhase.working ⟨rest, false⟩).isWorking = false from busy here same
          · rw [Function.update_of_ne (Ne.symm same), Config.wakeAll_threads,
              WorkerPhase.isWorking_notified, idle]
      | lock | time | sleep | relock | unlock | quit | complete =>
          exact ⟨down, moved fun _ => rfl⟩
  | keeper step =>
      cases step with
      | notify => exact ⟨down, (WorkerPhase.isWorking_notified _).trans idle⟩
      | begin | decide | work | perform | complete => exact ⟨down, idle⟩
  | other step =>
      cases step with
      | wake => exact ⟨down, moved fun _ => rfl⟩
      | notify | stopNotify => exact ⟨down, (WorkerPhase.isWorking_notified _).trans idle⟩
      | stop => exact ⟨rfl, idle⟩
      | call | perform | join => exact ⟨down, idle⟩

/-- **Once the flag is down, no thread begins a job.** -/
theorem not_working_of_flagged (down : config.isRunning = false) {index : Nat}
    (idle : (config.threads index).isWorking = false)
    (later : Relation.ReflTransGen monitor.Step config after) :
    (after.threads index).isWorking = false := by
  suffices after.isRunning = false ∧ (after.threads index).isWorking = false from this.2
  induction later with
  | refl => exact ⟨down, idle⟩
  | tail _ step ih => exact step.not_working ih.1 ih.2

/-- The flag stays down. -/
theorem Step.down (step : monitor.Step config after) (down : config.isRunning = false) :
    after.isRunning = false := by
  cases step with
  | thread step => cases step <;> exact down
  | keeper step => cases step <;> exact down
  | other step =>
      cases step with
      | stop => rfl
      | _ => exact down

/-- **Once the flag is down, the upkeep ends.** A keeper that does not rest never rests again, and
begins no upkeep. -/
theorem not_resting_of_flagged (down : config.isRunning = false)
    (awake : config.keeper ≠ .resting) (later : Relation.ReflTransGen monitor.Step config after) :
    after.keeper ≠ .resting ∧
      (config.keeper.isWorking = false → after.keeper.isWorking = false) := by
  suffices after.isRunning = false ∧ after.keeper ≠ .resting ∧
      (config.keeper.isWorking = false → after.keeper.isWorking = false) from this.2
  induction later with
  | refl => exact ⟨down, awake, id⟩
  | @tail middle after _ step ih =>
      obtain ⟨down, awake, idle⟩ := ih
      refine ⟨step.down down, ?_⟩
      cases step with
      | thread step => cases step <;> exact ⟨awake, idle⟩
      | other step => cases step <;> exact ⟨awake, idle⟩
      | keeper step =>
          cases step with
          | begin =>
              rw [Config.withKeeper_keeper]
              split_ifs <;> exact ⟨by simp, fun _ => rfl⟩
          | decide =>
              rw [Config.withKeeper_keeper, down]
              exact ⟨by simp, fun _ => rfl⟩
          | work here => exact (awake here).elim
          | perform here | notify here =>
              rw [here] at idle
              exact ⟨by simp, idle⟩
          | complete => exact ⟨by simp, fun _ => rfl⟩

/-- The stop has sent its notification, and the thread sleeps. -/
structure Missed (config : Config Command State) (index : Nat) (deadline : Int) : Prop where
  joining : config.stop = .joining
  asleep : config.threads index = .waiting deadline
  settled : ¬ config.Owes

/-- A step that leaves no notification owed and does not end the wait of a thread by itself. -/
inductive Undisturbed (monitor : Monitor Command State) (index : Nat)
    (config after : Config Command State) : Prop
  | thread {other} (step : monitor.ThreadStep other config after) (settled : ¬ after.Owes)
  | keeper (step : monitor.KeeperStep config after) (settled : ¬ after.Owes)
  | other (step : monitor.OtherStep config after) (settled : ¬ after.Owes)
      (undisturbed : after ≠ config.withThread index .waking)

theorem Missed.step {index : Nat} {deadline : Int} (missed : Missed config index deadline)
    (below : index < monitor.workerCount) (step : monitor.Undisturbed index config after) :
    Missed after index deadline := by
  have elsewhere : ∀ {other : Nat} {phase next : WorkerPhase Command State},
      config.threads other = phase → phase ≠ .waiting deadline →
        Function.update config.threads other next index = .waiting deadline := by
    intro other phase next here awake
    rw [Function.update_of_ne, missed.asleep]
    rintro rfl
    exact awake (here ▸ missed.asleep)
  cases step with
  | @thread other step settled =>
      refine ⟨?_, ?_, settled⟩
      · cases step <;> exact missed.joining
      · cases step with
        | notify here =>
            refine (missed.settled (Or.inr (Or.inl ⟨other, ?_⟩))).elim
            rw [here]
            rfl
        | begin here | lock here | check here | look here | time here | sleep here | relock here
        | unlock here | quit here | work here | perform here | complete here =>
            exact elsewhere here nofun
  | keeper step settled =>
      cases step with
      | notify here =>
          refine (missed.settled (Or.inr (Or.inr ?_))).elim
          rw [here]
          rfl
      | begin | decide | work | perform | complete =>
          exact ⟨missed.joining, missed.asleep, settled⟩
  | other step settled undisturbed =>
      cases step with
      | @wake other deadline here =>
          refine ⟨missed.joining, ?_, settled⟩
          rw [Config.withThread_threads, Function.update_of_ne, missed.asleep]
          rintro rfl
          exact undisturbed rfl
      | call | perform => exact ⟨missed.joining, missed.asleep, settled⟩
      | @notify front rest back callers =>
          refine (missed.settled (Or.inl ⟨⟨rest, true⟩, ?_, rfl⟩)).elim
          rw [callers]
          exact List.mem_append_right _ List.mem_cons_self
      | stop idle => exact absurd (missed.joining.symm.trans idle) (by decide)
      | stopNotify flagged => exact absurd (missed.joining.symm.trans flagged) (by decide)
      | join joining finished =>
          have ended := finished index below
          rw [missed.asleep] at ended
          cases ended

/-- **A missed stop does not return.** Until the wait ends by itself or somebody else notifies,
the thread sleeps on and the stop waits for it. -/
theorem Missed.remains {index : Nat} {deadline : Int} (missed : Missed config index deadline)
    (below : index < monitor.workerCount)
    (later : Relation.ReflTransGen (monitor.Undisturbed index) config after) :
    Missed after index deadline := by
  induction later with
  | refl => exact missed
  | tail _ step ih => exact ih.step below step

/-- Neither a thread nor the keeper has begun, and all callers are done. -/
structure Config.Unbegun (monitor : Monitor Command State) (config : Config Command State) :
    Prop where
  running : config.isRunning = true
  idle : config.stop = .idle
  threads : config.threads = (monitor.begin config.state).threads
  keeper : config.keeper = .starting
  callers : ∀ caller ∈ config.callers, caller = ⟨.done (), false⟩

theorem begin_threads_cases (monitor : Monitor Command State) (index : Nat) (state : State) :
    (monitor.begin state).threads index = .starting ∨
      (monitor.begin state).threads index = .finished := by
  by_cases below : index < monitor.workerCount
  · exact Or.inl (if_pos below)
  · exact Or.inr (if_neg below)

theorem free_of_begin (threads : config.threads = (monitor.begin config.state).threads) :
    config.Free := by
  intro index
  rw [threads]
  rcases begin_threads_cases monitor index config.state with starting | finished
  · rw [starting]
    rfl
  · rw [finished]
    rfl

theorem notified_of_begin (threads : config.threads = (monitor.begin config.state).threads) :
    (fun index => (config.threads index).notified) = config.threads := by
  funext index
  rw [threads]
  rcases begin_threads_cases monitor index config.state with starting | finished
  · rw [starting]
    rfl
  · rw [finished]
    rfl

theorem Config.Unbegun.starting (unbegun : config.Unbegun monitor) {index : Nat}
    (below : index < monitor.workerCount) : config.threads index = .starting :=
  (congrFun unbegun.threads index).trans (if_pos below)

theorem Config.Unbegun.settled (unbegun : config.Unbegun monitor) : ¬ config.Owes := by
  rintro (⟨caller, member, owes⟩ | ⟨index, owes⟩ | owes)
  · rw [unbegun.callers caller member] at owes
    cases owes
  · rw [unbegun.threads] at owes
    rcases begin_threads_cases monitor index config.state with starting | finished
    · rw [starting] at owes
      cases owes
    · rw [finished] at owes
      cases owes
  · rw [unbegun.keeper] at owes
    cases owes

/-- A caller runs its program to the end while no thread has begun. -/
theorem Reached.finish (reached : monitor.Reached initial config)
    (threads : config.threads = (monitor.begin config.state).threads)
    {program : Program Command State Unit} {others : List (Runner Command State)}
    (callers : config.callers = ⟨program, false⟩ :: others) :
    monitor.Reached initial { config with
      state := (program.run monitor.perform config.state).2
      callers := ⟨.done (), false⟩ :: others } := by
  induction program generalizing config with
  | done =>
      rw [Program.run, ← callers]
      exact reached
  | step command next ih =>
      have first : config.callers = [] ++ ⟨.step command next, false⟩ :: others := callers
      have performed := reached.step (.other (.perform first fun _ => free_of_begin threads))
      cases notifies : monitor.notifies command config.state with
      | false =>
          rw [notifies] at performed
          exact ih config.state performed threads rfl
      | true =>
          rw [notifies] at performed
          have notified : monitor.Reached initial { config with
              state := monitor.perform command config.state
              threads := fun index => (config.threads index).notified
              callers := [] ++ ⟨next config.state, false⟩ :: others } :=
            performed.step (.other (.notify rfl))
          rw [notified_of_begin threads] at notified
          exact ih config.state notified threads rfl

theorem Reached.call (reached : monitor.Reached initial config)
    (unbegun : config.Unbegun monitor) {program : Program Command State Unit}
    (called : monitor.calls program) :
    ∃ after, monitor.Reached initial after ∧ after.Unbegun monitor ∧
      after.state = (program.run monitor.perform config.state).2 := by
  refine ⟨_, (reached.step (.other (.call called))).finish unbegun.threads rfl,
    ⟨unbegun.running, unbegun.idle, unbegun.threads, unbegun.keeper, fun caller member => ?_⟩,
    rfl⟩
  rcases List.mem_cons.mp member with rfl | before
  · rfl
  · exact unbegun.callers caller before

/-- A thread that has not begun gets the mutex and looks for a job. -/
theorem Reached.look (reached : monitor.Reached initial config) (free : config.Free)
    (running : config.isRunning = true) {index : Nat}
    (here : config.threads index = .starting) :
    monitor.Reached initial (config.withThread index .looking) := by
  have locking : monitor.Reached initial (config.withThread index .locking) := by
    have begun := reached.step (.thread (.begin here))
    rwa [running] at begun
  have unlocked : (config.withThread index .locking).Free := by
    intro other
    rw [Config.withThread_threads]
    by_cases same : other = index
    · rw [same, Function.update_self]
      rfl
    · rw [Function.update_of_ne same]
      exact free other
  have checking := locking.step (.thread (.lock (Function.update_self ..) unlocked))
  have looking := checking.step (.thread (.check (Function.update_self ..)))
  rwa [Config.withThread_withThread, Config.withThread_withThread, Config.withThread_isRunning,
    Config.withThread_isRunning, running] at looking

/-- A thread that finds no job sleeps. -/
theorem Reached.fallAsleep (reached : monitor.Reached initial config) {index : Nat}
    (here : config.threads index = .looking)
    (unavailable : monitor.isAvailable index config.state = false) :
    monitor.Reached initial
      (config.withThread index (.waiting (monitor.deadline index config.state))) := by
  have timing : monitor.Reached initial (config.withThread index .timing) := by
    have looked := reached.step (.thread (.look here))
    rwa [unavailable] at looked
  have entering := timing.step (.thread (.time (Function.update_self ..)))
  have waiting := entering.step (.thread (.sleep (Function.update_self ..)))
  rwa [Config.withThread_withThread, Config.withThread_withThread] at waiting

/-- A thread that waits or has finished takes no step. -/
theorem not_threadStep_of_asleep {index : Nat}
    (asleep : (∃ deadline, config.threads index = .waiting deadline) ∨
      config.threads index = .finished) : ¬ monitor.ThreadStep index config after := by
  intro step
  have awake : ∀ {phase}, config.threads index = phase → phase ≠ .finished →
      (∀ deadline, phase ≠ .waiting deadline) → False := by
    rintro phase rfl alive awake
    exact asleep.elim (fun ⟨deadline, waits⟩ => awake deadline waits) alive
  cases step with
  | begin here | lock here | check here | look here | time here | sleep here | relock here
  | unlock here | quit here | work here | perform here | notify here | complete here =>
      exact awake here (by simp) (by simp)

/-- The first threads sleep. -/
def Config.withSleepers (monitor : Monitor Command State) (count : Nat)
    (config : Config Command State) : Config Command State :=
  { config with threads := fun index =>
      if index < count then .waiting (monitor.deadline index config.state)
      else config.threads index }

theorem Reached.withSleepers (reached : monitor.Reached initial config)
    (unbegun : config.Unbegun monitor)
    (unavailable : ∀ index < monitor.workerCount,
      monitor.isAvailable index config.state = false) :
    ∀ count ≤ monitor.workerCount, monitor.Reached initial (config.withSleepers monitor count) := by
  intro count
  induction count with
  | zero => exact fun _ => by simpa [Config.withSleepers] using reached
  | succ count ih =>
      intro below
      have free : (config.withSleepers monitor count).Free := by
        intro index
        simp only [Config.withSleepers]
        split_ifs
        · rfl
        · exact free_of_begin unbegun.threads index
      have here : (config.withSleepers monitor count).threads count = .starting := by
        simp only [Config.withSleepers, lt_irrefl, if_false]
        exact unbegun.starting below
      have looking := (ih (Nat.le_of_succ_le below)).look free unbegun.running here
      have asleep := looking.fallAsleep (Function.update_self ..) (unavailable count below)
      rw [Config.withThread_withThread] at asleep
      have same : (config.withSleepers monitor count).withThread count
          (.waiting (monitor.deadline count config.state)) =
            config.withSleepers monitor (count + 1) := by
        refine congrArg (fun threads => { config with threads }) (funext fun index => ?_)
        simp only [Function.update_apply, Config.withSleepers, Nat.lt_succ_iff_lt_or_eq]
        by_cases last : index = count
        · simp [last]
        · simp [last]
      exact same ▸ asleep

/-- While the flag is up, the keeper begins and rests, or finishes where there is no upkeep. -/
theorem Reached.settle (reached : monitor.Reached initial config)
    (running : config.isRunning = true) (starting : config.keeper = .starting) :
    ∃ phase, (phase = .resting ∨ phase = .finished) ∧
      monitor.Reached initial (config.withKeeper phase) := by
  have begun := reached.step (.keeper (.begin starting))
  cases kept : monitor.isKept with
  | false =>
      rw [kept] at begun
      exact ⟨.finished, Or.inr rfl, begun⟩
  | true =>
      rw [kept] at begun
      have decided := begun.step (.keeper (.decide rfl))
      rw [Config.withKeeper_isRunning, running] at decided
      exact ⟨.resting, Or.inl rfl, decided⟩

/-- **Threads without jobs come to rest.** -/
theorem Reached.exists_atRest (reached : monitor.Reached initial config)
    (unbegun : config.Unbegun monitor)
    (unavailable : ∀ index < monitor.workerCount,
      monitor.isAvailable index config.state = false) :
    ∃ after, monitor.Reached initial after ∧ after.AtRest monitor ∧
      after.state = config.state ∧ ∀ index < monitor.workerCount,
        after.threads index = .waiting (monitor.deadline index config.state) := by
  obtain ⟨phase, settled, rested⟩ := (reached.withSleepers unbegun unavailable _ le_rfl).settle
    unbegun.running unbegun.keeper
  refine ⟨_, rested, ⟨unbegun.running, unbegun.callers, settled, fun index after => ?_⟩, rfl,
    fun index below => if_pos below⟩
  refine not_threadStep_of_asleep ?_
  by_cases below : index < monitor.workerCount
  · exact Or.inl ⟨_, if_pos below⟩
  · refine Or.inr ((if_neg below).trans ?_)
    rw [unbegun.threads]
    exact if_neg below

end Monitor

end Foundation
