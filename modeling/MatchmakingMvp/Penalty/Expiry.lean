import MatchmakingMvp.System.Calls

/-! # Penalties and the jobs that expire them

A job reads the entry of its player in one section and clears it in a later one. A penalty
that is renewed in between is cleared with the old one
(`MatchmakingMvp.renewal_lost`). Where no entry is written while a job that has read it is
under way, every penalty lasts until it expires or is renewed, in every interleaving
(`MatchmakingMvp.penalty_lasts_undisturbed`).
-/

namespace MatchmakingMvp

open Foundation

/-- What happens to the penalties from outside: the clock, new penalties, the worker that
executes due jobs, and a job executed at any moment. -/
inductive PenaltyCall
  | tick (timeMsec : Nat)
  | addDodgePenalty (playerKey : PlayerKey) (penaltyExpireTimeMsec : Int)
  | penaltyWorkerRun
  | expireDodgePenalty (playerKey : PlayerKey)
deriving DecidableEq

namespace PenaltyCall

def program : PenaltyCall → Operation Unit
  | .tick timeMsec => Program.atomically (.tick timeMsec) fun _ => ()
  | .addDodgePenalty playerKey penaltyExpireTimeMsec =>
      MatchPenaltyManager.addDodgePenalty playerKey penaltyExpireTimeMsec
  | .penaltyWorkerRun => MatchmakingMvp.penaltyWorkerRun
  | .expireDodgePenalty playerKey => MatchPenaltyManager.expireDodgePenalty playerKey

/-- Expiry times are signed 64-bit numbers. -/
def InRange (call : PenaltyCall) : Prop :=
  ∀ playerKey penaltyExpireTimeMsec, call = .addDodgePenalty playerKey penaltyExpireTimeMsec →
    penaltyExpireTimeMsec < 2 ^ 63

end PenaltyCall

/-- A thread of an interleaving, by how far it has come. `holding` has read an entry of its
player and `clearing` has found it expired. -/
inductive PenaltyThread
  | ticking (timeMsec : Nat)
  | adding (playerKey : PlayerKey) (penaltyExpireTimeMsec : Int)
  | scheduling (playerKey : PlayerKey) (penaltyExpireTimeMsec : Int)
  | working
  | expiring (playerKey : PlayerKey)
  | holding (playerKey : PlayerKey) (penaltyExpireTimeMsec : Int)
  | clearing (playerKey : PlayerKey)
  | finished

namespace PenaltyThread

/-- The rest of a thread's program. -/
def program : PenaltyThread → Operation Unit
  | .ticking timeMsec => Program.atomically (.tick timeMsec) fun _ => ()
  | .adding playerKey penaltyExpireTimeMsec =>
      MatchPenaltyManager.addDodgePenalty playerKey penaltyExpireTimeMsec
  | .scheduling playerKey penaltyExpireTimeMsec =>
      Program.atomically (.addPenaltyJob penaltyExpireTimeMsec playerKey) fun _ => ()
  | .working => penaltyWorkerRun
  | .expiring playerKey => MatchPenaltyManager.expireDodgePenalty playerKey
  | .holding playerKey penaltyExpireTimeMsec => do
      if penaltyExpireTimeMsec % 2 ^ 64 ≤ (← timeMsec) then
        Program.atomically (.clearDodgePenalty playerKey) fun _ => ()
  | .clearing playerKey => Program.atomically (.clearDodgePenalty playerKey) fun _ => ()
  | .finished => pure ()

/-- The next section of a thread, and how it goes on. -/
def advance (world : World) : PenaltyThread → Option (Section × PenaltyThread)
  | .ticking timeMsec => some (.tick timeMsec, .finished)
  | .adding playerKey penaltyExpireTimeMsec =>
      some (.setDodgePenalty playerKey penaltyExpireTimeMsec,
        .scheduling playerKey penaltyExpireTimeMsec)
  | .scheduling playerKey penaltyExpireTimeMsec =>
      some (.addPenaltyJob penaltyExpireTimeMsec playerKey, .finished)
  | .working =>
      some (.takePenaltyJob,
        match (world.penaltyJobs.takeJob world.timeMsec).1 with
        | none => .finished
        | some playerKey => .expiring playerKey)
  | .expiring playerKey =>
      some (.read,
        match world.dodgePenalties playerKey with
        | none => .finished
        | some penaltyExpireTimeMsec => .holding playerKey penaltyExpireTimeMsec)
  | .holding playerKey penaltyExpireTimeMsec =>
      some (.read,
        if penaltyExpireTimeMsec % 2 ^ 64 ≤ world.timeMsec then .clearing playerKey
        else .finished)
  | .clearing playerKey => some (.clearDodgePenalty playerKey, .finished)
  | .finished => none

/-- Threads go on as described. -/
theorem program_step {thread : PenaltyThread} {command : Section}
    {next : World → Operation Unit} (same : thread.program = .step command next)
    (world : World) :
    ∃ rest, thread.advance world = some (command, rest) ∧ next world = rest.program := by
  cases thread with
  | ticking timeMsec =>
      cases same
      exact ⟨_, rfl, rfl⟩
  | adding playerKey time =>
      cases same
      exact ⟨_, rfl, rfl⟩
  | scheduling playerKey time =>
      cases same
      exact ⟨_, rfl, rfl⟩
  | working =>
      cases same
      refine ⟨_, rfl, ?_⟩
      dsimp only [Program.bind]
      cases (world.penaltyJobs.takeJob world.timeMsec).1 with
      | none => rfl
      | some playerKey => rfl
  | expiring playerKey =>
      cases same
      refine ⟨_, rfl, ?_⟩
      dsimp only [Program.bind]
      cases world.dodgePenalties playerKey with
      | none => rfl
      | some time => rfl
  | holding playerKey time =>
      cases same
      refine ⟨_, rfl, ?_⟩
      dsimp only [Program.bind]
      split_ifs
      · rfl
      · rfl
  | clearing playerKey =>
      cases same
      exact ⟨_, rfl, rfl⟩
  | finished => cases same

end PenaltyThread

/-- The expiry time a player's last penalty of a trace was given. -/
def lastPenalty (playerKey : PlayerKey) (trace : List (Executed Section World)) : Option Int :=
  trace.reverse.findSome? fun executed =>
    match executed.command with
    | .setDodgePenalty other penaltyExpireTimeMsec =>
        if other = playerKey then some penaltyExpireTimeMsec else none
    | _ => none

/-- Penalties are given until a moment that is yet to come. -/
def Section.InFuture (command : Section) (world : World) : Prop :=
  ∀ playerKey penaltyExpireTimeMsec,
    command = .setDodgePenalty playerKey penaltyExpireTimeMsec →
    (world.timeMsec : Int) < penaltyExpireTimeMsec

/-- A job has read an entry of the player and is not done yet. -/
def UnderWay (playerKey : PlayerKey) (thread : Operation Unit) : Prop :=
  (∃ penaltyExpireTimeMsec,
    thread = (PenaltyThread.holding playerKey penaltyExpireTimeMsec).program) ∨
    thread = (PenaltyThread.clearing playerKey).program

/-- No entry is written while a job of the player that has read it is under way. -/
def Section.Undisturbing (command : Section) (threads : List (Operation Unit)) : Prop :=
  ∀ playerKey penaltyExpireTimeMsec,
    command = .setDodgePenalty playerKey penaltyExpireTimeMsec →
    ∀ thread ∈ threads, ¬ UnderWay playerKey thread

/-- The interleavings of penalties, expiry jobs and the clock. -/
abbrev PenaltyRun (guard : Section → World → List (Operation Unit) → Prop) :
    List (Executed Section World) → Pool Section World → Prop :=
  PoolRun perform
    (fun program => ∃ call : PenaltyCall, call.InRange ∧ program = call.program)
    (fun command world threads => command.InFuture world ∧ guard command world threads) ⟨{}, []⟩

/-- Every player's last penalty is in force until it expires. -/
def PenaltiesLast (trace : List (Executed Section World)) (world : World) : Prop :=
  ∀ playerKey penaltyExpireTimeMsec, lastPenalty playerKey trace = some penaltyExpireTimeMsec →
    ∀ now : Int, world.timeMsec ≤ now → now < penaltyExpireTimeMsec →
      ((MatchPenaltyManager.hasDodgePenaltyAt now [playerKey]).run perform world).1 = true

theorem lastPenalty_concat (playerKey : PlayerKey) (trace : List (Executed Section World))
    (executed : Executed Section World) :
    lastPenalty playerKey (trace ++ [executed]) =
      match executed.command with
      | .setDodgePenalty other penaltyExpireTimeMsec =>
          if other = playerKey then some penaltyExpireTimeMsec else lastPenalty playerKey trace
      | _ => lastPenalty playerKey trace := by
  rw [lastPenalty, List.reverse_append, List.reverse_singleton, List.singleton_append,
    List.findSome?_cons]
  cases executed.command with
  | setDodgePenalty other time =>
      dsimp only
      split_ifs
      · rfl
      · rfl
  | _ => rfl

theorem lastPenalty_concat_of_ne {command : Section}
    (other : ∀ playerKey time, command ≠ .setDodgePenalty playerKey time)
    (playerKey : PlayerKey) (trace : List (Executed Section World)) (world after : World) :
    lastPenalty playerKey (trace ++ [⟨command, world, after⟩]) = lastPenalty playerKey trace := by
  rw [lastPenalty_concat]
  cases command with
  | setDodgePenalty playerKey time => exact absurd rfl (other playerKey time)
  | _ => rfl

/-- What a thread holds is the last penalty of its player. -/
def PenaltyThread.Justified (trace : List (Executed Section World)) (world : World) :
    PenaltyThread → Prop
  | .adding _ time => time < 2 ^ 63
  | .holding playerKey time => lastPenalty playerKey trace = some time
  | .clearing playerKey =>
      ∃ time : Int, lastPenalty playerKey trace = some time ∧ time ≤ world.timeMsec
  | _ => True

/-- What holds of the entries and of the threads. -/
structure PenaltiesHeld (trace : List (Executed Section World)) (world : World)
    (threads : List PenaltyThread) : Prop where
  entries : ∀ playerKey time, world.dodgePenalties playerKey = some time →
    lastPenalty playerKey trace = some time
  lasts : ∀ playerKey time, lastPenalty playerKey trace = some time →
    (world.timeMsec : Int) < time → world.dodgePenalties playerKey = some time
  inRange : ∀ playerKey time, lastPenalty playerKey trace = some time → 0 ≤ time ∧ time < 2 ^ 63
  justified : ∀ thread ∈ threads, thread.Justified trace world

namespace PenaltiesHeld

variable {trace : List (Executed Section World)} {world : World}
  {front back : List PenaltyThread} {thread rest : PenaltyThread}

theorem mem_replaced {other : PenaltyThread} (inside : other ∈ front ++ rest :: back) :
    other = rest ∨ other ∈ front ++ back := by
  rw [List.mem_append, List.mem_cons] at inside
  rw [List.mem_append]
  tauto

theorem mem_others {other : PenaltyThread} (inside : other ∈ front ++ back) :
    other ∈ front ++ thread :: back := by
  rw [List.mem_append] at inside
  rw [List.mem_append, List.mem_cons]
  tauto

/-- A section that changes no entry. -/
theorem quiet {command : Section} (held : PenaltiesHeld trace world (front ++ thread :: back))
    (other : ∀ playerKey time, command ≠ .setDodgePenalty playerKey time)
    (entries : (perform command world).dodgePenalties = world.dodgePenalties)
    (timeMsec : world.timeMsec ≤ (perform command world).timeMsec)
    (justified : rest.Justified trace world) :
    PenaltiesHeld (trace ++ [⟨command, world, perform command world⟩]) (perform command world)
      (front ++ rest :: back) := by
  have last := fun playerKey =>
    lastPenalty_concat_of_ne other playerKey trace world (perform command world)
  have keep : ∀ thread : PenaltyThread, thread.Justified trace world →
      thread.Justified (trace ++ [⟨command, world, perform command world⟩])
        (perform command world) := by
    intro thread holds
    cases thread with
    | holding playerKey time => exact (last playerKey).trans holds
    | clearing playerKey =>
        obtain ⟨time, given, passed⟩ := holds
        exact ⟨time, (last playerKey).trans given, by omega⟩
    | adding playerKey time => exact holds
    | _ => trivial
  refine ⟨fun playerKey time present => ?_, fun playerKey time given future => ?_,
    fun playerKey time given => ?_, fun member inside => ?_⟩
  · rw [entries] at present
    rw [last]
    exact held.entries playerKey time present
  · rw [last] at given
    rw [entries]
    exact held.lasts playerKey time given (by omega)
  · rw [last] at given
    exact held.inRange playerKey time given
  · rcases mem_replaced inside with rfl | elsewhere
    · exact keep _ justified
    · exact keep _ (held.justified _ (mem_others elsewhere))

/-- **Writing an entry** that no job under way has read. -/
theorem set {playerKey : PlayerKey} {time : Int}
    (held : PenaltiesHeld trace world (front ++ .adding playerKey time :: back))
    (future : (world.timeMsec : Int) < time)
    (undisturbed : ∀ other ∈ front ++ back, ¬ UnderWay playerKey other.program) :
    PenaltiesHeld
      (trace ++ [⟨.setDodgePenalty playerKey time, world,
        perform (.setDodgePenalty playerKey time) world⟩])
      (perform (.setDodgePenalty playerKey time) world)
      (front ++ .scheduling playerKey time :: back) := by
  have last : ∀ other, lastPenalty other (trace ++ [⟨.setDodgePenalty playerKey time, world,
      perform (.setDodgePenalty playerKey time) world⟩]) =
      if playerKey = other then some time else lastPenalty other trace :=
    fun other => lastPenalty_concat other trace _
  have entry : ∀ other, (perform (.setDodgePenalty playerKey time) world).dodgePenalties other =
      if other = playerKey then some time else world.dodgePenalties other :=
    fun other => Function.update_apply _ _ _ _
  have range : time < 2 ^ 63 := held.justified _ (List.mem_append_right _ List.mem_cons_self)
  refine ⟨fun other _ present => ?_, fun other _ given later => ?_, fun other _ given => ?_,
    fun member inside => ?_⟩
  · rw [entry] at present
    rw [last]
    split_ifs at present with own
    · rw [if_pos own.symm]
      exact present
    · rw [if_neg (Ne.symm own)]
      exact held.entries _ _ present
  · rw [last] at given
    rw [entry]
    split_ifs at given with own
    · rw [if_pos own.symm]
      exact given
    · rw [if_neg (Ne.symm own)]
      exact held.lasts _ _ given later
  · rw [last] at given
    split_ifs at given
    · obtain rfl := Option.some.inj given
      exact ⟨by omega, range⟩
    · exact held.inRange _ _ given
  · rcases mem_replaced inside with rfl | elsewhere
    · trivial
    · have holds := held.justified _ (mem_others elsewhere)
      have apart := undisturbed _ elsewhere
      cases member with
      | holding other held =>
          refine (last other).trans ?_
          rw [if_neg]
          · exact holds
          · rintro rfl
            exact apart (Or.inl ⟨_, rfl⟩)
      | clearing other =>
          obtain ⟨old, given, passed⟩ := holds
          refine ⟨old, ?_, passed⟩
          rw [last, if_neg]
          · exact given
          · rintro rfl
            exact apart (Or.inr rfl)
      | adding other later => exact holds
      | _ => trivial

/-- **Clearing an entry** that has expired. -/
theorem clear {playerKey : PlayerKey}
    (held : PenaltiesHeld trace world (front ++ .clearing playerKey :: back)) :
    PenaltiesHeld
      (trace ++ [⟨.clearDodgePenalty playerKey, world,
        perform (.clearDodgePenalty playerKey) world⟩])
      (perform (.clearDodgePenalty playerKey) world) (front ++ .finished :: back) := by
  obtain ⟨time, given, passed⟩ : PenaltyThread.Justified trace world (.clearing playerKey) :=
    held.justified _ (List.mem_append_right _ List.mem_cons_self)
  have last : ∀ other, lastPenalty other (trace ++ [⟨.clearDodgePenalty playerKey, world,
      perform (.clearDodgePenalty playerKey) world⟩]) = lastPenalty other trace :=
    fun other => lastPenalty_concat other trace _
  have entry : ∀ other, (perform (.clearDodgePenalty playerKey) world).dodgePenalties other =
      if other = playerKey then none else world.dodgePenalties other :=
    fun other => Function.update_apply _ _ _ _
  refine ⟨fun other _ present => ?_, fun other _ named future => ?_, fun other _ named => ?_,
    fun member inside => ?_⟩
  · rw [entry] at present
    rw [last]
    split_ifs at present
    exact held.entries _ _ present
  · rw [last] at named
    rw [entry, if_neg]
    · exact held.lasts _ _ named future
    · rintro rfl
      rw [given, Option.some.injEq] at named
      exact absurd future (by rw [← named]; exact not_lt.mpr passed)
  · rw [last] at named
    exact held.inRange _ _ named
  · rcases mem_replaced inside with rfl | elsewhere
    · trivial
    · have holds := held.justified _ (mem_others elsewhere)
      cases member with
      | holding other old => exact (last other).trans holds
      | clearing other =>
          obtain ⟨old, named, expired⟩ := holds
          exact ⟨old, (last other).trans named, expired⟩
      | adding other later => exact holds
      | _ => trivial

/-- **Every step keeps the penalties**, where it disturbs no job under way. -/
theorem step {command : Section}
    (held : PenaltiesHeld trace world (front ++ thread :: back))
    (advances : thread.advance world = some (command, rest))
    (future : command.InFuture world)
    (undisturbing : command.Undisturbing ((front ++ back).map PenaltyThread.program)) :
    PenaltiesHeld (trace ++ [⟨command, world, perform command world⟩]) (perform command world)
      (front ++ rest :: back) := by
  have own := held.justified thread (List.mem_append_right _ List.mem_cons_self)
  cases thread with
  | ticking timeMsec =>
      cases advances
      exact held.quiet nofun rfl (le_max_left _ _) trivial
  | adding playerKey time =>
      cases advances
      refine held.set (future playerKey time rfl) fun other member => ?_
      exact undisturbing playerKey time rfl _ (List.mem_map_of_mem member)
  | scheduling playerKey time =>
      cases advances
      exact held.quiet nofun rfl le_rfl trivial
  | working =>
      cases advances
      refine held.quiet nofun rfl le_rfl ?_
      cases (world.penaltyJobs.takeJob world.timeMsec).1 with
      | none => trivial
      | some playerKey => trivial
  | expiring playerKey =>
      cases advances
      refine held.quiet nofun rfl le_rfl ?_
      cases present : world.dodgePenalties playerKey with
      | none => trivial
      | some time => exact held.entries playerKey time present
  | holding playerKey time =>
      cases advances
      refine held.quiet nofun rfl le_rfl ?_
      split_ifs with expired
      · have range := held.inRange playerKey time own
        exact ⟨time, own, by omega⟩
      · trivial
  | clearing playerKey =>
      cases advances
      exact held.clear
  | finished => cases advances

end PenaltiesHeld

/-- The thread a call begins as. -/
def PenaltyCall.thread : PenaltyCall → PenaltyThread
  | .tick timeMsec => .ticking timeMsec
  | .addDodgePenalty playerKey penaltyExpireTimeMsec => .adding playerKey penaltyExpireTimeMsec
  | .penaltyWorkerRun => .working
  | .expireDodgePenalty playerKey => .expiring playerKey

theorem PenaltyCall.justified_thread {call : PenaltyCall} (inRange : call.InRange)
    (trace : List (Executed Section World)) (world : World) :
    call.thread.Justified trace world := by
  cases call with
  | addDodgePenalty playerKey time => exact inRange playerKey time rfl
  | _ => trivial

/-- The threads of an interleaving are as far as described, and hold what is said of them. -/
theorem PenaltyRun.held {trace : List (Executed Section World)} {pool : Pool Section World}
    (run : PenaltyRun (fun command _ threads => command.Undisturbing threads) trace pool) :
    ∃ threads : List PenaltyThread, pool.threads = threads.map PenaltyThread.program ∧
      PenaltiesHeld trace pool.state threads := by
  induction run with
  | start => exact ⟨[], rfl, nofun, nofun, nofun, nofun⟩
  | @join trace state threads program prior joining ih =>
      obtain ⟨known, same, held⟩ := ih
      obtain ⟨call, inRange, rfl⟩ := joining
      refine ⟨call.thread :: known, ?_, held.entries, held.lasts, held.inRange, ?_⟩
      · have begins : call.program = call.thread.program := by cases call <;> rfl
        rw [List.map_cons, ← same, begins]
      · intro thread inside
        rcases List.mem_cons.mp inside with rfl | earlier
        · exact call.justified_thread inRange trace state
        · exact held.justified thread earlier
  | @advance trace state front command next back prior permitted ih =>
      obtain ⟨known, same, held⟩ := ih
      obtain ⟨ahead, behind, rfl, frontSame, backSame⟩ := List.map_eq_append_iff.mp same.symm
      obtain ⟨thread, others, rfl, threadSame, othersSame⟩ := List.map_eq_cons_iff.mp backSame
      obtain ⟨rest, advances, goesOn⟩ := PenaltyThread.program_step threadSame state
      refine ⟨ahead ++ rest :: others, ?_, held.step advances permitted.1 ?_⟩
      · rw [List.map_append, List.map_cons, frontSame, othersSame, goesOn]
      · rw [List.map_append, frontSame, othersSame]
        exact permitted.2

/-- **Penalties last** in every interleaving of new penalties with future expiry times,
expiry jobs at any moments, the worker and the clock, in which no entry is written while a
job that has read it is under way. -/
theorem penalty_lasts_undisturbed {trace : List (Executed Section World)}
    {pool : Pool Section World}
    (run : PenaltyRun (fun command _ threads => command.Undisturbing threads) trace pool) :
    PenaltiesLast trace pool.state := by
  obtain ⟨threads, -, held⟩ := run.held
  intro playerKey time given now reached before
  have entry := held.lasts playerKey time given (by omega)
  simp only [MatchPenaltyManager.hasDodgePenaltyAt, MatchPenaltyManager.findDodgePenalty,
    Program.run_bind, readWorld, Program.run_atomically, entry, Program.run_ite]
  rw [if_pos before]
  rfl

/-! ## Runs -/

/-- The penalty a section gives. -/
def Section.penalty : Section → Option (PlayerKey × Int)
  | .setDodgePenalty playerKey penaltyExpireTimeMsec => some (playerKey, penaltyExpireTimeMsec)
  | _ => none

theorem Section.inFuture_iff {command : Section} {world : World} :
    command.InFuture world ↔
      ∀ penalty ∈ command.penalty, (world.timeMsec : Int) < penalty.2 := by
  constructor
  · intro future penalty given
    cases command with
    | setDodgePenalty playerKey time =>
        cases given
        exact future playerKey time rfl
    | _ => cases given
  · rintro future playerKey time rfl
    exact future _ rfl

instance (command : Section) (world : World) : Decidable (command.InFuture world) :=
  decidable_of_iff _ Section.inFuture_iff.symm

/-- Alone and where nothing else is pending, the thread would clear the player's entry. -/
def clears (playerKey : PlayerKey) (thread : Operation Unit) : Bool :=
  (thread.trace perform { timeMsec := 2 ^ 64 }).any fun executed =>
    match executed.command with
    | .clearDodgePenalty other => decide (other = playerKey)
    | _ => false

theorem UnderWay.clears {playerKey : PlayerKey} {thread : Operation Unit}
    (underWay : UnderWay playerKey thread) : clears playerKey thread = true := by
  rcases underWay with ⟨time, rfl⟩ | rfl
  · have expired : time % 2 ^ 64 ≤ ((2 ^ 64 : Nat) : Int) := by omega
    have clearing : (PenaltyThread.holding playerKey time).program.trace perform
        { timeMsec := 2 ^ 64 } = _ :: (if time % 2 ^ 64 ≤ ((2 ^ 64 : Nat) : Int) then
          Program.atomically (.clearDodgePenalty playerKey) fun _ => ()
        else pure () : Operation Unit).trace perform { timeMsec := 2 ^ 64 } := rfl
    rw [MatchmakingMvp.clears, clearing, if_pos expired]
    simp [Program.trace, Program.atomically]
  · simp [MatchmakingMvp.clears, PenaltyThread.program, Program.trace, Program.atomically]

/-- A penalty for the future is given where no thread is about to clear one of its player. -/
def Section.Careful (command : Section) (world : World) (threads : List (Operation Unit)) : Prop :=
  command.InFuture world ∧
    ∀ penalty ∈ command.penalty, ∀ thread ∈ threads, clears penalty.1 thread = false

instance (command : Section) (world : World) (threads : List (Operation Unit)) :
    Decidable (command.Careful world threads) :=
  inferInstanceAs (Decidable (_ ∧ _))

theorem Section.Careful.undisturbing {command : Section} {world : World}
    {threads : List (Operation Unit)} (careful : command.Careful world threads) :
    command.InFuture world ∧ command.Undisturbing threads := by
  refine ⟨careful.1, ?_⟩
  rintro playerKey time rfl thread inside underWay
  have kept := careful.2 _ rfl thread inside
  rw [underWay.clears] at kept
  cases kept

/-- Threads of calls in range may follow any schedule that is permitted. -/
theorem PenaltyRun.follow {guard : Section → World → List (Operation Unit) → Prop}
    {calls : List PenaltyCall} (inRange : ∀ call ∈ calls, call.InRange) {schedule : List Nat}
    (permits : Pool.Permits perform
      (fun command world threads => command.InFuture world ∧ guard command world threads) schedule
      ⟨{}, calls.map PenaltyCall.program⟩) :
    PenaltyRun guard (Pool.follow perform schedule ⟨{}, calls.map PenaltyCall.program⟩).1
      (Pool.follow perform schedule ⟨{}, calls.map PenaltyCall.program⟩).2 := by
  refine PoolRun.follow schedule permits (PoolRun.joinAll _ fun program inside => ?_)
  obtain ⟨call, member, rfl⟩ := List.mem_map.mp inside
  exact ⟨call, inRange call member, rfl⟩

/-- The penalty of player 1 expires and is renewed, and player 2 is given one. -/
def renewalCalls : List PenaltyCall :=
  [.addDodgePenalty 1 10, .tick 10, .penaltyWorkerRun, .addDodgePenalty 2 40,
    .addDodgePenalty 1 25, .expireDodgePenalty 1]

theorem renewalCalls_inRange : ∀ call ∈ renewalCalls, call.InRange := by
  rintro call inside playerKey time rfl
  simp only [renewalCalls, List.mem_cons, PenaltyCall.addDodgePenalty.injEq, reduceCtorEq,
    List.not_mem_nil, or_false, false_or] at inside
  omega

/-- The job of the first penalty reads the expired entry, player 2 is given a penalty, the job
clears the entry, and the renewal writes a new one, which another job reads. -/
def undisturbedRun : List (Executed Section World) × Pool Section World :=
  Pool.follow perform [0, 0, 1, 2, 2, 3, 2, 2, 3, 4, 5, 4, 5]
    ⟨{}, renewalCalls.map PenaltyCall.program⟩

/-- The penalties of both players are in force until they expire. -/
theorem penalty_lasts_undisturbed_renewed :
    (undisturbedRun.1.any fun executed =>
      match executed.command with
      | .clearDodgePenalty 1 => true
      | _ => false) = true ∧
    ((MatchPenaltyManager.hasDodgePenaltyAt 24 [1]).run perform undisturbedRun.2.state).1 = true ∧
      ((MatchPenaltyManager.hasDodgePenaltyAt 39 [2]).run perform undisturbedRun.2.state).1 =
        true := by
  have careful : Pool.Permits perform Section.Careful [0, 0, 1, 2, 2, 3, 2, 2, 3, 4, 5, 4, 5]
      ⟨{}, renewalCalls.map PenaltyCall.program⟩ := by
    decide +kernel
  have run : PenaltyRun (fun command _ threads => command.Undisturbing threads) undisturbedRun.1
      undisturbedRun.2 :=
    PenaltyRun.follow renewalCalls_inRange (careful.mono fun _ _ _ => Section.Careful.undisturbing)
  have now : (undisturbedRun.2.state.timeMsec : Int) = 10 := by decide +kernel
  have lasts := penalty_lasts_undisturbed run
  exact ⟨by decide +kernel,
    lasts 1 25 (by decide +kernel) 24 (by rw [now]; decide) (by decide),
    lasts 2 40 (by decide +kernel) 39 (by rw [now]; decide) (by decide)⟩

/-- The job of the first penalty reads the expired entry and the clock, the renewal writes
the new entry, and the job clears it. -/
def renewalRun : List (Executed Section World) × Pool Section World :=
  Pool.follow perform [0, 0, 1, 2, 2, 2, 4, 2] ⟨{}, renewalCalls.map PenaltyCall.program⟩

/-- The renewed penalty is lost long before it expires. -/
theorem renewal_lost : ∃ trace pool, PenaltyRun (fun _ _ _ => True) trace pool ∧
    ¬ PenaltiesLast trace pool.state := by
  have timely : Pool.Permits perform (fun command world _ => command.InFuture world ∧ True)
      [0, 0, 1, 2, 2, 2, 4, 2] ⟨{}, renewalCalls.map PenaltyCall.program⟩ := by
    decide +kernel
  have run : PenaltyRun (fun _ _ _ => True) renewalRun.1 renewalRun.2 :=
    PenaltyRun.follow renewalCalls_inRange timely
  refine ⟨_, _, run, fun lasts => ?_⟩
  have given : lastPenalty 1 renewalRun.1 = some 25 := by decide +kernel
  have now : (renewalRun.2.state.timeMsec : Int) ≤ 10 := by decide +kernel
  have lost : ((MatchPenaltyManager.hasDodgePenaltyAt 10 [1]).run perform
      renewalRun.2.state).1 = false := by
    decide +kernel
  rw [lasts 1 25 given 10 now (by decide)] at lost
  cases lost

end MatchmakingMvp
