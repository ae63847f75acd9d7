import MatchmakingMvp.Session.TaskPrograms
import Mathlib.Algebra.BigOperators.Group.Multiset.Basic

/-! # Acceptances that arrive together

Recording an acceptance, testing whether everyone accepted, testing whether the session
is being placed and placing it are separate sections, so several of the last players may
all go on to place the session. The second to do so is refused, and a refusal fails the
session (`MatchmakingMvp.concurrent_accepts_fail`). Where nobody places a session that is
being placed, it is placed by the last acceptance, with one timeout and one completion
(`MatchmakingMvp.concurrent_accepts_place`).
-/

namespace MatchmakingMvp

open Foundation

/-- An acceptance of any player. -/
def IsAcceptance (program : Operation Unit) : Prop :=
  ∃ acceptInfo : PlayerMatchAcceptInfo, acceptInfo.isAccept = true ∧
    program = MatchSessionManager.acceptMatchSession acceptInfo

/-- Nobody places the session while it is being placed. -/
def PlacesOnce (session : MatchSession) (step : Section) (world : World) : Prop :=
  step = .changeSessionStatus session .placing → (world.sessionState session).status ≠ .placing

instance (session : MatchSession) (step : Section) (world : World) :
    Decidable (PlacesOnce session step world) :=
  inferInstanceAs (Decidable (_ → _))

/-- Nothing but acceptances. -/
def acceptances : Traffic := {}

/-- What is scheduled for a session that is being placed. -/
inductive PlacementJob
  | timeOut | completion

namespace PlacementJob

/-- The section schedules the job for the session with a match id. -/
def scheduledBy (matchId : MatchId) : PlacementJob → Section → Bool
  | timeOut, .addSessionJob _ (.timeOutPlace id) => decide (id = matchId)
  | completion, .addSessionJob _ (.complete info) => decide (info.matchId = matchId)
  | _, _ => false

/-- The number of jobs a thread still has to schedule for the session. -/
def owedBy (matchId : MatchId) : PlacementJob → Task → Nat
  | _, .placed session => if session.matchId = matchId then 1 else 0
  | completion, .scheduled session => if session.matchId = matchId then 1 else 0
  | _, _ => 0

end PlacementJob

/-- The session waits for acceptance or is being placed, a thread attends to it once
everyone accepted, and each job was scheduled, or is to be, once it is being placed. -/
structure World.Accepting (session : MatchSession) (trace : List (Executed Section World))
    (world : World) (tasks : Multiset Task) : Prop where
  waits : (world.sessionState session).status = .requiresAcceptance ∨
    (world.sessionState session).status = .placing
  never : ∀ executed ∈ trace, (executed.after.sessionState session).status ≠ .failed
  spared : .failing session ∉ tasks ∧ .expiring session ∉ tasks
  watched : (world.sessionState session).isAllAcceptPlayerSession = true →
    (world.sessionState session).status = .placing ∨
      .recorded session ∈ tasks ∨ .agreed session ∈ tasks
  owed : ∀ job : PlacementJob,
    trace.countP (fun executed => job.scheduledBy session.matchId executed.command) +
      (tasks.map (job.owedBy session.matchId)).sum =
    if (world.sessionState session).status = .placing then 1 else 0

variable {start world : World} {session : MatchSession}

theorem isAllAccept_changeSessionStatus (session : MatchSession) (status : MatchTicketStatus)
    (rival : MatchSession) :
    ((perform (.changeSessionStatus session status) world).sessionState
        rival).isAllAcceptPlayerSession =
      (world.sessionState rival).isAllAcceptPlayerSession := by
  by_cases changeable : session.Changeable status (world.sessionState session) world.ticketStatus
  · rw [(perform_changeSessionStatus changeable).2]
    by_cases same : rival = session
    · subst same
      simp [MatchSessionState.isAllAcceptPlayerSession]
    · simp [same]
  · rw [(perform_changeSessionStatus_of_stuck changeable).2]

/-- Everyone has accepted only after someone's acceptance was recorded. -/
theorem TaskIssues.accepted_or {step : Section} {task task' : Task}
    (issues : TaskIssues start acceptances step world task task') (rival : MatchSession) :
    ((perform step world).sessionState rival).isAllAcceptPlayerSession =
        (world.sessionState rival).isAllAcceptPlayerSession ∨ task' = .recorded rival := by
  cases issues with
  | quiet quiet calm =>
      cases step with
      | read | setDodgePenalty | addPenaltyJob | addZoneJob => exact Or.inl rfl
      | _ => cases quiet
  | @record _ session acceptInfo known accepts =>
      by_cases same : rival = session
      · subst same
        cases recorded : ((world.sessionState rival).acceptPlayerSession acceptInfo).1 with
        | true => exact Or.inr (if_pos ⟨rfl, accepts.resolve_right id⟩)
        | false =>
            refine Or.inl ?_
            simp [perform, MatchSessionState.acceptPlayerSession_of_refused recorded]
      · exact Or.inl (by simp [perform, same])
  | @place _ session | @fail _ session | @expire _ session | @complete _ session =>
      exact Or.inl (isAllAccept_changeSessionStatus session _ rival)
  | _ => exact Or.inl rfl

section Step

variable {trace : List (Executed Section World)} {others : Multiset Task} {step : Section}
  {task task' : Task} (inStep : start.InStep)
  (known : start.matchSessions.items session.matchId = some session)
  (together : start.Together world)
  (issues : TaskIssues start acceptances step world task task')
  (unfailing : task ≠ .failing session) (unexpiring : task ≠ .expiring session)

include inStep known together issues unfailing unexpiring

omit known in
/-- The session changes by being placed only. -/
theorem TaskIssues.kept_or_placed :
    ((perform step world).sessionState session).status = (world.sessionState session).status ∨
      step = .changeSessionStatus session .placing ∧
        (world.sessionState session).status ≠ .placing ∧
        ((perform step world).sessionState session).status = .placing ∧
        task = .agreed session ∧ task' = .placed session := by
  rcases (issues.step inStep together).status_or session with
    same | ⟨status, command, -, can, becomes, changes⟩
  · exact Or.inl same
  · cases changes with
    | place =>
        refine Or.inr ⟨command, fun placing => ?_, becomes, rfl, rfl⟩
        rw [placing] at can
        cases can
    | fail => exact (unfailing rfl).elim
    | expire => exact (unexpiring rfl).elim
    | complete completes => exact completes.elim fun _ => False.elim

/-- **Jobs are scheduled by the threads that owe them.** -/
theorem TaskIssues.owed (job : PlacementJob) :
    (if job.scheduledBy session.matchId step then 1 else 0) + job.owedBy session.matchId task' +
        (if (world.sessionState session).status = .placing then 1 else 0) =
      job.owedBy session.matchId task +
        (if ((perform step world).sessionState session).status = .placing then 1 else 0) := by
  have placement := issues.kept_or_placed inStep together unfailing unexpiring
  rcases placement with same | ⟨rfl, before, after, rfl, rfl⟩
  · rw [same]
    congr 1
    cases issues with
    | quiet quiet calm =>
        cases step with
        | read | setDodgePenalty | addPenaltyJob | addZoneJob =>
            cases job <;> simp [PlacementJob.scheduledBy]
        | _ => cases quiet
    | @place _ rival present =>
        by_cases own : rival.matchId = session.matchId
        · rw [own, known] at present
          cases present
          have refused : (world.changeSessionStatus session .placing).1 = false := by
            rcases together.change inStep known .placing with ⟨can, -, effect⟩ | ⟨-, refused, -⟩
            · rw [effect, World.moved_sessionState, Function.update_self] at same
              rw [← same] at can
              cases can
            · exact refused
          cases job <;> simp [PlacementJob.scheduledBy, PlacementJob.owedBy, refused]
        · cases (world.changeSessionStatus rival .placing).1 <;> cases job <;>
            simp [PlacementJob.scheduledBy, PlacementJob.owedBy, own]
    | scheduleTimeOut => cases job <;> simp [PlacementJob.scheduledBy, PlacementJob.owedBy]
    | scheduleComplete named =>
        cases job <;> simp [PlacementJob.scheduledBy, PlacementJob.owedBy, named]
    | record | fail | expire | insert | complete =>
        cases job <;> simp only [PlacementJob.scheduledBy, reduceCtorEq, if_false, zero_add] <;>
          split_ifs <;> rfl
    | gone task_eq => rcases task_eq with rfl | rfl <;> cases job <;> rfl
    | _ => cases job <;> rfl
  · rw [if_neg before, if_pos after]
    cases job <;> simp [PlacementJob.scheduledBy, PlacementJob.owedBy]

omit unfailing unexpiring issues in
/-- Placing the session succeeds: it waits, as nobody places it while it is being placed. -/
theorem World.Together.places
    (waits : (world.sessionState session).status = .requiresAcceptance ∨
      (world.sessionState session).status = .placing)
    (asks : (world.sessionState session).status ≠ .placing) :
    (world.changeSessionStatus session .placing).1 = true ∧
      ((perform (.changeSessionStatus session .placing) world).sessionState session).status =
        .placing := by
  rcases together.change inStep known .placing with ⟨-, changed, effect⟩ | ⟨cannot, -⟩
  · refine ⟨changed, ?_⟩
    rw [effect, World.moved_sessionState, Function.update_self]
  · rw [waits.resolve_right asks] at cannot
    cases cannot

omit unfailing unexpiring in
/-- **The watch goes on.** A thread that saw everyone accept goes on to place the session. -/
theorem TaskIssues.watches
    (waits : (world.sessionState session).status = .requiresAcceptance ∨
      (world.sessionState session).status = .placing)
    (once : PlacesOnce session step world) (attended : start.Attended world (task ::ₘ others))
    (complete : (world.sessionState session).isAllAcceptPlayerSession = true)
    (watching : task = .recorded session ∨ task = .agreed session) :
    ((perform step world).sessionState session).status = .placing ∨
      task' = .recorded session ∨ task' = .agreed session := by
  rcases watching with rfl | rfl
  · cases issues with
    | quiet quiet calm => exact Or.inr (Or.inl rfl)
    | await pending =>
        rw [complete] at pending
        cases pending
    | agree => exact Or.inr (Or.inr rfl)
    | gone task_eq => rcases task_eq with same | same <;> cases same
  · cases issues with
    | quiet quiet calm => exact Or.inr (Or.inr rfl)
    | gone task_eq absent =>
        rcases task_eq with same | same
        · cases same
          have registered := attended.live _ session known (by
            rcases waits with asks | places
            · rw [asks]
              rfl
            · rw [places]
              rfl)
          rw [absent] at registered
          cases registered
        · cases same
    | placedAlready places => exact Or.inl places
    | place => exact Or.inl (together.places inStep known waits (once rfl)).2

end Step

/-- **One section of an acceptance.** -/
theorem TaskIssues.accepting (inStep : start.InStep)
    (known : start.matchSessions.items session.matchId = some session)
    {trace : List (Executed Section World)} {others : Multiset Task} {step : Section}
    {task task' : Task} (together : start.Together world)
    (issues : TaskIssues start acceptances step world task task')
    (once : PlacesOnce session step world) (attended : start.Attended world (task ::ₘ others))
    (holds : World.Accepting session trace world (task ::ₘ others)) :
    World.Accepting session (trace ++ [⟨step, world, perform step world⟩]) (perform step world)
      (task' ::ₘ others) := by
  have unfailing : task ≠ .failing session := fun same =>
    holds.spared.1 (same ▸ Multiset.mem_cons_self _ _)
  have unexpiring : task ≠ .expiring session := fun same =>
    holds.spared.2 (same ▸ Multiset.mem_cons_self _ _)
  have placement := issues.kept_or_placed inStep together unfailing unexpiring
  have waits : ((perform step world).sessionState session).status = .requiresAcceptance ∨
      ((perform step world).sessionState session).status = .placing := by
    rcases placement with same | ⟨-, -, after, -, -⟩
    · rw [same]
      exact holds.waits
    · exact Or.inr after
  refine ⟨waits, fun executed member => ?_, ⟨fun inside => ?_, fun inside => ?_⟩,
    fun complete => ?_, fun job => ?_⟩
  · rcases List.mem_append.mp member with earlier | last
    · exact holds.never executed earlier
    · cases List.mem_singleton.mp last
      rcases waits with asks | places
      · simp [asks]
      · simp [places]
  · rcases Multiset.mem_cons.mp inside with own | other
    · rcases issues.failing own.symm with failing | fails | ⟨places, -, refused⟩
      · exact unfailing failing
      · exact fails
      · rw [(together.places inStep known holds.waits (once places)).1] at refused
        cases refused
    · exact holds.spared.1 (Multiset.mem_cons_of_mem other)
  · rcases Multiset.mem_cons.mp inside with own | other
    · exact (issues.expiring own.symm).2
    · exact holds.spared.2 (Multiset.mem_cons_of_mem other)
  · have still : (world.sessionState session).status = .placing →
        ((perform step world).sessionState session).status = .placing := by
      intro places
      rcases placement with same | ⟨-, -, after, -, -⟩
      · exact same.trans places
      · exact after
    rcases issues.accepted_or session with same | rfl
    swap
    · exact Or.inr (Or.inl (Multiset.mem_cons_self _ _))
    rw [same] at complete
    have passed : (task = .recorded session ∨ task = .agreed session) →
        ((perform step world).sessionState session).status = .placing ∨
          .recorded session ∈ task' ::ₘ others ∨ .agreed session ∈ task' ::ₘ others := by
      intro watching
      rcases issues.watches inStep known together holds.waits once attended complete watching with
        places | rfl | rfl
      · exact Or.inl places
      · exact Or.inr (Or.inl (Multiset.mem_cons_self _ _))
      · exact Or.inr (Or.inr (Multiset.mem_cons_self _ _))
    rcases holds.watched complete with places | recorded | agreed
    · exact Or.inl (still places)
    · rcases Multiset.mem_cons.mp recorded with own | other
      · exact passed (Or.inl own.symm)
      · exact Or.inr (Or.inl (Multiset.mem_cons_of_mem other))
    · rcases Multiset.mem_cons.mp agreed with own | other
      · exact passed (Or.inr own.symm)
      · exact Or.inr (Or.inr (Multiset.mem_cons_of_mem other))
  · have conserved := issues.owed inStep known together unfailing unexpiring job
    have owed := holds.owed job
    rw [Multiset.map_cons, Multiset.sum_cons] at owed ⊢
    simp only [List.countP_append, List.countP_singleton]
    omega

/-- **Acceptances place the session once.** Take a registered session that waits for
acceptances, and any interleaving of acceptances in which nobody places the session while
it is being placed. The session never fails. When all calls have returned and everyone
has accepted, it is registered and being placed, and one timeout and one completion were
scheduled for it. -/
theorem concurrent_accepts_place (reached : SessionsReached start)
    (found : start.matchSessions.items session.matchId = some session)
    (asks : (start.sessionState session).status = .requiresAcceptance)
    (pending : (start.sessionState session).isAllAcceptPlayerSession = false)
    {trace : List (Executed Section World)} {pool : Pool Section World}
    (execution : Execution perform IsAcceptance (PlacesOnce session) start trace pool) :
    (∀ executed ∈ trace, (executed.after.sessionState session).status ≠ .failed) ∧
      (pool.quiet = true →
        (pool.state.sessionState session).isAllAcceptPlayerSession = true →
        pool.state.IsPlacing session ∧ ∀ job : PlacementJob,
          trace.countP (fun executed => job.scheduledBy session.matchId executed.command) = 1) := by
  have inStep := reached.inStep
  have joining : ∀ program, IsAcceptance program →
      Does start acceptances .idle program fun task _ => task = .idle := by
    rintro program ⟨acceptInfo, accepts, rfl⟩
    exact MatchSessionManager.does_acceptMatchSession inStep (Or.inl accepts)
  have initially : World.Accepting session [] start (([] : List Task) : Multiset Task) := by
    refine ⟨Or.inl asks, by simp, by simp, fun complete => ?_, by simp [asks]⟩
    rw [pending] at complete
    cases complete
  obtain ⟨together, tasks, attended, accepting, idle⟩ :=
    tasks_asserted acceptances (World.Accepting session) inStep rfl ⟨[], .nil, by simp, initially⟩
      joining
      (fun trace world tasks holds => ⟨holds.waits, holds.never,
        by simpa using holds.spared,
        fun complete => by simpa using holds.watched complete,
        fun job => by
          have owed := holds.owed job
          cases job <;> simpa [PlacementJob.owedBy] using owed⟩)
      (fun trace world others threads step task task' together issues permitted carried attended
        holds => issues.accepting inStep found together permitted attended holds)
      (execution_iff_poolRun.mp execution)
  refine ⟨accepting.never, fun quiet complete => ?_⟩
  have resting := idle quiet
  have placing : (pool.state.sessionState session).status = .placing := by
    rcases accepting.watched complete with placing | recorded | agreed
    · exact placing
    · cases resting _ (Multiset.mem_coe.mp recorded)
    · cases resting _ (Multiset.mem_coe.mp agreed)
  refine ⟨⟨placing ▸ together.shares inStep found, ?_⟩, fun job => ?_⟩
  · exact attended.live _ session found (by rw [placing]; rfl)
  · have owed := accepting.owed job
    have settled : ((tasks : Multiset Task).map (job.owedBy session.matchId)).sum = 0 := by
      refine Multiset.sum_eq_zero fun count member => ?_
      obtain ⟨task, inside, rfl⟩ := Multiset.mem_map.mp member
      rw [resting task (Multiset.mem_coe.mp inside)]
      cases job <;> rfl
    rwa [settled, if_pos placing] at owed

/-- The threads of the players 1 and 2. -/
def pairThreads : List (Operation Unit) := [1, 2].map acceptance

theorem pairThreads_accept (schedule : List Nat) :
    Execution perform IsAcceptance (fun _ _ => True) pairSessionWorld
      (Pool.follow perform schedule ⟨pairSessionWorld, pairThreads⟩).1
      (Pool.follow perform schedule ⟨pairSessionWorld, pairThreads⟩).2 := by
  refine Execution.play (fun program inside => ?_) schedule
  obtain ⟨playerKey, -, rfl⟩ := List.mem_map.mp inside
  exact ⟨_, rfl, rfl⟩

/-- Both calls record and find that everyone accepted. The first places the session, and the
second finds that it is being placed. -/
def politeRun : List (Executed Section World) × Pool Section World :=
  Pool.follow perform
    (List.replicate 5 0 ++ List.replicate 5 1 ++ [0, 1, 0, 0, 0, 1, 1, 0, 0, 0, 0])
    ⟨pairSessionWorld, pairThreads⟩

theorem concurrent_accepts_place_pair :
    (∀ executed ∈ politeRun.1,
        (executed.after.sessionState pairSession).status ≠ .failed) ∧
      politeRun.2.state.IsPlacing pairSession ∧ ∀ job : PlacementJob,
        politeRun.1.countP
          (fun executed => job.scheduledBy pairSession.matchId executed.command) = 1 := by
  have once : ∀ executed ∈ politeRun.1,
      PlacesOnce pairSession executed.command executed.before := by decide +kernel
  obtain ⟨never, placed⟩ := concurrent_accepts_place pairSessionWorld_reached (by decide +kernel)
    (by decide +kernel) (by decide +kernel) ((pairThreads_accept _).restrict once)
  exact ⟨never, placed (by decide +kernel) (by decide +kernel)⟩

/-- Both calls find that everyone accepted and that the session is not being placed; then the
first places it, and the second fails to. -/
def pairRun : List (Executed Section World) × Pool Section World :=
  Pool.follow perform
    (List.replicate 5 0 ++ List.replicate 5 1 ++ [0, 0, 0, 1, 1, 1, 0, 1, 1, 1, 1, 0, 0, 0, 0])
    ⟨pairSessionWorld, pairThreads⟩

/-- A session that everyone accepted fails. -/
theorem concurrent_accepts_fail :
    SessionsReached pairSessionWorld ∧
      pairSessionWorld.matchSessions.items 1001 = some pairSession ∧
      (pairSessionWorld.sessionState pairSession).status = .requiresAcceptance ∧
      (pairSessionWorld.sessionState pairSession).isAllAcceptPlayerSession = false ∧
      Execution perform IsAcceptance (fun _ _ => True) pairSessionWorld pairRun.1 pairRun.2 ∧
      pairRun.2.quiet = true ∧
      (pairRun.2.state.sessionState pairSession).isAllAcceptPlayerSession = true ∧
      (pairRun.2.state.sessionState pairSession).status = .failed ∧
      pairRun.2.state.matchSessions.items 1001 = none :=
  ⟨pairSessionWorld_reached, by decide +kernel, by decide +kernel, by decide +kernel,
    pairThreads_accept _, by decide +kernel, by decide +kernel, by decide +kernel,
    by decide +kernel⟩

end MatchmakingMvp
