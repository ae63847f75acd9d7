import MatchmakingMvp.Session.Tasks

/-! # The calls about sessions follow their tasks

Responses, timeouts, failures and completions perform their sections as
`MatchmakingMvp.TaskIssues` says (`MatchmakingMvp.Does`). What each such section keeps
therefore holds throughout every interleaving of them
(`MatchmakingMvp.tasks_asserted`).
-/

namespace MatchmakingMvp

open Foundation

variable {start world : World} {traffic : Traffic} {session : MatchSession}

/-- Begun at a task, the operation performs the sections of its tasks and ends as the
postcondition says. -/
def Does {Result : Type} (start : World) (traffic : Traffic) (task : Task)
    (operation : Operation Result) (post : Task → Result → Prop) : Prop :=
  ∀ seen, operation.Follows perform start.Together (fun _ _ => True) (TaskIssues start traffic)
    (fun _ task result => post task result) seen task

section Does

variable {First Second : Type} {task : Task}

theorem does_pure {result : First} {post : Task → First → Prop} (holds : post task result) :
    Does start traffic task (pure result) post :=
  fun _ => holds

theorem Does.bind {middle : Task → First → Prop} {post : Task → Second → Prop}
    {operation : Operation First} {continuation : First → Operation Second}
    (first : Does start traffic task operation middle)
    (second : ∀ task result, middle task result →
      Does start traffic task (continuation result) post) :
    Does start traffic task (operation >>= continuation) post :=
  fun seen => (first seen).bind fun seen task result holds => second task result holds seen

/-- `Does.bind` with what holds between the two operations given first. -/
theorem Does.via (middle : Task → First → Prop) {post : Task → Second → Prop}
    {operation : Operation First} {continuation : First → Operation Second}
    (first : Does start traffic task operation middle)
    (second : ∀ task result, middle task result →
      Does start traffic task (continuation result) post) :
    Does start traffic task (operation >>= continuation) post :=
  first.bind second

theorem does_atomically {step : Section} {reading : World → First} {post : Task → First → Prop}
    (issues : ∀ world, start.Together world → ∃ task',
      TaskIssues start traffic step world task task' ∧ post task' (reading world)) :
    Does start traffic task (Program.atomically step reading) post := by
  intro seen world _ together
  exact issues world together

/-- A section that does not concern the sessions leaves a thread at its task. -/
theorem does_quiet {step : Section} {reading : World → First} {post : Task → First → Prop}
    (quiet : step.quiet = true) (calm : task.urgent = false)
    (holds : ∀ world, start.Together world → post task (reading world)) :
    Does start traffic task (Program.atomically step reading) post :=
  does_atomically fun world together => ⟨task, .quiet quiet calm, holds world together⟩

end Does

namespace MatchSessionManager

/-- The thread may set out to fail the session of a match id, or has to. -/
inductive MayFail (start : World) (traffic : Traffic) : MatchId → Task → Prop
  | free {matchId} (fails : traffic.fails) : MayFail start traffic matchId .idle
  | bound {session : MatchSession}
      (known : start.matchSessions.items session.matchId = some session) :
      MayFail start traffic session.matchId (.failing session)

variable (inStep : start.InStep)

include inStep

/-- A session found under a match id is known under its own. -/
theorem known_of_found {id : MatchId} (together : start.Together world)
    (found : world.matchSessions.items id = some session) :
    session.matchId = id ∧ start.matchSessions.items session.matchId = some session := by
  have known := together.known id session found
  exact ⟨inStep.consistent.keyed known, inStep.found known⟩

theorem does_findMatchSessionByPlayerKey (playerKey : PlayerKey) :
    Does start traffic .idle (findMatchSessionByPlayerKey playerKey) fun task found =>
      task = .idle ∧ ∀ session, found = some session →
        start.matchSessions.items session.matchId = some session := by
  refine Does.via (fun task _ => task = .idle) (does_quiet rfl rfl fun _ _ => rfl)
    fun task owner same => ?_
  cases same
  cases owner with
  | none => exact does_pure ⟨rfl, nofun⟩
  | some matchId =>
      exact does_quiet rfl rfl fun world together =>
        ⟨rfl, fun session found => (known_of_found inStep together found).2⟩

/-- A thread that is to fail a session looks it up and takes it on, or leaves it where it
is not registered. -/
theorem does_findFailing {matchId : MatchId} {task : Task}
    (mayFail : MayFail start traffic matchId task) :
    Does start traffic task (findMatchSession matchId) fun task found =>
      match found with
      | none => task = .idle
      | some session => task = .failing session ∧ session.matchId = matchId ∧
          start.matchSessions.items session.matchId = some session := by
  apply does_atomically
  intro world together
  cases found : world.matchSessions.items matchId with
  | none =>
      cases mayFail with
      | free fails => exact ⟨.idle, .quiet rfl rfl, rfl⟩
      | bound known => exact ⟨.idle, .gone (Or.inr rfl) found, rfl⟩
  | some session =>
      obtain ⟨named, known⟩ := known_of_found inStep together found
      cases mayFail with
      | free fails => exact ⟨.failing session, .giveUp fails, rfl, named, known⟩
      | @bound expected present =>
          rw [named, present] at known
          cases known
          exact ⟨.failing session, .quiet rfl rfl, rfl, rfl, present⟩

omit inStep in
/-- The end of a change of a session that is over: deregister it. -/
theorem does_close {changed : Bool} {task : Task}
    (held : task = if changed then .ending session else .idle) {matchId : MatchId}
    (named : session.matchId = matchId) :
    Does start traffic task
      (do
        if changed = false then
          return ()
        let _ ← eraseMatchSession matchId)
      fun task _ => task = .idle := by
  subst held named
  cases changed with
  | false => exact does_pure rfl
  | true =>
      refine Does.via (fun task _ => task = .idle)
        (does_atomically fun _ _ => ⟨_, .close, rfl⟩) fun task _ same => ?_
      exact does_pure same

theorem does_onFailedMatchSession {matchId : MatchId} {task : Task}
    (mayFail : MayFail start traffic matchId task) :
    Does start traffic task (onFailedMatchSession matchId) fun task _ => task = .idle := by
  refine (does_findFailing inStep mayFail).bind fun task found holds => ?_
  cases found with
  | none =>
      cases holds
      exact does_pure rfl
  | some session =>
      obtain ⟨rfl, named, known⟩ := holds
      refine Does.via (fun task changed =>
        task = if changed then .ending session else .idle)
        (does_atomically fun world _ => ⟨_, .fail known, rfl⟩) fun task changed held => ?_
      exact does_close held named

theorem does_placeMatchSession
    (known : start.matchSessions.items session.matchId = some session) :
    Does start traffic (.agreed session) (placeMatchSession session.matchId)
      fun task _ => task = .idle := by
  refine Does.via (fun task found => match found with
    | none => task = .idle
    | some other => task = .agreed session ∧ other = session)
    (does_atomically fun world together => ?_) fun task found holds => ?_
  · cases found : world.matchSessions.items session.matchId with
    | none => exact ⟨.idle, .gone (Or.inl rfl) found, rfl⟩
    | some other =>
        have same := together.known _ other found
        rw [known] at same
        cases same
        exact ⟨.agreed session, .quiet rfl rfl, rfl, rfl⟩
  cases found with
  | none =>
      cases holds
      exact does_pure rfl
  | some other =>
      obtain ⟨rfl, rfl⟩ := holds
      refine Does.via (fun task status =>
        task = if status = .placing then .idle else .agreed other)
        (does_atomically fun world _ => ?_) fun task status held => ?_
      · by_cases places : (world.sessionState other).status = .placing
        · exact ⟨.idle, .placedAlready places, (if_pos places).symm⟩
        · exact ⟨.agreed other, .quiet rfl rfl, (if_neg places).symm⟩
      by_cases places : status = .placing
      · rw [if_pos places] at held ⊢
        cases held
        exact does_pure rfl
      rw [if_neg places] at held ⊢
      cases held
      refine Does.via (fun task changed =>
        task = if changed then .placed other else .failing other)
        (does_atomically fun world _ => ⟨_, .place known, rfl⟩) fun task changed held => ?_
      subst held
      cases changed with
      | false =>
          refine (does_onFailedMatchSession inStep (.bound known)).bind fun task _ same => ?_
          exact does_pure same
      | true =>
          refine Does.via (fun task _ => task = .placed other)
            (does_quiet rfl rfl fun _ _ => rfl) fun task currTimeMsec held => ?_
          cases held
          refine Does.via (fun task _ => task = .scheduled other)
            (does_atomically fun _ _ => ⟨_, .scheduleTimeOut, rfl⟩) fun task _ held => ?_
          cases held
          refine Does.via (fun task _ => task = .scheduled other)
            (does_quiet rfl rfl fun _ _ => rfl) fun task players held => ?_
          cases held
          exact does_atomically fun _ _ => ⟨_, .scheduleComplete rfl, rfl⟩

theorem does_acceptMatchSession {acceptInfo : PlayerMatchAcceptInfo}
    (accepts : acceptInfo.isAccept = true ∨ traffic.fails) :
    Does start traffic .idle (acceptMatchSession acceptInfo) fun task _ => task = .idle := by
  refine (does_findMatchSessionByPlayerKey inStep _).bind fun task found holds => ?_
  obtain ⟨rfl, known⟩ := holds
  cases found with
  | none => exact does_pure rfl
  | some session =>
      have known := known session rfl
      refine Does.via (fun task _ => task = .idle)
        (does_quiet rfl rfl fun _ _ => rfl) fun task complete held => ?_
      cases held
      by_cases complete : complete = true
      · rw [if_pos complete]
        exact does_pure rfl
      rw [if_neg complete]
      refine Does.via (fun task _ => task = .idle)
        (does_quiet rfl rfl fun _ _ => rfl) fun task status held => ?_
      cases held
      by_cases asks : status = .requiresAcceptance
      swap
      · rw [if_pos asks]
        exact does_pure rfl
      rw [if_neg (not_not.mpr asks)]
      refine Does.via (fun task recorded =>
        task = if recorded = true ∧ acceptInfo.isAccept = true then .recorded session else .idle)
        (does_atomically fun world _ => ⟨_, .record known accepts, rfl⟩)
        fun task recorded held => ?_
      cases recorded with
      | false =>
          cases held
          exact does_pure rfl
      | true =>
          rw [if_neg (by decide)]
          cases answer : acceptInfo.isAccept with
          | false =>
              rw [if_neg (by simp [answer])] at held
              cases held
              have fails := accepts.resolve_left (by simp [answer])
              rw [if_pos rfl]
              refine Does.via (fun task _ => task = .idle)
                (does_quiet rfl rfl fun _ _ => rfl) fun task _ held => ?_
              cases held
              refine Does.via (fun task _ => task = .idle)
                (Does.via (fun task _ => task = .idle)
                  (does_quiet rfl rfl fun _ _ => rfl) fun task _ held => ?_) fun task _ held => ?_
              · cases held
                exact does_quiet rfl rfl fun _ _ => rfl
              cases held
              refine (does_onFailedMatchSession inStep (.free fails)).bind fun task _ same => ?_
              exact does_pure same
          | true =>
              rw [if_pos ⟨rfl, answer⟩] at held
              subst held
              rw [if_neg (by decide)]
              refine Does.via (fun task complete =>
                task = if complete then .agreed session else .idle)
                (does_atomically fun world _ => ?_) fun task complete held => ?_
              · cases complete : (world.sessionState session).isAllAcceptPlayerSession with
                | false => exact ⟨.idle, .await complete, rfl⟩
                | true => exact ⟨.agreed session, .agree, rfl⟩
              subst held
              cases complete with
              | false => exact does_pure rfl
              | true => exact does_placeMatchSession inStep known

theorem does_findMatchSession (matchId : MatchId) {task : Task} (calm : task.urgent = false) :
    Does start traffic task (findMatchSession matchId) fun task' found =>
      task' = task ∧ ∀ session, found = some session → session.matchId = matchId ∧
        start.matchSessions.items session.matchId = some session :=
  does_quiet rfl calm fun _ together =>
    ⟨rfl, fun _ found => known_of_found inStep together found⟩

/-- Both timeouts: a session that has the status the timeout is for is ended. -/
private theorem does_timeOut {status : MatchTicketStatus} (expires : traffic.expires status)
    (matchId : MatchId) :
    Does start traffic .idle
      (do
        match ← findMatchSession matchId with
        | none => return ()
        | some session =>
            if (← getStatus session) ≠ status then
              return ()
            if (← changeStatus session .timedOut) = false then
              return ()
            let _ ← eraseMatchSession matchId)
      fun task _ => task = .idle := by
  refine (does_findMatchSession inStep matchId rfl).bind fun task found holds => ?_
  obtain ⟨rfl, known⟩ := holds
  cases found with
  | none => exact does_pure rfl
  | some session =>
      obtain ⟨named, known⟩ := known session rfl
      refine Does.via (fun task current =>
        task = if current = status then .expiring session else .idle)
        (does_atomically fun world _ => ?_) fun task current held => ?_
      · by_cases current : (world.sessionState session).status = status
        · exact ⟨.expiring session, .check (current ▸ expires), (if_pos current).symm⟩
        · exact ⟨.idle, .quiet rfl rfl, (if_neg current).symm⟩
      by_cases same : current = status
      · rw [if_pos same] at held
        rw [if_neg (not_not.mpr same)]
        cases held
        refine Does.via (fun task changed =>
          task = if changed then .ending session else .idle)
          (does_atomically fun world _ => ⟨_, .expire known, rfl⟩) fun task changed held => ?_
        exact does_close held named
      · rw [if_neg same] at held
        rw [if_pos same]
        cases held
        exact does_pure rfl

theorem does_onTimeOutAcceptMatchSession (expires : traffic.expires .requiresAcceptance)
    (matchId : MatchId) :
    Does start traffic .idle (onTimeOutAcceptMatchSession matchId) fun task _ => task = .idle :=
  does_timeOut inStep expires matchId

theorem does_onTimeOutPlaceMatchSession (expires : traffic.expires .placing) (matchId : MatchId) :
    Does start traffic .idle (onTimeOutPlaceMatchSession matchId) fun task _ => task = .idle :=
  does_timeOut inStep expires matchId

omit inStep in
theorem does_insert {info : IntegrationZoneInstanceInfo}
    (known : start.matchSessions.items session.matchId = some session)
    (completes : traffic.completes session info) :
    Does start traffic .due (IntegrationZoneInstanceManager.insert (some info)) fun task zone =>
      match zone with
      | none => task = .idle
      | some zone => task = .zoned session zone := by
  refine Does.via (fun task zone => task = .making session zone)
    (does_atomically fun world _ => ⟨_, .make known completes, rfl⟩) fun task zone held => ?_
  cases held
  refine Does.via (fun task inserted =>
    task = if inserted then .zoned session zone else .undoing zone)
    (does_atomically fun world _ => ⟨_, .insert, rfl⟩) fun task inserted held => ?_
  cases held
  cases inserted with
  | false =>
      refine Does.via (fun task _ => task = .idle)
        (does_atomically fun _ _ => ⟨_, .undo, rfl⟩) fun task _ held => ?_
      exact does_pure held
  | true =>
      refine Does.via (fun task _ => task = .zoned session zone)
        (does_quiet rfl rfl fun _ _ => rfl) fun task expireTimeMsec held => ?_
      cases held
      refine Does.via (fun task _ => task = .zoned session zone)
        (does_quiet rfl rfl fun _ _ => rfl) fun task _ held => ?_
      exact does_pure held

theorem does_onCompleteMatchSession {info : IntegrationZoneInstanceInfo} (fails : traffic.fails)
    (completes : ∀ session, start.matchSessions.items session.matchId = some session →
      session.matchId = info.matchId → traffic.completes session info) :
    Does start traffic .due (onCompleteMatchSession info true) fun task _ => task = .idle := by
  have failure : Does start traffic .idle (onFailedMatchSession info.matchId)
      fun task _ => task = .idle := does_onFailedMatchSession inStep (.free fails)
  refine Does.via (fun task found => match found with
    | none => task = .idle
    | some session => task = .due ∧ session.matchId = info.matchId ∧
        start.matchSessions.items session.matchId = some session)
    (does_atomically fun world together => ?_) fun task found holds => ?_
  · cases found : world.matchSessions.items info.matchId with
    | none => exact ⟨.idle, .lapse, rfl⟩
    | some session =>
        exact ⟨.due, .quiet rfl rfl, rfl, known_of_found inStep together found⟩
  cases found with
  | none =>
      cases holds
      exact failure
  | some session =>
      obtain ⟨rfl, named, known⟩ := holds
      refine (does_insert known (completes session known named)).bind fun task zone held => ?_
      cases zone with
      | none =>
          cases held
          exact failure
      | some zone =>
          cases held
          refine Does.via (fun task changed =>
            task = if changed then .ending session else .undoing zone)
            (does_atomically fun world _ =>
              ⟨_, .complete known ⟨info, completes session known named⟩, rfl⟩)
            fun task changed held => ?_
          subst held
          cases changed with
          | false =>
              refine Does.via (fun task _ => task = .idle)
                (does_atomically fun _ _ => ⟨_, .undo, rfl⟩) fun task _ held => ?_
              cases held
              refine failure.bind fun task _ held => ?_
              exact does_pure held
          | true =>
              refine Does.via (fun task _ => task = .idle)
                (does_atomically fun _ _ => ⟨_, named ▸ .close, rfl⟩) fun task _ held => ?_
              exact does_pure held

end MatchSessionManager


/-! ## Interleavings -/

section Interleavings

/-- The rest of a thread's program carries on with its task until it is idle. -/
abbrev Task.CarriedOn (start : World) (traffic : Traffic) (task : Task)
    (program : Operation Unit) : Prop :=
  ∃ seen, True ∧ program.Follows perform start.Together (fun _ _ => True)
    (TaskIssues start traffic) (fun _ task _ => task = .idle) seen task

variable {joins : Operation Unit → Prop} {guard : Section → World → List (Operation Unit) → Prop}
  {begin : Pool Section World} {trace : List (Executed Section World)} {pool : Pool Section World}

/-- A thread about to change a session because of a timeout performs that section next. -/
theorem Task.CarriedOn.next? {program : Operation Unit} (together : start.Together world)
    (carried : (Task.expiring session).CarriedOn start traffic program) :
    program.next? = some (.changeSessionStatus session .timedOut) := by
  obtain ⟨seen, -, follows⟩ := carried
  cases program with
  | done result => cases follows
  | step step next =>
      obtain ⟨task', issues, -⟩ := follows world trivial together
      cases issues with
      | quiet quiet calm => cases calm
      | gone task_eq => rcases task_eq with same | same <;> cases same
      | expire => rfl

/-- **Interleaved calls about sessions.** The sessions stay in step with their tickets and
attended, and an assertion about the trace, the state and the tasks of all threads holds
throughout when every section that is issued and allowed keeps it. At the end all threads
are idle. -/
theorem tasks_asserted (traffic : Traffic)
    (asserts : List (Executed Section World) → World → Multiset Task → Prop)
    (inStep : start.InStep) (begins : begin.state = start)
    (starting : ∃ tasks : List Task,
      List.Forall₂ (fun task (program : Operation Unit) =>
        Does start traffic task program fun task _ => task = .idle) tasks begin.threads ∧
      (∀ session, .ending session ∉ tasks) ∧ asserts [] start tasks)
    (joining : ∀ program, joins program →
      Does start traffic .idle program fun task _ => task = .idle)
    (added : ∀ trace world tasks, asserts trace world tasks →
      asserts trace world (.idle ::ₘ tasks))
    (preserved : ∀ trace world (others : List Task) threads step task task',
      start.Together world → TaskIssues start traffic step world task task' →
      guard step world threads →
      List.Forall₂ (Task.CarriedOn start traffic) others threads →
      start.Attended world (task ::ₘ (others : Multiset Task)) →
      asserts trace world (task ::ₘ (others : Multiset Task)) →
      asserts (trace ++ [⟨step, world, perform step world⟩]) (perform step world)
        (task' ::ₘ (others : Multiset Task)))
    (run : PoolRun perform joins guard begin trace pool) :
    start.Together pool.state ∧ ∃ tasks : List Task, start.Attended pool.state tasks ∧
      asserts trace pool.state tasks ∧ (pool.quiet = true → ∀ task ∈ tasks, task = .idle) := by
  obtain ⟨initial, does, calm, asserted⟩ := starting
  have attends : ∀ trace world tasks, (start.Attended world tasks ∧ asserts trace world tasks) →
      start.Attended world (.idle ::ₘ tasks) ∧ asserts trace world (.idle ::ₘ tasks) := by
    intro trace world tasks holds
    refine ⟨⟨holds.1.live, fun id session known ended stored =>
      Multiset.mem_cons_of_mem (holds.1.ended id session known ended stored),
      fun session inside => holds.1.ending session
        ((Multiset.mem_cons.mp inside).resolve_left nofun)⟩, added _ _ _ holds.2⟩
  have result : start.Together pool.state ∧ _ ∧ ∃ tasks : List Task,
      (start.Attended pool.state tasks ∧ asserts trace pool.state tasks) ∧
      List.Forall₂ (Task.CarriedOn start traffic) tasks pool.threads :=
    run.asserted (fun _ _ _ _ together issues => issues.together inStep together)
      (fun _ task _ => task = Task.idle) (fun _ => trivial) (fun _ _ _ _ _ => trivial)
      (fun _ _ => trivial) (begins ▸ inStep.together)
      ⟨initial, does.imp fun _ _ follow => follow _, begins ▸ inStep.attended calm,
        begins ▸ asserted⟩
      (fun program joined => ⟨.idle, fun seen => joining program joined seen, attends⟩)
      (fun trace world others threads step task task' together issues permitted follows holds =>
        ⟨(issues.step inStep together).attended inStep holds.1,
          preserved _ _ _ _ _ _ _ together issues permitted follows holds.1 holds.2⟩)
  obtain ⟨together, -, tasks, ⟨attended, asserted⟩, follows⟩ := result
  refine ⟨together, tasks, attended, asserted, fun quiet task inside => ?_⟩
  obtain ⟨program, member, seen, -, follow⟩ := exists_of_forall₂ follows inside
  have finished := List.all_eq_true.mp quiet program member
  cases program with
  | done result => exact follow
  | step step next => cases finished

end Interleavings

end MatchmakingMvp
