import MatchmakingMvp.Session.Lockstep

/-! # The tasks of threads at work on sessions

Responses, timeouts, failures and completions of the sessions that are registered
when they begin may interleave in any way. A registered session keeps the status of
its tickets throughout (`MatchmakingMvp.World.Together`). A thread has a task: what it
has done to a session or decided about it and has not followed up yet
(`MatchmakingMvp.Task`). `MatchmakingMvp.TaskIssues` says which sections a thread
performs between which tasks; `MatchmakingMvp.TaskIssues.step` what becomes of the
sessions.
-/

namespace MatchmakingMvp

open Foundation

theorem MatchTicketStatus.not_terminal_of_can {earlier later : MatchTicketStatus}
    (can : canChangeStatus earlier later = true) : earlier.terminal = false := by
  revert can
  cases earlier <;> cases later <;> decide

theorem MatchTicketStatus.decided_of_can {earlier later : MatchTicketStatus}
    (decided : earlier.seated = true ∨ earlier.terminal = true)
    (can : canChangeStatus earlier later = true) :
    later.seated = true ∨ later.terminal = true := by
  revert decided can
  cases earlier <;> cases later <;> decide

/-- The sessions registered at the start are in step with their tickets, and no other
session is registered. -/
structure World.Together (start world : World) : Prop where
  consistent : world.matchSessions.Consistent
  known : ∀ id session, world.matchSessions.items id = some session →
    start.matchSessions.items id = some session
  agrees : ∀ id session, start.matchSessions.items id = some session →
    ∀ ticket ∈ session.tickets, world.ticketStatus ticket = (world.sessionState session).status
  decided : ∀ id session, start.matchSessions.items id = some session →
    (world.sessionState session).status.seated = true ∨
      (world.sessionState session).status.terminal = true

/-- The session is registered and being placed, with all of its tickets. -/
def World.IsPlacing (world : World) (session : MatchSession) : Prop :=
  world.Shares session .placing ∧ world.matchSessions.items session.matchId = some session

/-- What a thread has in hand. -/
inductive Task
  | idle
  | recorded (session : MatchSession)
  | agreed (session : MatchSession)
  | placed (session : MatchSession)
  | scheduled (session : MatchSession)
  | failing (session : MatchSession)
  | expiring (session : MatchSession)
  | ending (session : MatchSession)
  | due
  | making (session : MatchSession) (zone : IntegrationZoneInstance)
  | zoned (session : MatchSession) (zone : IntegrationZoneInstance)
  | undoing (zone : IntegrationZoneInstance)

/-- The next section of the thread changes the session it decided about. -/
def Task.urgent : Task → Bool
  | .expiring _ | .ending _ => true
  | _ => false

/-- Which calls are made: whether they decline or fail sessions, the statuses whose
timeouts fire, and which sessions are completed with which zones. -/
structure Traffic where
  fails : Prop := False
  expires : MatchTicketStatus → Prop := fun _ => False
  completes : MatchSession → IntegrationZoneInstanceInfo → Prop := fun _ _ => False

/-- Sections that concern neither sessions, nor their jobs, nor the zone maps. -/
def Section.quiet : Section → Bool
  | .read | .setDodgePenalty _ _ | .addPenaltyJob _ _ | .addZoneJob _ _ => true
  | _ => false

variable (start : World) (traffic : Traffic)

/-- The sections a thread performs, from task to task. -/
inductive TaskIssues : Section → World → Task → Task → Prop
  | quiet {step world task} (quiet : step.quiet = true) (calm : task.urgent = false) :
      TaskIssues step world task task
  | record {world session acceptInfo}
      (known : start.matchSessions.items session.matchId = some session)
      (accepts : acceptInfo.isAccept = true ∨ traffic.fails) :
      TaskIssues (.acceptPlayerSession session acceptInfo) world .idle
        (if ((world.sessionState session).acceptPlayerSession acceptInfo).1 = true ∧
            acceptInfo.isAccept = true then .recorded session else .idle)
  | await {world session}
      (pending : (world.sessionState session).isAllAcceptPlayerSession = false) :
      TaskIssues .read world (.recorded session) .idle
  | agree {world session} : TaskIssues .read world (.recorded session) (.agreed session)
  | gone {world session task} (task_eq : task = .agreed session ∨ task = .failing session)
      (absent : world.matchSessions.items session.matchId = none) :
      TaskIssues .read world task .idle
  | placedAlready {world session} (places : (world.sessionState session).status = .placing) :
      TaskIssues .read world (.agreed session) .idle
  | place {world session}
      (known : start.matchSessions.items session.matchId = some session) :
      TaskIssues (.changeSessionStatus session .placing) world (.agreed session)
        (if (world.changeSessionStatus session .placing).1 then .placed session
          else .failing session)
  | scheduleTimeOut {world session executeTimeMsec} :
      TaskIssues (.addSessionJob executeTimeMsec (.timeOutPlace session.matchId)) world
        (.placed session) (.scheduled session)
  | scheduleComplete {world session executeTimeMsec} {info : IntegrationZoneInstanceInfo}
      (named : info.matchId = session.matchId) :
      TaskIssues (.addSessionJob executeTimeMsec (.complete info)) world
        (.scheduled session) .idle
  | giveUp {world session} (fails : traffic.fails) :
      TaskIssues .read world .idle (.failing session)
  | fail {world session}
      (known : start.matchSessions.items session.matchId = some session) :
      TaskIssues (.changeSessionStatus session .failed) world (.failing session)
        (if (world.changeSessionStatus session .failed).1 then .ending session else .idle)
  | check {world session} (expires : traffic.expires (world.sessionState session).status) :
      TaskIssues .read world .idle (.expiring session)
  | expire {world session}
      (known : start.matchSessions.items session.matchId = some session) :
      TaskIssues (.changeSessionStatus session .timedOut) world (.expiring session)
        (if (world.changeSessionStatus session .timedOut).1 then .ending session else .idle)
  | close {world session} :
      TaskIssues (.eraseMatchSession session.matchId) world (.ending session) .idle
  | lapse {world} : TaskIssues .read world .due .idle
  | make {world session info}
      (known : start.matchSessions.items session.matchId = some session)
      (completes : traffic.completes session info) :
      TaskIssues (.newZoneInstance info) world .due
        (.making session (world.newZoneInstance info))
  | insert {world session zone} :
      TaskIssues (.insertZoneInstance zone) world (.making session zone)
        (if (world.zones.insertSection zone (world.playerSessions zone)).1 then
          .zoned session zone else .undoing zone)
  | complete {world session zone}
      (known : start.matchSessions.items session.matchId = some session)
      (completes : ∃ info, traffic.completes session info) :
      TaskIssues (.changeSessionStatus session .completed) world (.zoned session zone)
        (if (world.changeSessionStatus session .completed).1 then .ending session
          else .undoing zone)
  | undo {world zone} :
      TaskIssues (.eraseZoneInstance zone.integrationZoneInstanceKey) world (.undoing zone) .idle

/-- The tasks around a successful change of a session. -/
inductive Task.Changes (session : MatchSession) : MatchTicketStatus → Task → Task → Prop
  | place : Changes session .placing (.agreed session) (.placed session)
  | fail : Changes session .failed (.failing session) (.ending session)
  | expire : Changes session .timedOut (.expiring session) (.ending session)
  | complete {zone} (completes : ∃ info, traffic.completes session info) :
      Changes session .completed (.zoned session zone) (.ending session)

/-- What a section makes of the sessions, and of a thread's task of ending one. -/
inductive SessionStep (world : World) : Section → Task → World → Task → Prop
  | stay {step after task task'} (matchSessions : after.matchSessions = world.matchSessions)
      (ticketStatus : after.ticketStatus = world.ticketStatus)
      (status : ∀ session, (after.sessionState session).status =
        (world.sessionState session).status)
      (before : ∀ session, task ≠ .ending session) (later : ∀ session, task' ≠ .ending session) :
      SessionStep world step task after task'
  | move {session status task task'}
      (known : start.matchSessions.items session.matchId = some session)
      (can : canChangeStatus (world.sessionState session).status status = true)
      (changes : Task.Changes traffic session status task task') :
      SessionStep world (.changeSessionStatus session status) task (world.moved session status)
        task'
  | leave {session} : SessionStep world (.eraseMatchSession session.matchId) (.ending session)
      (world.withMatchSessions (world.matchSessions.eraseMatchSession session.matchId).2) .idle

variable {start traffic} {world : World} {session : MatchSession} {status : MatchTicketStatus}

section Changes

variable {task task' : Task}

theorem Task.Changes.not_ending (changes : Task.Changes traffic session status task task')
    (rival : MatchSession) : task ≠ .ending rival := by
  cases changes <;> exact nofun

theorem Task.Changes.ends (changes : Task.Changes traffic session status task task')
    (terminal : status.terminal = true) : task' = .ending session := by
  cases changes with
  | place => cases terminal
  | fail | expire | complete => rfl

theorem Task.Changes.of_ending {rival : MatchSession}
    (changes : Task.Changes traffic session status task (.ending rival)) :
    rival = session ∧ status.terminal = true := by
  cases changes <;> exact ⟨rfl, rfl⟩

end Changes

section InStep

variable (inStep : start.InStep)

include inStep

theorem World.InStep.together : start.Together start :=
  ⟨inStep.consistent, fun _ _ => id, inStep.agrees,
    fun id session found => Or.inl (inStep.seated id session found)⟩

theorem World.Together.shares (together : start.Together world)
    (known : start.matchSessions.items session.matchId = some session) :
    world.Shares session (world.sessionState session).status := by
  refine ⟨rfl, fun pointer inside => ?_⟩
  rw [(inStep.whole _ session known).pointers] at inside
  obtain ⟨ticket, member, rfl⟩ := List.mem_map.mp inside
  exact ⟨ticket, rfl, together.agrees _ session known ticket member⟩

/-- A session and its tickets change together or not at all. -/
theorem World.Together.change (together : start.Together world)
    (known : start.matchSessions.items session.matchId = some session)
    (status : MatchTicketStatus) :
    (canChangeStatus (world.sessionState session).status status = true ∧
        (world.changeSessionStatus session status).1 = true ∧
        perform (.changeSessionStatus session status) world = world.moved session status) ∨
      (canChangeStatus (world.sessionState session).status status = false ∧
        (world.changeSessionStatus session status).1 = false ∧
        perform (.changeSessionStatus session status) world = world) := by
  by_cases can : canChangeStatus (world.sessionState session).status status = true
  · have changeable : session.Changeable status (world.sessionState session)
        world.ticketStatus :=
      (inStep.whole _ session known).changeable can rfl (together.agrees _ session known)
    obtain ⟨accepted, effect⟩ := perform_changeSessionStatus changeable
    exact Or.inl ⟨can, accepted, effect⟩
  · obtain ⟨refused, effect⟩ := perform_changeSessionStatus_of_stuck
      (fun changeable : session.Changeable status _ _ => can changeable.1)
    exact Or.inr ⟨by simpa using can, refused, effect⟩

/-- A change of a session moves the thread on if it succeeds and changes nothing
otherwise. -/
private theorem SessionStep.change (together : start.Together world)
    (known : start.matchSessions.items session.matchId = some session) {task moved stuck : Task}
    (changes : Task.Changes traffic session status task moved)
    (refused : ∀ rival, stuck ≠ .ending rival) :
    SessionStep start traffic world (.changeSessionStatus session status) task
      (perform (.changeSessionStatus session status) world)
      (if (world.changeSessionStatus session status).1 then moved else stuck) := by
  rcases together.change inStep known status with
    ⟨can, changed, effect⟩ | ⟨-, unchanged, effect⟩
  · rw [effect, changed, if_pos rfl]
    exact .move known can changes
  · rw [effect, unchanged, if_neg (by simp)]
    exact .stay rfl rfl (fun _ => rfl) changes.not_ending refused

omit inStep in
/-- A thread is about to time a session out where it found the status of the timeout. -/
theorem TaskIssues.expiring {step : Section} {task task' : Task}
    (issues : TaskIssues start traffic step world task task') (about : task' = .expiring session) :
    step = .read ∧ traffic.expires (world.sessionState session).status := by
  cases issues with
  | quiet quiet calm =>
      subst about
      cases calm
  | check expires =>
      cases about
      exact ⟨rfl, expires⟩
  | record | place | fail | expire | insert | complete => split_ifs at about
  | _ => cases about

omit inStep in
/-- A thread is about to fail a session on its own account, or because it could not place
it. -/
theorem TaskIssues.failing {step : Section} {task task' : Task}
    (issues : TaskIssues start traffic step world task task') (about : task' = .failing session) :
    task = .failing session ∨ traffic.fails ∨
      step = .changeSessionStatus session .placing ∧
        start.matchSessions.items session.matchId = some session ∧
        (world.changeSessionStatus session .placing).1 = false := by
  cases issues with
  | quiet quiet calm => exact Or.inl about
  | giveUp fails => exact Or.inr (Or.inl fails)
  | place known =>
      split_ifs at about with changed
      cases about
      exact Or.inr (Or.inr ⟨rfl, known, by simpa using changed⟩)
  | record | fail | expire | insert | complete => split_ifs at about
  | _ => cases about

/-- **What a section of a thread makes of the sessions.** -/
theorem TaskIssues.step {step : Section} {task task' : Task} (together : start.Together world)
    (issues : TaskIssues start traffic step world task task') :
    SessionStep start traffic world step task (perform step world) task' := by
  cases issues with
  | quiet quiet calm =>
      have awake : ∀ rival, task ≠ .ending rival := by
        rintro rival rfl
        cases calm
      cases step with
      | read | setDodgePenalty | addPenaltyJob | addZoneJob =>
          exact .stay rfl rfl (fun _ => rfl) awake awake
      | _ => cases quiet
  | @record _ session acceptInfo known accepts =>
      refine .stay rfl rfl (fun rival => ?_) (by rintro _ ⟨⟩) fun rival => ?_
      · by_cases same : rival = session
        · subst same
          simp [perform, MatchSessionState.acceptPlayerSession_status]
        · simp [perform, same]
      · split_ifs <;> rintro ⟨⟩
  | place known => exact .change inStep together known .place (by rintro _ ⟨⟩)
  | fail known => exact .change inStep together known .fail (by rintro _ ⟨⟩)
  | expire known => exact .change inStep together known .expire (by rintro _ ⟨⟩)
  | complete known completes =>
      exact .change inStep together known (.complete completes) (by rintro _ ⟨⟩)
  | close => exact .leave
  | gone task_eq absent =>
      rcases task_eq with rfl | rfl <;>
        exact .stay rfl rfl (fun _ => rfl) (by rintro _ ⟨⟩) (by rintro _ ⟨⟩)
  | insert =>
      refine .stay rfl rfl (fun _ => rfl) (by rintro _ ⟨⟩) fun rival => ?_
      split_ifs <;> rintro ⟨⟩
  | await | agree | placedAlready | scheduleTimeOut | scheduleComplete | giveUp | check | lapse
  | make | undo =>
      exact .stay rfl rfl (fun _ => rfl) (by rintro _ ⟨⟩) (by rintro _ ⟨⟩)

/-- **The sessions stay in step with their tickets.** -/
theorem SessionStep.together {step : Section} {after : World} {task task' : Task}
    (together : start.Together world)
    (consistent : after.matchSessions.Consistent)
    (sessionStep : SessionStep start traffic world step task after task') :
    start.Together after := by
  cases sessionStep with
  | stay matchSessions ticketStatus status =>
      refine ⟨consistent, ?_, fun id rival known ticket inside => ?_, fun id rival known => ?_⟩
      · rw [matchSessions]
        exact together.known
      · rw [ticketStatus, status]
        exact together.agrees id rival known ticket inside
      · rw [status]
        exact together.decided id rival known
  | @move session status _ _ known can =>
      refine ⟨consistent, together.known, fun id rival present ticket inside => ?_,
        fun id rival present => ?_⟩
      · by_cases same : rival = session
        · subst same
          simp [moveAll_of_mem inside]
        · rw [World.moved_sessionState, Function.update_of_ne same, World.moved_ticketStatus,
            moveAll_of_not_mem]
          · exact together.agrees id rival present ticket inside
          · intro shared
            obtain rfl := inStep.apart _ _ session rival known present ticket shared inside
            exact same (Option.some.inj (present.symm.trans known))
      · by_cases same : rival = session
        · subst same
          rw [World.moved_sessionState, Function.update_self]
          exact MatchTicketStatus.decided_of_can (together.decided id rival present) can
        · rw [World.moved_sessionState, Function.update_of_ne same]
          exact together.decided id rival present
  | leave =>
      refine ⟨consistent, fun id rival present => ?_, together.agrees, together.decided⟩
      exact together.known id rival (Registry.stored_of_erase _ _ present).2

omit inStep in
/-- The status of a session changes by a change of it only. -/
theorem SessionStep.status_or {step : Section} {after : World} {task task' : Task}
    (sessionStep : SessionStep start traffic world step task after task') (rival : MatchSession) :
    (after.sessionState rival).status = (world.sessionState rival).status ∨
      ∃ status, step = .changeSessionStatus rival status ∧
        start.matchSessions.items rival.matchId = some rival ∧
        canChangeStatus (world.sessionState rival).status status = true ∧
        (after.sessionState rival).status = status ∧
        Task.Changes traffic rival status task task' := by
  cases sessionStep with
  | stay _ _ status => exact Or.inl (status rival)
  | @move session status _ _ known can changes =>
      by_cases same : rival = session
      · subst same
        exact Or.inr ⟨status, rfl, known, can, by simp, changes⟩
      · exact Or.inl (by simp [same])
  | leave => exact Or.inl rfl

theorem TaskIssues.together {step : Section} {task task' : Task}
    (together : start.Together world) (issues : TaskIssues start traffic step world task task') :
    start.Together (perform step world) :=
  (issues.step inStep together).together inStep together
    (matchSessions_consistent_perform step world together.consistent)

/-- A session is registered until it ended, and a thread that ends it deregisters it. -/
structure World.Attended (start world : World) (tasks : Multiset Task) : Prop where
  live : ∀ id session, start.matchSessions.items id = some session →
    (world.sessionState session).status.terminal = false →
    world.matchSessions.items id = some session
  ended : ∀ id session, start.matchSessions.items id = some session →
    (world.sessionState session).status.terminal = true →
    world.matchSessions.items id = some session → .ending session ∈ tasks
  ending : ∀ session, .ending session ∈ tasks →
    start.matchSessions.items session.matchId = some session ∧
      (world.sessionState session).status.terminal = true

theorem World.InStep.attended {tasks : Multiset Task}
    (calm : ∀ session, .ending session ∉ tasks) : start.Attended start tasks where
  live _ _ known _ := known
  ended id session known ended _ := by
    have live := MatchTicketStatus.not_terminal_of_inPlay
      (MatchTicketStatus.inPlay_of_seated (inStep.seated id session known))
    rw [live] at ended
    cases ended
  ending session inside := (calm session inside).elim

/-- **Sessions stay attended.** -/
theorem SessionStep.attended {step : Section} {after : World} {task task' : Task}
    {others : Multiset Task} (attended : start.Attended world (task ::ₘ others))
    (sessionStep : SessionStep start traffic world step task after task') :
    start.Attended after (task' ::ₘ others) := by
  have elsewhere : ∀ {rival : MatchSession}, task ≠ .ending rival →
      .ending rival ∈ task ::ₘ others → .ending rival ∈ others := by
    intro rival different inside
    exact (Multiset.mem_cons.mp inside).resolve_left fun same => different same.symm
  cases sessionStep with
  | stay matchSessions ticketStatus status before later =>
      refine ⟨fun id rival known => ?_, fun id rival known ended present => ?_,
        fun rival inside => ?_⟩
      · rw [status, matchSessions]
        exact attended.live id rival known
      · rw [status] at ended
        rw [matchSessions] at present
        exact Multiset.mem_cons_of_mem
          (elsewhere (before rival) (attended.ended id rival known ended present))
      · rw [status]
        have others := (Multiset.mem_cons.mp inside).resolve_left fun same => later rival same.symm
        exact attended.ending rival (Multiset.mem_cons_of_mem others)
  | @move session status _ _ known can changes =>
      have alive := MatchTicketStatus.not_terminal_of_can can
      have unfinished : ∀ rival, .ending rival ∈ others → rival ≠ session := by
        rintro rival inside rfl
        have terminal := (attended.ending rival (Multiset.mem_cons_of_mem inside)).2
        rw [alive] at terminal
        cases terminal
      refine ⟨fun id rival present unended => ?_, fun id rival present ended stored => ?_,
        fun rival inside => ?_⟩
      · by_cases same : rival = session
        · subst same
          exact attended.live id rival present alive
        · rw [World.moved_sessionState, Function.update_of_ne same] at unended
          exact attended.live id rival present unended
      · by_cases same : rival = session
        · subst same
          rw [World.moved_sessionState, Function.update_self] at ended
          rw [changes.ends ended]
          exact Multiset.mem_cons_self _ _
        · rw [World.moved_sessionState, Function.update_of_ne same] at ended
          exact Multiset.mem_cons_of_mem
            (elsewhere (changes.not_ending rival) (attended.ended id rival present ended stored))
      · rcases Multiset.mem_cons.mp inside with rfl | other
        · obtain ⟨rfl, terminal⟩ := changes.of_ending
          exact ⟨known, by simpa using terminal⟩
        · rw [World.moved_sessionState, Function.update_of_ne (unfinished rival other)]
          exact attended.ending rival (Multiset.mem_cons_of_mem other)
  | @leave session =>
      obtain ⟨known, terminal⟩ := attended.ending session (Multiset.mem_cons_self _ _)
      refine ⟨fun id rival present alive => ?_, fun id rival present ended stored => ?_,
        fun rival inside => ?_⟩
      · have registered := attended.live id rival present alive
        rw [World.withMatchSessions_matchSessions, SessionRegistry.eraseMatchSession,
          Registry.erase_items, Function.update_of_ne]
        · exact registered
        · rintro rfl
          cases present.symm.trans known
          rw [World.withMatchSessions_sessionState, terminal] at alive
          cases alive
      · obtain ⟨away, earlier⟩ := Registry.stored_of_erase _ _ stored
        have inside := attended.ended id rival present ended earlier
        rcases Multiset.mem_cons.mp inside with same | other
        · cases same
          exact (away (inStep.consistent.keyed present).symm).elim
        · exact Multiset.mem_cons_of_mem other
      · exact attended.ending rival (Multiset.mem_cons_of_mem
          ((Multiset.mem_cons.mp inside).resolve_left (by rintro ⟨⟩)))

end InStep

end MatchmakingMvp
