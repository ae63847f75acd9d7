import MatchmakingMvp.Session.TaskPrograms

/-! # Accept timeouts beside responses

The accept timeout tests the status of its session in one section and changes it in
another. A session that is placed in between is timed out although everyone accepted
(`MatchmakingMvp.accept_timeout_ends_placing`). Where no session is placed while a
timeout is between its two sections, a timeout only ends sessions that wait for
acceptance (`MatchmakingMvp.accept_timeout_spares_placing`).
-/

namespace MatchmakingMvp

open Foundation

/-- A response of any player, or the accept timeout of any session. -/
def IsResponseOrAcceptTimeout (program : Operation Unit) : Prop :=
  (∃ acceptInfo, program = MatchSessionManager.acceptMatchSession acceptInfo) ∨
    ∃ matchId, program = MatchSessionManager.onTimeOutAcceptMatchSession matchId

/-- No session is placed while another thread is about to time it out. -/
def NotOvertaken (step : Section) (world : World) (others : List (Operation Unit)) : Prop :=
  ∀ session, step = .changeSessionStatus session .placing →
    (world.changeSessionStatus session .placing).1 = true →
    ∀ program ∈ others, program.next? ≠ some (.changeSessionStatus session .timedOut)

/-- The session whose placing the section attempts. -/
def Section.placed? : Section → Option MatchSession
  | .changeSessionStatus session .placing => some session
  | _ => none

theorem Section.placed?_eq_some {step : Section} {session : MatchSession} :
    step.placed? = some session ↔ step = .changeSessionStatus session .placing := by
  constructor
  · intro placed
    unfold placed? at placed
    split at placed
    · rw [Option.some.inj placed]
    · cases placed
  · rintro rfl
    rfl

instance (step : Section) (world : World) (others : List (Operation Unit)) :
    Decidable (NotOvertaken step world others) :=
  decidable_of_iff (∀ session ∈ step.placed?,
      (world.changeSessionStatus session .placing).1 = true →
      ∀ program ∈ others, program.next? ≠ some (.changeSessionStatus session .timedOut))
    (by simp only [Option.mem_def, Section.placed?_eq_some, NotOvertaken])

/-- Responses, and timeouts of sessions that wait for acceptance. -/
def acceptTraffic : Traffic := { fails := True, expires := (· = .requiresAcceptance) }

/-- No session about to be timed out is being placed, sessions were timed out only while
they asked, and a session that was being placed was left so by every section but a
failure. -/
structure World.Unexpired (start : World) (trace : List (Executed Section World)) (world : World)
    (tasks : Multiset Task) : Prop where
  checked : ∀ session, .expiring session ∈ tasks →
    (world.sessionState session).status ≠ .placing
  asked : ∀ executed ∈ trace, ∀ session,
    executed.command = .changeSessionStatus session .timedOut →
    (executed.before.changeSessionStatus session .timedOut).1 = true →
    (executed.before.sessionState session).status = .requiresAcceptance
  spared : ∀ executed ∈ trace, ∀ session, start.matchSessions.items session.matchId = some session →
    (executed.before.sessionState session).status = .placing →
    executed.command = .changeSessionStatus session .failed ∨ executed.after.IsPlacing session

variable {start world : World} {session : MatchSession}

/-- A session being placed is not timed out, unless a thread was about to. -/
theorem Task.Changes.placing_or_failed {status : MatchTicketStatus} {task task' : Task}
    (changes : Task.Changes acceptTraffic session status task task')
    (spared : task ≠ .expiring session) : status = .placing ∨ status = .failed := by
  cases changes with
  | place => exact Or.inl rfl
  | fail => exact Or.inr rfl
  | expire => exact (spared rfl).elim
  | complete completes => exact completes.elim fun _ => False.elim

section Step

variable {trace : List (Executed Section World)} {others : List Task}
  {threads : List (Operation Unit)} {step : Section} {task task' : Task}
  (inStep : start.InStep) (together : start.Together world)
  (issues : TaskIssues start acceptTraffic step world task task')
  (holds : start.Unexpired trace world (task ::ₘ (others : Multiset Task)))

include inStep together issues holds

/-- A session that is being placed is left so by every section but a failure. -/
theorem TaskIssues.failed_or_placing
    (attended : start.Attended world (task ::ₘ (others : Multiset Task))) {rival : MatchSession}
    (known : start.matchSessions.items rival.matchId = some rival)
    (placing : (world.sessionState rival).status = .placing) :
    step = .changeSessionStatus rival .failed ∨ (perform step world).IsPlacing rival := by
  have sessionStep := issues.step inStep together
  have stays : ((perform step world).sessionState rival).status = .placing →
      (perform step world).IsPlacing rival := by
    intro still
    refine ⟨still ▸ (issues.together inStep together).shares inStep known, ?_⟩
    exact (sessionStep.attended inStep attended).live _ rival known (by rw [still]; rfl)
  rcases sessionStep.status_or rival with same | ⟨status, rfl, -, -, becomes, changes⟩
  · exact Or.inr (stays (same.trans placing))
  · have spared : task ≠ .expiring rival := by
      rintro rfl
      exact holds.checked rival (Multiset.mem_cons_self _ _) placing
    rcases changes.placing_or_failed spared with rfl | rfl
    · exact Or.inr (stays becomes)
    · exact Or.inl rfl

/-- **One section of a response or an accept timeout.** -/
theorem TaskIssues.unexpired
    (attended : start.Attended world (task ::ₘ (others : Multiset Task)))
    (permitted : NotOvertaken step world threads)
    (carried : List.Forall₂ (Task.CarriedOn start acceptTraffic) others threads) :
    start.Unexpired (trace ++ [⟨step, world, perform step world⟩]) (perform step world)
      (task' ::ₘ (others : Multiset Task)) := by
  refine ⟨fun rival inside => ?_, fun executed member rival timesOut changed => ?_,
    fun executed member rival known placing => ?_⟩
  · rcases Multiset.mem_cons.mp inside with own | other
    · obtain ⟨rfl, expires⟩ := issues.expiring own.symm
      intro placing
      exact absurd (placing.symm.trans expires) (by decide)
    · have earlier := holds.checked rival (Multiset.mem_cons_of_mem other)
      rcases (issues.step inStep together).status_or rival with
        same | ⟨status, rfl, known, can, becomes, -⟩
      · rwa [same]
      · rw [becomes]
        rintro rfl
        obtain ⟨program, running, carries⟩ := exists_of_forall₂ carried other
        have accepted : (world.changeSessionStatus rival .placing).1 = true := by
          rcases together.change inStep known .placing with
            ⟨-, accepted, -⟩ | ⟨cannot, -⟩
          · exact accepted
          · rw [can] at cannot
            cases cannot
        exact permitted rival rfl accepted program running (carries.next? together)
  · rcases List.mem_append.mp member with earlier | last
    · exact holds.asked executed earlier rival timesOut changed
    · cases List.mem_singleton.mp last
      subst timesOut
      cases issues with
      | quiet quiet => cases quiet
      | expire known =>
          have waits := holds.checked rival (Multiset.mem_cons_self _ _)
          rcases together.change inStep known .timedOut with
            ⟨can, -⟩ | ⟨-, refused, -⟩
          · revert can waits
            cases (world.sessionState rival).status <;> decide
          · rw [refused] at changed
            cases changed
  · rcases List.mem_append.mp member with earlier | last
    · exact holds.spared executed earlier rival known placing
    · cases List.mem_singleton.mp last
      exact issues.failed_or_placing inStep together holds attended known placing

end Step

/-- The accept timeout fails no session. -/
theorem MatchSessionManager.everywhere_onTimeOutAccept (matchId : MatchId) :
    (onTimeOutAcceptMatchSession matchId).Everywhere
      fun step => ∀ session, step ≠ .changeSessionStatus session .failed := by
  refine Program.Everywhere.bind ((Program.everywhere_atomically _ _).mpr nofun) fun found => ?_
  cases found with
  | none => trivial
  | some session =>
      refine Program.Everywhere.bind ((Program.everywhere_atomically _ _).mpr nofun)
        fun status => ?_
      by_cases asks : status ≠ .requiresAcceptance
      · rw [if_pos asks]
        trivial
      rw [if_neg asks]
      refine Program.Everywhere.bind ((Program.everywhere_atomically _ _).mpr nofun)
        fun changed => ?_
      by_cases refused : changed = false
      · rw [if_pos refused]
        trivial
      rw [if_neg refused]
      exact Program.Everywhere.bind ((Program.everywhere_atomically _ _).mpr nofun)
        fun _ => trivial

/-- **Accept timeouts spare sessions that are being placed.** In every interleaving of
responses and accept timeouts, as long as no session is placed while a thread is between
the two sections of its timeout: a session is timed out only from waiting for acceptance,
and every section leaves a session that is being placed, its tickets and its registration
as they are, unless it fails the session. A timeout performs no such section. -/
theorem accept_timeout_spares_placing (reached : SessionsReached start)
    {trace : List (Executed Section World)} {pool : Pool Section World}
    (run : PoolRun perform IsResponseOrAcceptTimeout NotOvertaken ⟨start, []⟩ trace pool) :
    (∀ executed ∈ trace, ∀ session, executed.command = .changeSessionStatus session .timedOut →
      (executed.before.changeSessionStatus session .timedOut).1 = true →
      (executed.before.sessionState session).status = .requiresAcceptance) ∧
    (∀ executed ∈ trace, ∀ session,
      start.matchSessions.items session.matchId = some session →
      (executed.before.sessionState session).status = .placing →
      executed.command = .changeSessionStatus session .failed ∨
        executed.after.IsPlacing session) ∧
    ∀ matchId, (MatchSessionManager.onTimeOutAcceptMatchSession matchId).Everywhere
      fun step => ∀ session, step ≠ .changeSessionStatus session .failed := by
  have inStep := reached.inStep
  have joining : ∀ program, IsResponseOrAcceptTimeout program →
      Does start acceptTraffic .idle program fun task _ => task = .idle := by
    rintro program (⟨acceptInfo, rfl⟩ | ⟨matchId, rfl⟩)
    · exact MatchSessionManager.does_acceptMatchSession inStep (Or.inr trivial)
    · exact MatchSessionManager.does_onTimeOutAcceptMatchSession inStep rfl matchId
  obtain ⟨-, tasks, -, unexpired, -⟩ := tasks_asserted acceptTraffic start.Unexpired inStep rfl
    ⟨[], .nil, by simp, by simp, by simp, by simp⟩ joining
    (fun trace world tasks holds => ⟨fun rival inside => holds.checked rival
      ((Multiset.mem_cons.mp inside).resolve_left nofun), holds.asked, holds.spared⟩)
    (fun trace world others threads step task task' together issues permitted carried attended
      holds => issues.unexpired inStep together holds attended permitted carried) run
  exact ⟨unexpired.asked, unexpired.spared, MatchSessionManager.everywhere_onTimeOutAccept⟩

/-- Players 1 and 2 accept while the timeouts of both sessions fire. -/
def timelyThreads : List (Operation Unit) :=
  [acceptance 1, acceptance 2, MatchSessionManager.onTimeOutAcceptMatchSession 1001,
    MatchSessionManager.onTimeOutAcceptMatchSession 1003]

/-- The timeout of player 3 finds the session waiting and ends it while the others accept. That
of the players 1 and 2 begins before they accepted, and looks at the session once it is placed. -/
def timelySchedule : List Nat :=
  [0, 2, 3] ++ List.replicate 9 0 ++ [3] ++ List.replicate 6 1 ++ [3] ++ List.replicate 8 1 ++
    [3] ++ List.replicate 4 2

def timelyRun : List (Executed Section World) × Pool Section World :=
  Pool.follow perform timelySchedule ⟨pairSessionWorld, timelyThreads⟩

theorem accept_timeout_spares_placing_pair :
    (timelyRun.2.state.sessionState loneSession).status = .timedOut ∧
      (timelyRun.2.state.sessionState pairSession).status = .placing ∧
      (∀ executed ∈ timelyRun.1, ∀ session,
        executed.command = .changeSessionStatus session .timedOut →
        (executed.before.changeSessionStatus session .timedOut).1 = true →
        (executed.before.sessionState session).status = .requiresAcceptance) ∧
      (∀ executed ∈ timelyRun.1, ∀ session,
        pairSessionWorld.matchSessions.items session.matchId = some session →
        (executed.before.sessionState session).status = .placing →
        executed.command = .changeSessionStatus session .failed ∨
          executed.after.IsPlacing session) ∧
      ∀ matchId, (MatchSessionManager.onTimeOutAcceptMatchSession matchId).Everywhere
        fun step => ∀ session, step ≠ .changeSessionStatus session .failed := by
  have joined : PoolRun perform IsResponseOrAcceptTimeout NotOvertaken ⟨pairSessionWorld, []⟩ []
      ⟨pairSessionWorld, timelyThreads⟩ :=
    (((PoolRun.start.join (Or.inr ⟨_, rfl⟩)).join (Or.inr ⟨_, rfl⟩)).join (Or.inl ⟨_, rfl⟩)).join
      (Or.inl ⟨_, rfl⟩)
  have run := joined.follow timelySchedule (by decide +kernel)
  exact ⟨by decide +kernel, by decide +kernel,
    accept_timeout_spares_placing pairSessionWorld_reached run⟩

/-- The timeout of the session of player 3 finds it waiting, the player accepts, and the
timeout goes on. -/
def overtakenRun : List (Executed Section World) × Pool Section World :=
  Pool.follow perform ([0, 0] ++ List.replicate 14 1 ++ [0, 0])
    ⟨loneSessionWorld, [MatchSessionManager.onTimeOutAcceptMatchSession 1003, acceptance 3]⟩

/-- The timeout ends the session after everyone accepted and it was being placed. -/
theorem accept_timeout_ends_placing :
    Execution perform IsResponseOrAcceptTimeout (fun _ _ => True) loneSessionWorld
        overtakenRun.1 overtakenRun.2 ∧
      (∃ executed ∈ overtakenRun.1,
        executed.command = .changeSessionStatus loneSession .timedOut ∧
        (executed.before.changeSessionStatus loneSession .timedOut).1 = true ∧
        (executed.before.sessionState loneSession).status = .placing ∧
        (executed.before.sessionState loneSession).isAllAcceptPlayerSession = true ∧
        ¬ executed.after.IsPlacing loneSession) ∧
      (overtakenRun.2.state.sessionState loneSession).status = .timedOut ∧
      overtakenRun.2.state.matchSessions.items 1003 = none := by
  refine ⟨?_, ?_, by decide +kernel, by decide +kernel⟩
  · refine Execution.play (fun program inside => ?_) _
    rcases List.mem_pair.mp inside with rfl | rfl
    · exact Or.inr ⟨_, rfl⟩
    · exact Or.inl ⟨_, rfl⟩
  · have timesOut : ∃ executed ∈ overtakenRun.1,
        executed.command = .changeSessionStatus loneSession .timedOut ∧
        (executed.before.changeSessionStatus loneSession .timedOut).1 = true ∧
        (executed.before.sessionState loneSession).status = .placing ∧
        (executed.before.sessionState loneSession).isAllAcceptPlayerSession = true ∧
        (executed.after.sessionState loneSession).status = .timedOut := by decide +kernel
    obtain ⟨executed, inside, command, changed, placing, complete, ended⟩ := timesOut
    refine ⟨executed, inside, command, changed, placing, complete, fun still => ?_⟩
    exact absurd (still.1.own.symm.trans ended) (by decide)

end MatchmakingMvp
