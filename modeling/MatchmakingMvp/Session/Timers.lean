import MatchmakingMvp.Session.Lockstep

/-! # No session hangs

Timeouts are scheduled and never cancelled, so stale ones stay beside the live one.
Every registered session still has a pending timeout for the status it has, and that
timeout ends it (`MatchmakingMvp.session_never_hangs`).
-/

namespace MatchmakingMvp

open Foundation

namespace World

/-- The job is the timeout of the session's status. -/
def Times (world : World) (session : MatchSession) (job : SessionJob) : Prop :=
  ((world.sessionState session).status = .requiresAcceptance ∧
      job = .timeOutAccept session.matchId) ∨
    ((world.sessionState session).status = .placing ∧ job = .timeOutPlace session.matchId)

/-- Every registered session has a pending timeout of its status. -/
def Armed (world : World) : Prop :=
  ∀ id session, world.matchSessions.items id = some session →
    ∃ dueTimeMsec job, (dueTimeMsec, job) ∈ world.sessionJobs ∧ world.Times session job

variable {world after : World}

theorem Times.congr {before after : World} {session : MatchSession} {job : SessionJob}
    (times : before.Times session job)
    (same : (after.sessionState session).status = (before.sessionState session).status) :
    after.Times session job := by
  rwa [Times, same]

theorem Armed.leaves (armed : world.Armed) (leaves : world.LeavesSessions after) :
    after.Armed := by
  intro id session found
  rw [leaves.matchSessions] at found
  obtain ⟨dueTimeMsec, job, pending, times⟩ := armed id session found
  exact ⟨dueTimeMsec, job, leaves.sessionJobs _ pending,
    times.congr (by rw [leaves.sessionState id session found])⟩

/-- **Every move arms the timeout of the status it leads to.** -/
theorem SessionMove.armed (move : world.SessionMove after) (inStep : world.InStep)
    (armed : world.Armed) : after.Armed := by
  cases move with
  | stay leaves => exact armed.leaves leaves
  | @«open» _ session dueTimeMsec whole searching fresh leaves =>
      refine Armed.leaves (fun id rival found => ?_) leaves
      rw [withSessionJobs_matchSessions, asked_items fresh] at found
      by_cases own : id = session.matchId
      · rw [own, Function.update_self, Option.some.injEq] at found
        subst found
        exact ⟨dueTimeMsec, _, mem_insertMulti.mpr (Or.inl rfl),
          Or.inl ⟨by simp [World.asked], rfl⟩⟩
      · rw [Function.update_of_ne own] at found
        obtain ⟨due, job, pending, times⟩ := armed id rival found
        refine ⟨due, job, mem_insertMulti.mpr (Or.inr pending), times.congr ?_⟩
        rw [withSessionJobs_sessionState, asked_sessionState_of_ne]
        rintro rfl
        exact own (inStep.consistent.keyed found).symm
  | @record session state found kept =>
      intro id rival present
      obtain ⟨due, job, pending, times⟩ := armed id rival present
      refine ⟨due, job, pending, times.congr ?_⟩
      by_cases same : rival = session
      · subst same
        simp [kept]
      · simp [same]
  | @place session found asks =>
      intro id rival present
      obtain ⟨due, job, pending, times⟩ := armed id rival present
      by_cases same : rival = session
      · subst same
        exact ⟨_, _, mem_insertMulti.mpr (Or.inr (mem_insertMulti.mpr (Or.inl rfl))),
          Or.inr ⟨by simp, rfl⟩⟩
      · exact ⟨due, job, mem_insertMulti.mpr (Or.inr (mem_insertMulti.mpr (Or.inr pending))),
          times.congr (by simp [same])⟩
  | @close session status found can terminal =>
      intro id rival present
      obtain ⟨away, earlier⟩ := Registry.stored_of_erase _ _ present
      obtain ⟨due, job, pending, times⟩ := armed id rival earlier
      refine ⟨due, job, pending, times.congr ?_⟩
      rw [ended_sessionState, Function.update_of_ne]
      rintro rfl
      exact away (inStep.consistent.keyed earlier).symm
  | drop matchId leaves =>
      have kept : (world.dropped matchId).Armed := fun id rival present =>
        armed id rival (Registry.stored_of_erase _ _ present).2
      exact kept.leaves leaves

theorem SessionMoves.armed (moves : world.SessionMoves after) (inStep : world.InStep)
    (armed : world.Armed) : after.Armed := by
  suffices after.InStep ∧ after.Armed from this.2
  induction moves with
  | refl => exact ⟨inStep, armed⟩
  | tail _ move ih => exact ⟨move.inStep ih.1, move.armed ih.1 ih.2⟩

/-- The pending timeout of a session ends it, whatever else is pending. -/
theorem Times.ends (inStep : world.InStep) {session : MatchSession} {job : SessionJob}
    (found : world.matchSessions.items session.matchId = some session)
    (times : world.Times session job) (jobs : AsyncJobQueue SessionJob) :
    job.operation.run perform (world.withSessionJobs jobs) =
      ((), (world.withSessionJobs jobs).ended session .timedOut) := by
  rcases times with ⟨asks, rfl⟩ | ⟨places, rfl⟩
  · exact MatchSessionManager.run_onTimeOutAcceptMatchSession (inStep.withSessionJobs jobs)
      found asks
  · exact MatchSessionManager.run_onTimeOutPlaceMatchSession (inStep.withSessionJobs jobs)
      found places

end World

/-- **A callback that is spent** leaves every registered session with a timeout. -/
theorem World.Armed.callback {world : World} (inStep : world.InStep) (armed : world.Armed) :
    (sessionWorkerRun.run perform world).2.Armed := by
  rw [run_sessionWorkerRun]
  rcases world.sessionJobs.takeJob_cases world.timeMsec with
    idle | ⟨dueTimeMsec, job, rest, queue, taken⟩
  · rw [idle]
    exact armed
  · rw [taken]
    have waiting : ∀ id session, world.matchSessions.items id = some session →
        ¬ world.Times session job → ∃ dueTimeMsec other, (dueTimeMsec, other) ∈ rest ∧
          world.Times session other := by
      intro id session found other
      obtain ⟨due, pending, member, times⟩ := armed id session found
      rw [queue, List.mem_cons] at member
      rcases member with same | later
      · cases same
        exact (other times).elim
      · exact ⟨due, pending, later, times⟩
    by_cases live : ∃ id session, world.matchSessions.items id = some session ∧
        world.Times session job
    · obtain ⟨id, session, found, times⟩ := live
      simp only
      rw [times.ends inStep (inStep.found found) rest]
      intro other rival present
      obtain ⟨away, earlier⟩ := Registry.stored_of_erase _ _ present
      have different : rival ≠ session := by
        rintro rfl
        exact away (inStep.consistent.keyed earlier).symm
      obtain ⟨due, pending, member, rivalTimes⟩ := waiting other rival earlier fun same => by
        have alike : rival.matchId = session.matchId := by
          rcases times with ⟨-, rfl⟩ | ⟨-, rfl⟩ <;> rcases same with ⟨-, same⟩ | ⟨-, same⟩
          · exact (SessionJob.timeOutAccept.inj same).symm
          · cases same
          · cases same
          · exact (SessionJob.timeOutPlace.inj same).symm
        exact away ((inStep.consistent.keyed earlier).symm.trans alike)
      refine ⟨due, pending, member, rivalTimes.congr ?_⟩
      rw [ended_sessionState, Function.update_of_ne different]
      rfl
    · refine World.SessionMoves.armed (job.moves (inStep.withSessionJobs rest))
        (inStep.withSessionJobs rest) fun id session found => ?_
      exact waiting id session found fun times => live ⟨id, session, found, times⟩

theorem SessionsReached.armed {world : World} (reached : SessionsReached world) :
    world.Armed := by
  induction reached with
  | start empty =>
      intro id session found
      rw [empty] at found
      cases found
  | elsewhere _ leaves ih => exact ih.leaves leaves
  | call reached call handed ih => exact (call.moves reached.inStep handed).armed reached.inStep ih
  | callback reached ih => exact World.Armed.callback reached.inStep ih

/-- **No session hangs.** Between session operations and callbacks, every registered
session asks for acceptance with an accept timeout pending for its match id, or is
placed with a place timeout pending. Executing that timeout while the session has
that status, whatever else is pending then, deregisters it with all of its tickets
timed out. -/
theorem session_never_hangs {world : World} (reached : SessionsReached world)
    {matchId : MatchId} {session : MatchSession}
    (found : world.matchSessions.items matchId = some session) :
    ∃ dueTimeMsec job, (dueTimeMsec, job) ∈ world.sessionJobs ∧
      (((world.sessionState session).status = .requiresAcceptance ∧
          job = .timeOutAccept matchId) ∨
        ((world.sessionState session).status = .placing ∧ job = .timeOutPlace matchId)) ∧
      ∀ jobs, (job.operation.run perform (world.withSessionJobs jobs)).2.Ended session
        .timedOut := by
  have inStep := reached.inStep
  obtain rfl := inStep.consistent.keyed found
  obtain ⟨due, job, pending, times⟩ := reached.armed _ _ found
  refine ⟨due, job, pending, times, fun jobs => ?_⟩
  rw [times.ends inStep found jobs]
  exact (inStep.withSessionJobs jobs).ended_ended found .timedOut

/-- Player 3 accepts, and the other session still asks. -/
def halfPlacedWorld : World := ((acceptance 3).run perform pairSessionWorld).2

theorem halfPlacedWorld_reached : SessionsReached halfPlacedWorld :=
  .call pairSessionWorld_reached (.acceptMatchSession { playerKey := 3, isAccept := true }) trivial

theorem session_never_hangs_pair :
    (halfPlacedWorld.sessionState pairSession).status = .requiresAcceptance ∧
      (halfPlacedWorld.sessionState loneSession).status = .placing ∧
      ∀ session ∈ [pairSession, loneSession], ∃ dueTimeMsec job,
        (dueTimeMsec, job) ∈ halfPlacedWorld.sessionJobs ∧
        (((halfPlacedWorld.sessionState session).status = .requiresAcceptance ∧
            job = .timeOutAccept session.matchId) ∨
          ((halfPlacedWorld.sessionState session).status = .placing ∧
            job = .timeOutPlace session.matchId)) ∧
        ∀ jobs, (job.operation.run perform (halfPlacedWorld.withSessionJobs jobs)).2.Ended session
          .timedOut := by
  refine ⟨by decide +kernel, by decide +kernel, fun session inside => ?_⟩
  have found : ∀ session ∈ [pairSession, loneSession],
      halfPlacedWorld.matchSessions.items session.matchId = some session := by decide +kernel
  exact session_never_hangs halfPlacedWorld_reached (found session inside)

end MatchmakingMvp
