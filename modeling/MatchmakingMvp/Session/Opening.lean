import MatchmakingMvp.Session.Draining

/-! # Opening sessions

A creation refuses its tickets and at most deregisters the session of its match id, or it
registers a session that asks its players and schedules its accept timeout, and an acceptance for
each player in turn
(`MatchmakingMvp.MatchSessionManager.opens_createMatchSession`).
-/

namespace MatchmakingMvp

open Foundation

/-! ## The callbacks of a new session -/

/-- The queue once an acceptance is scheduled for each player, one delay after another. -/
def AsyncJobQueue.autoAccepts (timeMsec : Int) :
    Int → List PlayerKey → AsyncJobQueue SessionJob → AsyncJobQueue SessionJob
  | _, [], queue => queue
  | order, playerKey :: rest, queue =>
      autoAccepts timeMsec (order + 1) rest
        (queue.enqueueJobRequest
          (timeMsec + MatchSessionManager.kDemoAutoAcceptDelayMsec * (order + 1))
          (.accept playerKey))

namespace AsyncJobQueue

variable {players : List PlayerKey} {queue : AsyncJobQueue SessionJob}

theorem mem_autoAccepts_of_mem {timeMsec order : Int} {entry : Int × SessionJob}
    (inside : entry ∈ queue) : entry ∈ autoAccepts timeMsec order players queue := by
  induction players generalizing order queue with
  | nil => exact inside
  | cons playerKey rest ih => exact ih (mem_insertMulti.mpr (Or.inr inside))

theorem accept_of_mem_autoAccepts {timeMsec order : Int} {entry : Int × SessionJob}
    (inside : entry ∈ autoAccepts timeMsec order players queue) :
    entry ∈ queue ∨ ∃ playerKey ∈ players, entry.2 = .accept playerKey := by
  induction players generalizing order queue with
  | nil => exact Or.inl inside
  | cons playerKey rest ih =>
      rcases ih inside with earlier | ⟨other, member, same⟩
      · rcases mem_insertMulti.mp earlier with rfl | earlier
        · exact Or.inr ⟨playerKey, List.mem_cons_self, rfl⟩
        · exact Or.inl earlier
      · exact Or.inr ⟨other, List.mem_cons_of_mem _ member, same⟩

/-- Every player's acceptance is due after at most as many delays as there are players. -/
theorem exists_mem_autoAccepts {playerKey : PlayerKey} (member : playerKey ∈ players)
    (timeMsec order : Int) (queue : AsyncJobQueue SessionJob) :
    ∃ dueTimeMsec, (dueTimeMsec, .accept playerKey) ∈ autoAccepts timeMsec order players queue ∧
      dueTimeMsec ≤ timeMsec +
        MatchSessionManager.kDemoAutoAcceptDelayMsec * (order + players.length) := by
  induction players generalizing order queue with
  | nil => cases member
  | cons other rest ih =>
      rcases List.mem_cons.mp member with rfl | member
      · rw [autoAccepts]
        refine ⟨_, mem_autoAccepts_of_mem (mem_insertMulti.mpr (Or.inl rfl)), ?_⟩
        simp only [MatchSessionManager.kDemoAutoAcceptDelayMsec, List.length_cons]
        omega
      · obtain ⟨due, pending, soon⟩ := ih member (order + 1) _
        refine ⟨due, pending, soon.trans ?_⟩
        simp only [List.length_cons]
        push_cast
        rw [add_assoc, add_comm 1 (rest.length : Int)]

end AsyncJobQueue

/-- The queue once the accept timeout and the acceptances of a new session are scheduled. -/
def MatchSession.scheduled (session : MatchSession) (timeMsec : Int)
    (queue : AsyncJobQueue SessionJob) : AsyncJobQueue SessionJob :=
  .autoAccepts timeMsec 0 session.ticketPlayers
    (queue.enqueueJobRequest (timeMsec + MatchSessionManager.kAcceptTimeoutMsec)
      (.timeOutAccept session.matchId))

theorem MatchSession.exists_mem_scheduled {session : MatchSession} {playerKey : PlayerKey}
    (member : playerKey ∈ session.ticketPlayers) (timeMsec : Int)
    (queue : AsyncJobQueue SessionJob) :
    ∃ dueTimeMsec, (dueTimeMsec, .accept playerKey) ∈ session.scheduled timeMsec queue ∧
      dueTimeMsec ≤ timeMsec +
        MatchSessionManager.kDemoAutoAcceptDelayMsec * session.ticketPlayers.length := by
  have scheduled := AsyncJobQueue.exists_mem_autoAccepts member
  rw [MatchSession.scheduled]
  simpa using scheduled timeMsec 0 _

theorem MatchSession.cases_of_mem_scheduled {session : MatchSession} {timeMsec : Int}
    {queue : AsyncJobQueue SessionJob} {entry : Int × SessionJob}
    (inside : entry ∈ session.scheduled timeMsec queue) :
    entry ∈ queue ∨
      entry = (timeMsec + MatchSessionManager.kAcceptTimeoutMsec,
        .timeOutAccept session.matchId) ∨
      ∃ playerKey ∈ session.ticketPlayers, entry.2 = .accept playerKey := by
  rcases AsyncJobQueue.accept_of_mem_autoAccepts inside with earlier | accepts
  · rcases mem_insertMulti.mp earlier with same | earlier
    · exact Or.inr (Or.inl same)
    · exact Or.inl earlier
  · exact Or.inr (Or.inr accepts)

theorem World.precedes_run {Result : Type} (operation : Operation Result) (world : World) :
    world.Precedes (operation.run perform world).2 :=
  operation.run_invariant perform
    (fun step _ precedes => precedes.trans (precedes_perform step _)) (.refl world)

/-- What a creation from the tickets makes of the sessions. -/
inductive World.Opens (world : World) (tickets : TicketSet) : World → Prop
  | refused {after : World} (leaves : world.LeavesSessions after)
      (jobs : after.sessionJobs = world.sessionJobs)
      (advances : ∀ ticket, Advances (world.ticketStatus ticket) (after.ticketStatus ticket)) :
      Opens world tickets after
  | dropped {after : World} {ticket : MatchTicket} (first : tickets.1.head? = some ticket)
      (leaves : (world.dropped ticket.matchTicketId).LeavesSessions after)
      (jobs : after.sessionJobs = world.sessionJobs) : Opens world tickets after
  | opened {after : World} {ticket : MatchTicket} {session : MatchSession}
      (first : tickets.1.head? = some ticket) (named : session.matchId = ticket.matchTicketId)
      (contains : session.tickets = tickets.1) (whole : session.Whole)
      (fresh : world.matchSessions.Fresh MatchSession.matchId MatchSession.ticketPlayers session)
      (same : ((world.asked session).withSessionJobs
        (session.scheduled world.timeMsec world.sessionJobs)).SameSessions after) :
      Opens world tickets after

theorem World.SameSessions.dropped {world middle : World} (same : world.SameSessions middle)
    (matchId : MatchId) : (world.dropped matchId).SameSessions (middle.dropped matchId) := by
  obtain ⟨matchSessions, sessionState, ticketStatus, sessionJobs⟩ := same
  exact ⟨by simp only [dropped_matchSessions, matchSessions], sessionState, ticketStatus,
    sessionJobs⟩

theorem World.SameSessions.asked {world middle : World} (same : world.SameSessions middle)
    (session : MatchSession) (jobs : AsyncJobQueue SessionJob) :
    ((world.asked session).withSessionJobs jobs).SameSessions
      ((middle.asked session).withSessionJobs jobs) := by
  obtain ⟨matchSessions, sessionState, ticketStatus, -⟩ := same
  cases world
  cases middle
  subst matchSessions sessionState ticketStatus
  exact ⟨rfl, rfl, rfl, rfl⟩

/-- What precedes a creation and concerns neither sessions nor the clock makes no difference. -/
theorem World.Opens.after_same {world middle after : World} {tickets : TicketSet}
    (same : world.SameSessions middle) (now : middle.timeMsec = world.timeMsec)
    (opens : middle.Opens tickets after) : world.Opens tickets after := by
  cases opens with
  | refused leaves jobs advances =>
      refine .refused (same.leaves.trans leaves) (jobs.trans same.sessionJobs) fun ticket => ?_
      rw [← same.ticketStatus]
      exact advances ticket
  | dropped first leaves jobs =>
      exact .dropped first ((same.dropped _).leaves.trans leaves) (jobs.trans same.sessionJobs)
  | @opened _ session first named contains whole fresh opened =>
      refine .opened first named contains whole (same.matchSessions ▸ fresh) ?_
      rw [now, same.sessionJobs] at opened
      exact (same.asked session _).trans opened

namespace MatchSessionManager

open World

theorem run_scheduleAutoAccepts (order : Int) (players : List PlayerKey) (world : World) :
    ((scheduleAutoAccepts order players).run perform world).2 =
      world.withSessionJobs (.autoAccepts world.timeMsec order players world.sessionJobs) := by
  induction players generalizing order world with
  | nil => rfl
  | cons playerKey rest ih =>
      simp only [scheduleAutoAccepts, Program.run_bind, run_timeMsec, run_doAsyncJob]
      rw [ih]
      rfl

theorem sameSessions_expireAll (tickets : List MatchTicket) (world : World) :
    world.SameSessions ((forAll tickets expireMatchmakingOwnership).run perform world).2 ∧
      ((forAll tickets expireMatchmakingOwnership).run perform world).2.timeMsec =
        world.timeMsec := by
  have everywhere : (forAll tickets expireMatchmakingOwnership).Everywhere
      fun step => ∃ queue id, step = .eraseMatchTicket queue id :=
    everywhere_forAll fun ticket _ => Program.Everywhere.bind
      ((Program.everywhere_atomically _ _).mpr ⟨_, _, rfl⟩) fun _ => trivial
  let alike (current : World) : Prop :=
    world.SameSessions current ∧ current.timeMsec = world.timeMsec
  apply everywhere.run_invariant perform _ (show alike world from ⟨⟨rfl, rfl, rfl, rfl⟩, rfl⟩)
  rintro step current ⟨queue, id, rfl⟩ ⟨same, now⟩
  exact ⟨same.trans ⟨rfl, rfl, rfl, rfl⟩, now⟩

theorem sessionJobs_notifyAll (tickets : List MatchTicket) (world : World) :
    ((forAll tickets notifyMatchmakingFailure).run perform world).2.sessionJobs =
      world.sessionJobs := by
  have everywhere : (forAll tickets notifyMatchmakingFailure).Everywhere
      fun step => (∃ ticket, step = .changeTicketStatus ticket .failed) ∨
        ∃ queue id, step = .eraseMatchTicket queue id :=
    everywhere_forAll fun ticket _ => everywhere_notify (Or.inl ⟨ticket, rfl⟩)
      fun queue id => Or.inr ⟨queue, id, rfl⟩
  let same (current : World) : Prop := current.sessionJobs = world.sessionJobs
  apply everywhere.run_invariant perform _ (show same world from rfl)
  rintro step current (⟨ticket, rfl⟩ | ⟨queue, id, rfl⟩) unchanged <;> exact unchanged

/-- Failure notices to tickets outside of the registered sessions. -/
theorem refused_notifyAll {tickets : TicketSet} {world : World}
    (outside : ∀ id session, world.matchSessions.items id = some session →
      ∀ ticket ∈ session.tickets, ticket ∉ tickets.1) :
    world.Opens tickets ((forAll tickets.1 notifyMatchmakingFailure).run perform world).2 :=
  .refused (leavesSessions_notifyAll outside) (sessionJobs_notifyAll _ _)
    (precedes_run _ world).advances

/-- A made session is registered and asks its players, or whatever is registered under its id
is deregistered and its tickets fail. -/
private theorem opens_register {tickets : TicketSet} {ticket : MatchTicket}
    {session : MatchSession} {world : World}
    (first : tickets.1.head? = some ticket) (named : session.matchId = ticket.matchTicketId)
    (contains : session.tickets = tickets.1) (whole : session.Whole)
    (searching : ∀ ticket ∈ session.tickets, world.ticketStatus ticket = .searching)
    (outside : ∀ id rival, world.matchSessions.items id = some rival →
      ∀ ticket ∈ rival.tickets, ticket ∉ tickets.1) :
    world.Opens tickets
      ((do
        if (← insertMatchSession session) = false then
          let _ ← eraseMatchSession session.matchId
          forAll tickets.1 notifyMatchmakingFailure
          return ()
        if (← changeStatus session .requiresAcceptance) = false then
          onFailedMatchSession session.matchId
          return ()
        forAll tickets.1 expireMatchmakingOwnership
        let now ← timeMsec
        doAsyncJob (now + kAcceptTimeoutMsec) (.timeOutAccept session.matchId)
        scheduleAutoAccepts 0 session.ticketPlayers : Operation Unit).run perform
        (world.opened session)).2 := by
  by_cases fresh : world.matchSessions.Fresh MatchSession.matchId MatchSession.ticketPlayers session
  · have inserted : world.matchSessions.insertMatchSession session =
        (true, world.matchSessions.extend MatchSession.matchId MatchSession.ticketPlayers
          session) := Registry.insert_of_fresh _ _ fresh
    have asked : (changeStatus session .requiresAcceptance).run perform
        ((world.opened session).withMatchSessions (world.matchSessions.extend
          MatchSession.matchId MatchSession.ticketPlayers session)) =
        (true, world.asked session) := by
      rw [World.asked, inserted]
      exact run_changeStatus_of_changeable (whole.changeable rfl (by simp) searching)
    simp only [Program.run_bind, run_insertMatchSession, World.opened_matchSessions, inserted,
      reduceCtorEq, if_false, asked, run_timeMsec, run_doAsyncJob, run_scheduleAutoAccepts]
    obtain ⟨expired, now⟩ := sameSessions_expireAll tickets.1 (world.asked session)
    refine .opened first named contains whole fresh ⟨expired.matchSessions, expired.sessionState,
      expired.ticketStatus, ?_⟩
    rw [withSessionJobs_sessionJobs, withSessionJobs_sessionJobs, MatchSession.scheduled,
      expired.sessionJobs, now]
    rfl
  · have rejected : world.matchSessions.insertMatchSession session =
        (false, world.matchSessions) := Registry.insert_of_not_fresh _ _ fresh
    simp only [Program.run_bind, run_insertMatchSession, World.opened_matchSessions, rejected,
      if_true, run_eraseMatchSession, World.withMatchSessions_matchSessions, Program.run_pure]
    have stored : ∀ {id rival}, (world.dropped session.matchId).matchSessions.items id =
        some rival → world.matchSessions.items id = some rival := fun found =>
      (Registry.stored_of_erase _ _ found).2
    have opened : (world.dropped session.matchId).LeavesSessions
        ((world.opened session).dropped session.matchId) := by
      refine ⟨rfl, fun id rival found => Function.update_of_ne ?_ .., fun _ _ _ _ _ => rfl,
        fun _ => id⟩
      rintro rfl
      obtain ⟨own, inside, -⟩ := whole.named
      exact outside id rival (stored found) own inside (contains ▸ inside)
    have failed : ((world.opened session).dropped session.matchId).LeavesSessions _ :=
      leavesSessions_notifyAll fun id rival found => outside id rival (stored found)
    have jobs := sessionJobs_notifyAll tickets.1
      ((world.opened session).dropped session.matchId)
    exact .dropped first (named ▸ opened.trans failed) jobs

/-- **What a creation does.** -/
theorem opens_createMatchSession {key : MatchmakingGroupKey} {tickets : TicketSet} {world : World}
    (inStep : world.InStep)
    (searching : ∀ ticket ∈ tickets.1, world.ticketStatus ticket = .searching) :
    world.Opens tickets ((createMatchSession key tickets).run perform world).2 := by
  have idle : world.Opens tickets world :=
    .refused (.refl world) rfl fun _ => Relation.ReflTransGen.refl
  simp only [createMatchSession, Program.run_bind, Program.run_atomically]
  cases first : tickets.1.head? with
  | none => exact idle
  | some ticket =>
      have outside : ∀ id session, world.matchSessions.items id = some session →
          ∀ ticket ∈ session.tickets, ticket ∉ tickets.1 := by
        intro id session found ticket inside own
        have seated := inStep.seated id session found
        rw [← inStep.agrees id session found ticket inside, searching ticket own] at seated
        cases seated
      have same : world.SameSessions (perform (.nextIntegrationWorldNo key.1) world) ∧
          (perform (.nextIntegrationWorldNo key.1) world).timeMsec = world.timeMsec := by
        simp only [perform]
        split_ifs <;> exact ⟨⟨rfl, rfl, rfl, rfl⟩, rfl⟩
      simp only [Program.run_bind, Program.run_atomically]
      rw [show perform (.enterCreateMatchSession key tickets) world = world from rfl]
      apply World.Opens.after_same same.1 same.2
      rw [← same.1.matchSessions] at outside
      rw [← same.1.ticketStatus] at searching
      generalize perform (.nextIntegrationWorldNo key.1) world = middle at *
      cases world.getNextIntegrationWorldNo key.1 with
      | none => exact .refused (.refl middle) rfl fun _ => Relation.ReflTransGen.refl
      | some integrationWorldNo =>
          by_cases missing : integrationWorldNo = -1
          · simp only [missing, if_true, Program.run_bind, Program.run_pure]
            exact refused_notifyAll outside
          · simp only [missing, if_false, Program.run_bind, Program.run_atomically]
            have contains := middle.newMatchSession_tickets key.2 integrationWorldNo
              ticket.matchTicketId tickets
            have whole : (middle.newMatchSession key.2 integrationWorldNo ticket.matchTicketId
                tickets).Whole :=
              ⟨by rw [contains]; rfl, ticket, by rw [contains]; exact List.mem_of_mem_head? first,
                rfl⟩
            have named : (middle.newMatchSession key.2 integrationWorldNo ticket.matchTicketId
                tickets).matchId = ticket.matchTicketId := rfl
            generalize middle.newMatchSession key.2 integrationWorldNo ticket.matchTicketId
              tickets = session at contains whole named ⊢
            rw [show perform (.forceSessionStatus session .searching)
              (perform (.newMatchSession key.2 integrationWorldNo ticket.matchTicketId tickets)
                middle) = middle.opened session from rfl]
            rw [← named]
            exact opens_register first named contains whole
              (by rw [contains]; exact searching) outside

end MatchSessionManager

end MatchmakingMvp
