import MatchmakingMvp.Session.Moves

/-! # Complete runs of session operations

In a state with its sessions in step, every public operation of the session
manager and every due callback is a sequence of moves
(`MatchmakingMvp.SessionCall.moves`).
-/

namespace MatchmakingMvp

open Foundation

namespace MatchSessionManager

variable {world : World} {session : MatchSession} {status : MatchTicketStatus}

@[simp] theorem run_getStatus (session : MatchSession) (world : World) :
    (getStatus session).run perform world = ((world.sessionState session).status, world) := (rfl)

@[simp] theorem run_isAllAcceptPlayerSession (session : MatchSession) (world : World) :
    (isAllAcceptPlayerSession session).run perform world =
      ((world.sessionState session).isAllAcceptPlayerSession, world) := (rfl)

@[simp] theorem run_acceptPlayerSession (session : MatchSession)
    (acceptInfo : PlayerMatchAcceptInfo) (world : World) :
    (acceptPlayerSession session acceptInfo).run perform world =
      (((world.sessionState session).acceptPlayerSession acceptInfo).1,
        world.withSessionState session
          ((world.sessionState session).acceptPlayerSession acceptInfo).2) := (rfl)

@[simp] theorem run_findMatchSessionByPlayerKey (playerKey : PlayerKey) (world : World) :
    (findMatchSessionByPlayerKey playerKey).run perform world =
      ((world.matchSessions.owner playerKey).bind world.matchSessions.items, world) := by
  rw [findMatchSessionByPlayerKey, Program.run_bind, run_readWorld]
  cases world.matchSessions.owner playerKey <;> rfl

theorem run_changeStatus_of_changeable
    (changeable : session.Changeable status (world.sessionState session) world.ticketStatus) :
    (changeStatus session status).run perform world = (true, world.moved session status) := by
  obtain ⟨accepted, effect⟩ := perform_changeSessionStatus changeable
  exact Prod.ext accepted effect

theorem run_changeStatus_of_stuck
    (stuck : ¬ session.Changeable status (world.sessionState session) world.ticketStatus) :
    (changeStatus session status).run perform world = (false, world) := by
  obtain ⟨refused, effect⟩ := perform_changeSessionStatus_of_stuck stuck
  exact Prod.ext refused effect

theorem run_onFailedMatchSession_of_absent {matchId : MatchId}
    (absent : world.matchSessions.items matchId = none) :
    (onFailedMatchSession matchId).run perform world = ((), world) := by
  rw [onFailedMatchSession, Program.run_bind, run_findMatchSession, absent]
  rfl

section InStep

variable (inStep : world.InStep)
  (found : world.matchSessions.items session.matchId = some session)

include inStep found

private theorem canChange_failed :
    canChangeStatus (world.sessionState session).status .failed = true := by
  have seated := inStep.seated _ _ found
  revert seated
  cases (world.sessionState session).status <;> decide

/-- **A failure** ends a registered session. -/
theorem run_onFailedMatchSession :
    (onFailedMatchSession session.matchId).run perform world =
      ((), world.ended session .failed) := by
  simp only [onFailedMatchSession, Program.run_bind, run_findMatchSession, found,
    run_changeStatus_of_changeable
      (inStep.changeable .failed found (canChange_failed inStep found)),
    reduceCtorEq, if_false, run_eraseMatchSession, Program.run_pure]
  rfl

theorem run_onTimeOutAcceptMatchSession
    (asks : (world.sessionState session).status = .requiresAcceptance) :
    (onTimeOutAcceptMatchSession session.matchId).run perform world =
      ((), world.ended session .timedOut) := by
  have changeable := inStep.changeable .timedOut found (by rw [asks]; rfl)
  simp only [onTimeOutAcceptMatchSession, Program.run_bind, run_findMatchSession, found,
    run_getStatus, asks, run_changeStatus_of_changeable changeable, ne_eq, not_true_eq_false,
    reduceCtorEq, if_false, run_eraseMatchSession, Program.run_pure]
  rfl

theorem run_onTimeOutPlaceMatchSession
    (places : (world.sessionState session).status = .placing) :
    (onTimeOutPlaceMatchSession session.matchId).run perform world =
      ((), world.ended session .timedOut) := by
  have changeable := inStep.changeable .timedOut found (by rw [places]; rfl)
  simp only [onTimeOutPlaceMatchSession, Program.run_bind, run_findMatchSession, found,
    run_getStatus, places, run_changeStatus_of_changeable changeable, ne_eq, not_true_eq_false,
    reduceCtorEq, if_false, run_eraseMatchSession, Program.run_pure]
  rfl

theorem run_placeMatchSession
    (asks : (world.sessionState session).status = .requiresAcceptance) :
    (placeMatchSession session.matchId).run perform world = ((), world.placed session) := by
  have changeable := inStep.changeable .placing found (by rw [asks]; rfl)
  simp only [placeMatchSession, Program.run_bind, run_findMatchSession, found, run_getStatus,
    asks, run_changeStatus_of_changeable changeable, reduceCtorEq, if_false, run_timeMsec,
    run_doAsyncJob, run_readWorld]
  simp only [World.placed, World.withSessionJobs, World.zoneInfo, World.moved,
    MatchSessionState.players, Function.update_self]

end InStep

/-! ## Responses -/

/-- The response is the first of a player whose session waits for it. -/
structure Counts (world : World) (acceptInfo : PlayerMatchAcceptInfo) (session : MatchSession) :
    Prop where
  member : (world.matchSessions.owner acceptInfo.playerKey).bind world.matchSessions.items =
    some session
  pending : (world.sessionState session).isAllAcceptPlayerSession = false
  asks : (world.sessionState session).status = .requiresAcceptance
  first : ((world.sessionState session).acceptPlayerSession acceptInfo).1 = true

/-- The state after a response was recorded. -/
def recorded (world : World) (acceptInfo : PlayerMatchAcceptInfo) (session : MatchSession) :
    World :=
  world.withSessionState session ((world.sessionState session).acceptPlayerSession acceptInfo).2

/-- The state after a player was penalized for a decline. -/
def penalized (world : World) (playerKey : PlayerKey) : World :=
  { world with
    dodgePenalties :=
      Function.update world.dodgePenalties playerKey (some (world.timeMsec + 15000))
    penaltyJobs := world.penaltyJobs.enqueueJobRequest (world.timeMsec + 15000) playerKey }

variable {acceptInfo : PlayerMatchAcceptInfo}

theorem run_acceptMatchSession_of_ignored
    (ignored : ∀ session, ¬ Counts world acceptInfo session) :
    (acceptMatchSession acceptInfo).run perform world = ((), world) := by
  simp only [acceptMatchSession, Program.run_bind, run_findMatchSessionByPlayerKey]
  cases member : (world.matchSessions.owner acceptInfo.playerKey).bind
      world.matchSessions.items with
  | none => rfl
  | some session =>
      simp only [Program.run_bind, run_isAllAcceptPlayerSession]
      cases pending : (world.sessionState session).isAllAcceptPlayerSession with
      | true => rfl
      | false =>
          simp only [Program.run_bind, run_getStatus, Program.run_ite, Bool.false_eq_true,
            if_false]
          by_cases asks : (world.sessionState session).status = .requiresAcceptance
          · have refused : ((world.sessionState session).acceptPlayerSession acceptInfo).1 =
                false := by
              by_contra first
              exact ignored session ⟨member, pending, asks, by simpa using first⟩
            have unchanged : ((world.sessionState session).acceptPlayerSession acceptInfo).2 =
                world.sessionState session :=
              MatchSessionState.acceptPlayerSession_of_refused refused
            simp only [asks, ne_eq, not_true_eq_false, if_false, run_acceptPlayerSession, refused,
              if_true, unchanged, Program.run_pure, World.withSessionState,
              Function.update_eq_self]
          · simp only [asks, ne_eq, not_false_eq_true, if_true, Program.run_pure]

/-- A first response is recorded before anything else happens. -/
theorem run_acceptMatchSession (counts : Counts world acceptInfo session) :
    (acceptMatchSession acceptInfo).run perform world =
      if acceptInfo.isAccept = false then
        (onFailedMatchSession session.matchId).run perform
          (penalized (recorded world acceptInfo session) acceptInfo.playerKey)
      else if ((recorded world acceptInfo session).sessionState session).isAllAcceptPlayerSession
      then
        (placeMatchSession session.matchId).run perform (recorded world acceptInfo session)
      else ((), recorded world acceptInfo session) := by
  simp only [acceptMatchSession, Program.run_bind, run_findMatchSessionByPlayerKey, counts.member,
    run_isAllAcceptPlayerSession, counts.pending, run_getStatus, counts.asks, ne_eq,
    not_true_eq_false, Bool.false_eq_true, if_false, run_acceptPlayerSession, counts.first,
    reduceCtorEq, Program.run_ite, run_timeMsec, MatchPenaltyManager.addDodgePenalty,
    Program.run_atomically, Program.run_pure]
  rfl

end MatchSessionManager

/-! ## Frames -/

section Frames

variable {world : World}

theorem IntegrationZoneInstanceManager.leavesSessions_insert
    (info : Option IntegrationZoneInstanceInfo) (world : World) :
    world.LeavesSessions ((insert info).run perform world).2 := by
  cases info with
  | none => exact .refl world
  | some info =>
      simp only [insert, Program.run_bind, Program.run_atomically, Program.run_ite]
      split_ifs <;> exact .of_eq rfl rfl rfl rfl

theorem IntegrationZoneInstanceManager.leavesSessions_erase (key : IntegrationZoneInstanceKey)
    (world : World) : world.LeavesSessions ((erase key).run perform world).2 :=
  .of_eq rfl rfl rfl rfl

/-- Failure notices to tickets outside of the registered sessions. -/
theorem leavesSessions_notifyAll {tickets : List MatchTicket}
    (outside : ∀ id session, world.matchSessions.items id = some session →
      ∀ ticket ∈ session.tickets, ticket ∉ tickets) :
    world.LeavesSessions
      ((forAll tickets MatchSessionManager.notifyMatchmakingFailure).run perform world).2 := by
  have everywhere : (forAll tickets MatchSessionManager.notifyMatchmakingFailure).Everywhere
      fun step => (∃ ticket ∈ tickets, step = .changeTicketStatus ticket .failed) ∨
        ∃ queue id, step = .eraseMatchTicket queue id :=
    everywhere_forAll fun ticket inside => MatchSessionManager.everywhere_notify
      (Or.inl ⟨ticket, inside, rfl⟩) (fun queue id => Or.inr ⟨queue, id, rfl⟩)
  refine everywhere.run_invariant perform ?_ (.refl world)
  rintro step current (⟨ticket, inside, rfl⟩ | ⟨queue, id, rfl⟩) leaves
  · refine leaves.trans ⟨rfl, fun _ _ _ => rfl, fun id session found other member => ?_,
      fun _ => id⟩
    rw [leaves.matchSessions] at found
    refine MatchTicket.changeStatus_of_ne ?_
    rintro rfl
    exact outside id session found other member inside
  · exact leaves.trans (.of_eq rfl rfl rfl rfl)

theorem leavesSessions_expireAll (tickets : List MatchTicket) (world : World) :
    world.LeavesSessions
      ((forAll tickets MatchSessionManager.expireMatchmakingOwnership).run perform world).2 := by
  have everywhere : (forAll tickets MatchSessionManager.expireMatchmakingOwnership).Everywhere
      fun step => ∃ queue id, step = .eraseMatchTicket queue id :=
    everywhere_forAll fun ticket _ => Program.Everywhere.bind
      ((Program.everywhere_atomically _ _).mpr ⟨_, _, rfl⟩) fun _ => trivial
  refine everywhere.run_invariant perform ?_ (.refl world)
  rintro step current ⟨queue, id, rfl⟩ leaves
  exact leaves.trans (.of_eq rfl rfl rfl rfl)

theorem leavesSessions_scheduleAutoAccepts (order : Int) (players : List PlayerKey)
    (world : World) :
    world.LeavesSessions
      ((MatchSessionManager.scheduleAutoAccepts order players).run perform world).2 := by
  induction players generalizing order world with
  | nil => exact .refl world
  | cons playerKey rest ih =>
      refine World.LeavesSessions.trans ?_ (ih _ _)
      exact ⟨rfl, fun _ _ _ => rfl, fun _ _ _ _ _ => rfl,
        fun _ inside => mem_insertMulti.mpr (Or.inr inside)⟩

end Frames

/-! ## The operations -/

namespace MatchSessionManager

variable {world : World} (inStep : world.InStep)

include inStep

theorem moves_onFailedMatchSession (matchId : MatchId) :
    world.SessionMoves ((onFailedMatchSession matchId).run perform world).2 := by
  cases found : world.matchSessions.items matchId with
  | none => rw [run_onFailedMatchSession_of_absent found]
  | some session =>
      obtain rfl := inStep.consistent.keyed found
      rw [run_onFailedMatchSession inStep found]
      exact .single (.close found (canChange_failed inStep found) rfl)

theorem moves_onTimeOutAcceptMatchSession (matchId : MatchId) :
    world.SessionMoves ((onTimeOutAcceptMatchSession matchId).run perform world).2 := by
  cases found : world.matchSessions.items matchId with
  | none =>
      simp only [onTimeOutAcceptMatchSession, Program.run_bind, run_findMatchSession, found,
        Program.run_pure, Relation.ReflTransGen.refl]
  | some session =>
      obtain rfl := inStep.consistent.keyed found
      by_cases asks : (world.sessionState session).status = .requiresAcceptance
      · rw [run_onTimeOutAcceptMatchSession inStep found asks]
        exact .single (.close found (by rw [asks]; rfl) rfl)
      · simp only [onTimeOutAcceptMatchSession, Program.run_bind, run_findMatchSession, found,
          run_getStatus, asks, ne_eq, not_false_eq_true, if_true, Program.run_pure,
          Relation.ReflTransGen.refl]

theorem moves_onTimeOutPlaceMatchSession (matchId : MatchId) :
    world.SessionMoves ((onTimeOutPlaceMatchSession matchId).run perform world).2 := by
  cases found : world.matchSessions.items matchId with
  | none =>
      simp only [onTimeOutPlaceMatchSession, Program.run_bind, run_findMatchSession, found,
        Program.run_pure, Relation.ReflTransGen.refl]
  | some session =>
      obtain rfl := inStep.consistent.keyed found
      by_cases places : (world.sessionState session).status = .placing
      · rw [run_onTimeOutPlaceMatchSession inStep found places]
        exact .single (.close found (by rw [places]; rfl) rfl)
      · simp only [onTimeOutPlaceMatchSession, Program.run_bind, run_findMatchSession, found,
          run_getStatus, places, ne_eq, not_false_eq_true, if_true, Program.run_pure,
          Relation.ReflTransGen.refl]

theorem moves_placeMatchSession (matchId : MatchId) :
    world.SessionMoves ((placeMatchSession matchId).run perform world).2 := by
  cases found : world.matchSessions.items matchId with
  | none =>
      simp only [placeMatchSession, Program.run_bind, run_findMatchSession, found,
        Program.run_pure, Relation.ReflTransGen.refl]
  | some session =>
      obtain rfl := inStep.consistent.keyed found
      by_cases places : (world.sessionState session).status = .placing
      · simp only [placeMatchSession, Program.run_bind, run_findMatchSession, found,
          run_getStatus, places, if_true, Program.run_pure, Relation.ReflTransGen.refl]
      · have asks := (MatchTicketStatus.seated_iff.mp
          (inStep.seated _ _ found)).resolve_right places
        rw [run_placeMatchSession inStep found asks]
        exact .single (.place found asks)

theorem Counts.found {acceptInfo : PlayerMatchAcceptInfo} {session : MatchSession}
    (counts : Counts world acceptInfo session) :
    world.matchSessions.items session.matchId = some session := by
  obtain ⟨id, -, found⟩ := Option.bind_eq_some_iff.mp counts.member
  exact inStep.found found

theorem moves_acceptMatchSession (acceptInfo : PlayerMatchAcceptInfo) :
    world.SessionMoves ((acceptMatchSession acceptInfo).run perform world).2 := by
  by_cases ignored : ∀ session, ¬ Counts world acceptInfo session
  · rw [run_acceptMatchSession_of_ignored ignored]
  · obtain ⟨session, counts⟩ := not_forall_not.mp ignored
    have found := counts.found inStep
    have record : world.SessionMove (recorded world acceptInfo session) :=
      .record found (MatchSessionState.acceptPlayerSession_status _ _)
    have after : (recorded world acceptInfo session).InStep := record.inStep inStep
    rw [run_acceptMatchSession counts]
    split_ifs
    · have leaves : (recorded world acceptInfo session).LeavesSessions
          (penalized (recorded world acceptInfo session) acceptInfo.playerKey) :=
        .of_eq rfl rfl rfl rfl
      exact (Relation.ReflTransGen.single record).tail (.stay leaves) |>.trans
        (moves_onFailedMatchSession (after.leaves leaves) _)
    · exact (Relation.ReflTransGen.single record).trans (moves_placeMatchSession after _)
    · exact .single record

theorem moves_onCompleteMatchSession (info : IntegrationZoneInstanceInfo) (success : Bool) :
    world.SessionMoves ((onCompleteMatchSession info success).run perform world).2 := by
  rw [onCompleteMatchSession]
  cases success with
  | false =>
      simp only [if_true, Program.run_bind, Program.run_pure]
      exact moves_onFailedMatchSession inStep _
  | true =>
      simp only [reduceCtorEq, if_false, Program.run_bind, run_findMatchSession]
      cases found : world.matchSessions.items info.matchId with
      | none => exact moves_onFailedMatchSession inStep _
      | some session =>
          have same := inStep.consistent.keyed found
          have leaves := IntegrationZoneInstanceManager.leavesSessions_insert (some info) world
          have after := inStep.leaves leaves
          have present : ((IntegrationZoneInstanceManager.insert (some info)).run perform
              world).2.matchSessions.items session.matchId = some session := by
            rw [leaves.matchSessions, same, found]
          simp only [Program.run_bind]
          generalize (IntegrationZoneInstanceManager.insert (some info)).run perform world =
            inserted at leaves after present ⊢
          obtain ⟨zone, world'⟩ := inserted
          refine Relation.ReflTransGen.head (.stay leaves) ?_
          cases zone with
          | none => exact moves_onFailedMatchSession after _
          | some zone =>
              simp only [Program.run_bind]
              by_cases changeable : session.Changeable .completed (world'.sessionState session)
                  world'.ticketStatus
              · simp only [run_changeStatus_of_changeable changeable, reduceCtorEq, if_false,
                  Program.run_bind, run_eraseMatchSession, Program.run_pure, ← same]
                exact .single (.close present changeable.1 rfl)
              · simp only [run_changeStatus_of_stuck changeable, if_true, Program.run_bind,
                  Program.run_pure]
                have erased := IntegrationZoneInstanceManager.leavesSessions_erase
                  zone.integrationZoneInstanceKey world'
                exact Relation.ReflTransGen.head (.stay erased)
                  (moves_onFailedMatchSession (after.leaves erased) _)

omit inStep in
/-- The end of a creation: a made session is registered and asks its players, or whatever
is registered under its id is deregistered and its tickets fail. -/
private theorem moves_register {session : MatchSession} (whole : session.Whole)
    (searching : ∀ ticket ∈ session.tickets, world.ticketStatus ticket = .searching)
    (outside : ∀ id rival, world.matchSessions.items id = some rival →
      ∀ ticket ∈ rival.tickets, ticket ∉ session.tickets) :
    world.SessionMoves
      ((do
        if (← insertMatchSession session) = false then
          let _ ← eraseMatchSession session.matchId
          forAll session.tickets notifyMatchmakingFailure
          return ()
        if (← changeStatus session .requiresAcceptance) = false then
          onFailedMatchSession session.matchId
          return ()
        forAll session.tickets expireMatchmakingOwnership
        let now ← timeMsec
        doAsyncJob (now + kAcceptTimeoutMsec) (.timeOutAccept session.matchId)
        scheduleAutoAccepts 0 session.ticketPlayers : Operation Unit).run perform
        (world.opened session)).2 := by
  have unregistered : ∀ id rival, world.matchSessions.items id = some rival → rival ≠ session := by
    rintro id rival found rfl
    obtain ⟨ticket, inside, -⟩ := whole.named
    exact outside id rival found ticket inside inside
  by_cases fresh : world.matchSessions.Fresh MatchSession.matchId MatchSession.ticketPlayers session
  · have inserted : world.matchSessions.insertMatchSession session =
        (true, world.matchSessions.extend MatchSession.matchId MatchSession.ticketPlayers
          session) := Registry.insert_of_fresh _ _ fresh
    have changeable : session.Changeable .requiresAcceptance
        ((world.opened session).sessionState session) world.ticketStatus :=
      whole.changeable rfl (by simp) searching
    have asked : (changeStatus session .requiresAcceptance).run perform
        ((world.opened session).withMatchSessions (world.matchSessions.extend
          MatchSession.matchId MatchSession.ticketPlayers session)) =
        (true, world.asked session) := by
      rw [World.asked, inserted]
      exact run_changeStatus_of_changeable changeable
    simp only [Program.run_bind, run_insertMatchSession, World.opened_matchSessions, inserted,
      reduceCtorEq, if_false, asked, run_timeMsec, run_doAsyncJob]
    have expired := leavesSessions_expireAll session.tickets (world.asked session)
    generalize ((forAll session.tickets expireMatchmakingOwnership).run perform
      (world.asked session)).2 = world' at expired ⊢
    have scheduled := leavesSessions_scheduleAutoAccepts 0 session.ticketPlayers
      (world'.withSessionJobs (world'.sessionJobs.enqueueJobRequest
        (world'.timeMsec + kAcceptTimeoutMsec) (.timeOutAccept session.matchId)))
    exact .single (.open whole searching fresh ((expired.enqueue _ _).trans scheduled))
  · have rejected : world.matchSessions.insertMatchSession session =
        (false, world.matchSessions) := Registry.insert_of_not_fresh _ _ fresh
    simp only [Program.run_bind, run_insertMatchSession, World.opened_matchSessions, rejected,
      if_true, run_eraseMatchSession, World.withMatchSessions_matchSessions, Program.run_pure]
    have stored : ∀ {id rival}, (world.dropped session.matchId).matchSessions.items id =
        some rival → world.matchSessions.items id = some rival := fun found =>
      (Registry.stored_of_erase _ _ found).2
    have opened : (world.dropped session.matchId).LeavesSessions
        ((world.opened session).dropped session.matchId) :=
      ⟨rfl, fun id rival found => Function.update_of_ne (unregistered id rival (stored found)) ..,
        fun _ _ _ _ _ => rfl, fun _ => id⟩
    have failed : ((world.opened session).dropped session.matchId).LeavesSessions _ :=
      leavesSessions_notifyAll fun id rival found => outside id rival (stored found)
    exact .single (.drop session.matchId (opened.trans failed))

/-- Creation from tickets in search. -/
theorem moves_createMatchSession {key : MatchmakingGroupKey} {tickets : TicketSet}
    (searching : ∀ ticket ∈ tickets.1, world.ticketStatus ticket = .searching) :
    world.SessionMoves ((createMatchSession key tickets).run perform world).2 := by
  simp only [createMatchSession, Program.run_bind, Program.run_atomically]
  cases first : tickets.1.head? with
  | none => exact .refl
  | some ticket =>
      have leaves : world.LeavesSessions (perform (.nextIntegrationWorldNo key.1) world) := by
        simp only [perform]
        split_ifs
        · exact .refl world
        · exact .of_eq rfl rfl rfl rfl
      have same : (perform (.nextIntegrationWorldNo key.1) world).ticketStatus =
          world.ticketStatus := by
        simp only [perform]
        split_ifs <;> rfl
      simp only [Program.run_bind, Program.run_atomically]
      rw [show perform (.enterCreateMatchSession key tickets) world = world from rfl]
      refine Relation.ReflTransGen.head (.stay leaves) ?_
      have after := inStep.leaves leaves
      rw [← same] at searching
      generalize perform (.nextIntegrationWorldNo key.1) world = world' at *
      have outside : ∀ id session, world'.matchSessions.items id = some session →
          ∀ ticket ∈ session.tickets, ticket ∉ tickets.1 := by
        intro id session found ticket inside own
        have seated := after.seated id session found
        rw [← after.agrees id session found ticket inside, searching ticket own] at seated
        cases seated
      cases world.getNextIntegrationWorldNo key.1 with
      | none => exact .refl
      | some integrationWorldNo =>
          by_cases missing : integrationWorldNo = -1
          · simp only [missing, if_true, Program.run_bind, Program.run_pure]
            exact .single (.stay (leavesSessions_notifyAll outside))
          · simp only [missing, if_false, Program.run_bind, Program.run_atomically]
            have contains := world'.newMatchSession_tickets key.2 integrationWorldNo
              ticket.matchTicketId tickets
            have whole : (world'.newMatchSession key.2 integrationWorldNo ticket.matchTicketId
                tickets).Whole :=
              ⟨by rw [contains]; rfl, ticket, by rw [contains]; exact List.mem_of_mem_head? first,
                rfl⟩
            have named : (world'.newMatchSession key.2 integrationWorldNo ticket.matchTicketId
                tickets).matchId = ticket.matchTicketId := rfl
            generalize world'.newMatchSession key.2 integrationWorldNo ticket.matchTicketId
              tickets = session at contains whole named ⊢
            rw [show perform (.forceSessionStatus session .searching)
              (perform (.newMatchSession key.2 integrationWorldNo ticket.matchTicketId tickets)
                world') = world'.opened session from rfl]
            rw [← contains] at searching outside ⊢
            rw [← named]
            exact moves_register whole searching outside

end MatchSessionManager

/-- The callback of a session job. -/
def SessionJob.operation : SessionJob → Operation Unit
  | .timeOutAccept matchId => MatchSessionManager.onTimeOutAcceptMatchSession matchId
  | .accept playerKey =>
      MatchSessionManager.acceptMatchSession { playerKey := playerKey, isAccept := true }
  | .timeOutPlace matchId => MatchSessionManager.onTimeOutPlaceMatchSession matchId
  | .complete info => MatchSessionManager.onCompleteMatchSession info true

theorem run_sessionWorkerRun (world : World) :
    sessionWorkerRun.run perform world =
      match world.sessionJobs.takeJob world.timeMsec with
      | (none, rest) => ((), world.withSessionJobs rest)
      | (some job, rest) => job.operation.run perform (world.withSessionJobs rest) := by
  rw [sessionWorkerRun, Program.run_bind, Program.run_atomically]
  cases taken : world.sessionJobs.takeJob world.timeMsec with
  | mk job rest =>
      have effect : perform .takeSessionJob world = world.withSessionJobs rest := by
        rw [perform, taken]
        rfl
      rw [effect]
      cases job with
      | none => rfl
      | some job => cases job <;> rfl

theorem SessionJob.moves {world : World} (inStep : world.InStep) (job : SessionJob) :
    world.SessionMoves (job.operation.run perform world).2 := by
  cases job with
  | timeOutAccept matchId =>
      exact MatchSessionManager.moves_onTimeOutAcceptMatchSession inStep matchId
  | accept playerKey => exact MatchSessionManager.moves_acceptMatchSession inStep _
  | timeOutPlace matchId =>
      exact MatchSessionManager.moves_onTimeOutPlaceMatchSession inStep matchId
  | complete info => exact MatchSessionManager.moves_onCompleteMatchSession inStep info true

/-- The public operations of the session manager. -/
inductive SessionCall
  | createMatchSession (key : MatchmakingGroupKey) (tickets : TicketSet)
  | acceptMatchSession (acceptInfo : PlayerMatchAcceptInfo)
  | placeMatchSession (matchId : MatchId)
  | onTimeOutAcceptMatchSession (matchId : MatchId)
  | onTimeOutPlaceMatchSession (matchId : MatchId)
  | onFailedMatchSession (matchId : MatchId)
  | onCompleteMatchSession (info : IntegrationZoneInstanceInfo) (success : Bool)

namespace SessionCall

def operation : SessionCall → Operation Unit
  | .createMatchSession key tickets => MatchSessionManager.createMatchSession key tickets
  | .acceptMatchSession acceptInfo => MatchSessionManager.acceptMatchSession acceptInfo
  | .placeMatchSession matchId => MatchSessionManager.placeMatchSession matchId
  | .onTimeOutAcceptMatchSession matchId => MatchSessionManager.onTimeOutAcceptMatchSession matchId
  | .onTimeOutPlaceMatchSession matchId => MatchSessionManager.onTimeOutPlaceMatchSession matchId
  | .onFailedMatchSession matchId => MatchSessionManager.onFailedMatchSession matchId
  | .onCompleteMatchSession info success => MatchSessionManager.onCompleteMatchSession info success

/-- Tickets handed to creation are in search. -/
def Handed (world : World) : SessionCall → Prop
  | .createMatchSession _ tickets =>
      ∀ ticket ∈ tickets.1, world.ticketStatus ticket = .searching
  | _ => True

/-- **Every operation is a sequence of moves.** -/
theorem moves {world : World} (inStep : world.InStep) {call : SessionCall}
    (handed : call.Handed world) : world.SessionMoves (call.operation.run perform world).2 := by
  cases call with
  | createMatchSession key tickets =>
      exact MatchSessionManager.moves_createMatchSession inStep handed
  | acceptMatchSession acceptInfo => exact MatchSessionManager.moves_acceptMatchSession inStep _
  | placeMatchSession matchId => exact MatchSessionManager.moves_placeMatchSession inStep _
  | onTimeOutAcceptMatchSession matchId =>
      exact MatchSessionManager.moves_onTimeOutAcceptMatchSession inStep _
  | onTimeOutPlaceMatchSession matchId =>
      exact MatchSessionManager.moves_onTimeOutPlaceMatchSession inStep _
  | onFailedMatchSession matchId => exact MatchSessionManager.moves_onFailedMatchSession inStep _
  | onCompleteMatchSession info success =>
      exact MatchSessionManager.moves_onCompleteMatchSession inStep info success

end SessionCall

/-- The states between complete operations of the session manager and due
callbacks, while everything else may happen that leaves the registered sessions
and their tickets alone. -/
inductive SessionsReached : World → Prop
  | start {world} (empty : world.matchSessions = Registry.empty) : SessionsReached world
  | elsewhere {before after} (reached : SessionsReached before)
      (leaves : before.LeavesSessions after) : SessionsReached after
  | call {world} (reached : SessionsReached world) (call : SessionCall)
      (handed : call.Handed world) : SessionsReached (call.operation.run perform world).2
  | callback {world} (reached : SessionsReached world) :
      SessionsReached (sessionWorkerRun.run perform world).2

/-- **Sessions stay in step** with their tickets. -/
theorem SessionsReached.inStep {world : World} (reached : SessionsReached world) :
    world.InStep := by
  induction reached with
  | start empty =>
      refine ⟨empty ▸ Registry.Consistent.empty _ _, ?_, ?_, ?_, ?_⟩ <;>
        (rw [empty]; exact nofun)
  | elsewhere _ leaves ih => exact ih.leaves leaves
  | call _ call handed ih => exact (call.moves ih handed).inStep ih
  | @callback world _ ih =>
      rw [run_sessionWorkerRun]
      rcases world.sessionJobs.takeJob world.timeMsec with ⟨_ | job, rest⟩
      · exact ih.withSessionJobs rest
      · exact (job.moves (ih.withSessionJobs rest)).inStep (ih.withSessionJobs rest)

end MatchmakingMvp
