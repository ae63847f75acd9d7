import MatchmakingMvp.Session.Opening
import MatchmakingMvp.Session.Responses
import MatchmakingMvp.System.WorkerThreads

/-! # Undisturbed sessions

A new session schedules the acceptances of its players before its accept timeout, and a placed one
its completion before its place timeout, and the worker executes callbacks in the order of their
due times. As long as nobody declines and no other operation is called on it, a session of fewer
than sixty players therefore asks until the last acceptance, is then placed
(`MatchmakingMvp.World.Inviting.callback`), and ends with its completion
(`MatchmakingMvp.World.Hosting.callback`), whatever becomes of other sessions meanwhile
(`MatchmakingMvp.undisturbed_session_completes`).
-/

namespace MatchmakingMvp

open Foundation

/-- The callback names the match id. -/
def SessionJob.Concerns (matchId : MatchId) : SessionJob → Prop
  | .timeOutAccept concerned | .timeOutPlace concerned => concerned = matchId
  | .accept _ => False
  | .complete info => info.matchId = matchId

/-- The callback is about the session or one of its players. -/
def SessionJob.Names (session : MatchSession) (job : SessionJob) : Prop :=
  job.Concerns session.matchId ∨ ∃ playerKey ∈ session.ticketPlayers, job = .accept playerKey

theorem SessionJob.concerns_of_names {session : MatchSession} {job : SessionJob}
    (names : job.Names session) (other : ∀ playerKey, job ≠ .accept playerKey) :
    job.Concerns session.matchId :=
  names.resolve_right fun ⟨playerKey, _, same⟩ => other playerKey same

namespace World

variable {world after : World} {session rival : MatchSession}

/-- The session, the callbacks pending for it and its tickets stay. -/
structure SparesSession (before after : World) (session : MatchSession) : Prop where
  keeps : before.Keeps after session
  inStep : after.InStep
  kept : ∀ entry ∈ before.sessionJobs, entry ∈ after.sessionJobs
  added : ∀ entry ∈ after.sessionJobs, entry ∈ before.sessionJobs ∨ ¬ entry.2.Names session

theorem SparesSession.refl (inStep : world.InStep) (session : MatchSession) :
    world.SparesSession world session :=
  ⟨.refl world session, inStep, fun _ => id, fun _ => Or.inl⟩

theorem SparesSession.trans {before middle after : World}
    (first : before.SparesSession middle session) (second : middle.SparesSession after session) :
    before.SparesSession after session := by
  refine ⟨first.keeps.trans second.keeps, second.inStep,
    fun entry inside => second.kept entry (first.kept entry inside), fun entry inside => ?_⟩
  rcases second.added entry inside with earlier | foreign
  · exact first.added entry earlier
  · exact Or.inr foreign

/-- A registered session has tickets and players of its own. -/
theorem InStep.apart_of_ne (inStep : world.InStep)
    (registered : world.matchSessions.items session.matchId = some session)
    (found : world.matchSessions.items rival.matchId = some rival)
    (away : rival.matchId ≠ session.matchId) : world.Apart session rival := by
  refine ⟨found, away, fun ticket own shared => ?_, fun playerKey member => ?_⟩
  · exact away (inStep.apart _ _ _ _ registered found ticket own shared).symm
  · rw [inStep.consistent.indexed.mpr ⟨session, registered, member⟩]
    exact fun same => away (Option.some.inj same).symm

theorem Apart.spares_ended (apart : world.Apart session rival) (inStep : world.InStep)
    {status : MatchTicketStatus}
    (can : canChangeStatus (world.sessionState rival).status status = true)
    (terminal : status.terminal = true) : world.SparesSession (world.ended rival status) session :=
  ⟨apart.keeps_ended inStep status,
    (SessionMove.close apart.found can terminal).inStep inStep, fun _ => id, fun _ => Or.inl⟩

theorem Apart.spares_placed (apart : world.Apart session rival) (inStep : world.InStep)
    (asks : (world.sessionState rival).status = .requiresAcceptance) :
    world.SparesSession (world.placed rival) session := by
  have moved := apart.keeps_moved .placing
  refine ⟨⟨moved.state, moved.ticketStatus, moved.items, moved.owner, moved.released⟩,
    (SessionMove.place apart.found asks).inStep inStep, fun entry inside => ?_,
    fun entry inside => ?_⟩
  · exact mem_insertMulti.mpr (Or.inr (mem_insertMulti.mpr (Or.inr inside)))
  · rcases mem_insertMulti.mp inside with rfl | inside
    · exact Or.inr fun names => apart.away (SessionJob.concerns_of_names names (by simp))
    · rcases mem_insertMulti.mp inside with rfl | inside
      · exact Or.inr fun names => apart.away (SessionJob.concerns_of_names names (by simp))
      · exact Or.inl inside

theorem Apart.spares_withSessionState (apart : world.Apart session rival)
    (inStep : world.InStep) {state : MatchSessionState}
    (kept : state.status = (world.sessionState rival).status) :
    world.SparesSession (world.withSessionState rival state) session :=
  ⟨apart.keeps_withSessionState state, inStep.record kept, fun _ => id, fun _ => Or.inl⟩

theorem InStep.spares_dropped (inStep : world.InStep)
    (registered : world.matchSessions.items session.matchId = some session) {matchId : MatchId}
    (away : matchId ≠ session.matchId) : world.SparesSession (world.dropped matchId) session := by
  refine ⟨keeps_dropped inStep.consistent away fun playerKey member owned => ?_,
    inStep.dropped matchId, fun _ => id, fun _ => Or.inl⟩
  rw [inStep.consistent.indexed.mpr ⟨session, registered, member⟩] at owned
  exact away (Option.some.inj owned).symm

theorem LeavesSessions.spares (leaves : world.LeavesSessions after)
    (jobs : after.sessionJobs = world.sessionJobs) (inStep : world.InStep)
    (registered : world.matchSessions.items session.matchId = some session) :
    world.SparesSession after session := by
  refine ⟨⟨leaves.sessionState _ session registered, leaves.ticketStatus _ session registered,
    by rw [leaves.matchSessions], fun playerKey _ => by rw [leaves.matchSessions],
    fun playerKey owned => by rwa [leaves.matchSessions] at owned⟩, inStep.leaves leaves,
    fun entry inside => by rwa [jobs], fun entry inside => ?_⟩
  rw [jobs] at inside
  exact Or.inl inside

theorem SameSessions.spares (same : world.SameSessions after) (inStep : world.InStep)
    (session : MatchSession) : world.SparesSession after session := by
  refine ⟨⟨by rw [same.sessionState], fun ticket _ => by rw [same.ticketStatus],
    by rw [same.matchSessions], fun playerKey _ => by rw [same.matchSessions],
    fun playerKey owned => by rwa [same.matchSessions] at owned⟩, inStep.leaves same.leaves,
    fun entry inside => by rwa [same.sessionJobs], fun entry inside => ?_⟩
  rw [same.sessionJobs] at inside
  exact Or.inl inside

end World

/-! ## Other sessions -/

namespace MatchSessionManager

open World

variable {world : World} (inStep : world.InStep) {session : MatchSession}
  (registered : world.matchSessions.items session.matchId = some session)

include inStep registered

theorem spares_onFailedMatchSession {matchId : MatchId} (away : matchId ≠ session.matchId) :
    world.SparesSession ((onFailedMatchSession matchId).run perform world).2 session := by
  rcases run_onFailedMatchSession_cases inStep matchId with same | ⟨rival, found, rfl, ended⟩
  · rw [same]
    exact .refl inStep session
  · rw [ended]
    apply (inStep.apart_of_ne registered found away).spares_ended inStep _ rfl
    rcases MatchTicketStatus.seated_iff.mp (inStep.seated _ _ found) with status | status <;>
      rw [status] <;> rfl

theorem spares_onTimeOutAcceptMatchSession {matchId : MatchId}
    (away : matchId ≠ session.matchId) :
    world.SparesSession ((onTimeOutAcceptMatchSession matchId).run perform world).2 session := by
  rcases run_onTimeOutAcceptMatchSession_cases inStep matchId with
    same | ⟨rival, found, rfl, asks, ended⟩
  · rw [same]
    exact .refl inStep session
  · rw [ended]
    apply (inStep.apart_of_ne registered found away).spares_ended inStep _ rfl
    rw [asks]
    rfl

theorem spares_onTimeOutPlaceMatchSession {matchId : MatchId}
    (away : matchId ≠ session.matchId) :
    world.SparesSession ((onTimeOutPlaceMatchSession matchId).run perform world).2 session := by
  rcases run_onTimeOutPlaceMatchSession_cases inStep matchId with
    same | ⟨rival, found, rfl, places, ended⟩
  · rw [same]
    exact .refl inStep session
  · rw [ended]
    apply (inStep.apart_of_ne registered found away).spares_ended inStep _ rfl
    rw [places]
    rfl

theorem spares_placeMatchSession {matchId : MatchId} (away : matchId ≠ session.matchId) :
    world.SparesSession ((placeMatchSession matchId).run perform world).2 session := by
  rcases run_placeMatchSession_cases inStep matchId with same | ⟨rival, found, rfl, asks, placed⟩
  · rw [same]
    exact .refl inStep session
  · rw [placed]
    exact (inStep.apart_of_ne registered found away).spares_placed inStep asks

theorem spares_acceptMatchSession {acceptInfo : PlayerMatchAcceptInfo}
    (outside : acceptInfo.playerKey ∉ session.ticketPlayers) :
    world.SparesSession ((acceptMatchSession acceptInfo).run perform world).2 session := by
  rcases run_acceptMatchSession_cases inStep acceptInfo with ⟨-, same⟩ | ⟨rival, counts, cases⟩
  · rw [same]
    exact .refl inStep session
  · have found := counts.found inStep
    have away : rival.matchId ≠ session.matchId := by
      intro alike
      obtain ⟨id, owned, stored⟩ := Option.bind_eq_some_iff.mp counts.member
      obtain ⟨owner, present, member⟩ := inStep.consistent.indexed.mp owned
      rw [stored, Option.some.injEq] at present
      subst present
      rw [alike, registered, Option.some.injEq] at found
      subst found
      exact outside member
    have apart := inStep.apart_of_ne registered found away
    have kept : ((world.sessionState rival).acceptPlayerSession acceptInfo).2.status =
        (world.sessionState rival).status := MatchSessionState.acceptPlayerSession_status _ _
    have record : world.SparesSession (recorded world acceptInfo rival) session :=
      apart.spares_withSessionState inStep kept
    have asks : ((recorded world acceptInfo rival).sessionState rival).status =
        .requiresAcceptance := by
      rw [recorded, withSessionState_sessionState, Function.update_self, kept]
      exact counts.asks
    have apart : (recorded world acceptInfo rival).Apart session rival :=
      record.inStep.apart_of_ne registered found away
    rcases cases with ⟨-, ended⟩ | ⟨-, -, placed⟩ | ⟨-, -, waits⟩
    · rw [ended]
      have penalty : (recorded world acceptInfo rival).SameSessions
          (penalized (recorded world acceptInfo rival) acceptInfo.playerKey) :=
        ⟨rfl, rfl, rfl, rfl⟩
      have penalized := penalty.spares record.inStep session
      refine record.trans (penalized.trans ?_)
      apply (penalized.inStep.apart_of_ne registered found away).spares_ended penalized.inStep _ rfl
      rw [penalty.sessionState, asks]
      rfl
    · rw [placed]
      exact record.trans (apart.spares_placed record.inStep asks)
    · rw [waits]
      exact record

theorem spares_onCompleteMatchSession {info : IntegrationZoneInstanceInfo} (success : Bool)
    (away : info.matchId ≠ session.matchId) :
    world.SparesSession ((onCompleteMatchSession info success).run perform world).2 session := by
  cases success with
  | false =>
      simp only [onCompleteMatchSession, if_true, Program.run_bind, Program.run_pure]
      exact spares_onFailedMatchSession inStep registered away
  | true =>
      have ended : ∀ {middle : World} {rival : MatchSession} {status : MatchTicketStatus},
          world.SameSessions middle → world.matchSessions.items info.matchId = some rival →
          rival.matchId = info.matchId →
          canChangeStatus (world.sessionState rival).status status = true →
          status.terminal = true → world.SparesSession (middle.ended rival status) session := by
        intro middle rival status same found keyed can terminal
        have middles := same.spares inStep session
        rw [← keyed] at found away
        have apart := inStep.apart_of_ne registered found away
        refine middles.trans (World.Apart.spares_ended ?_ middles.inStep ?_ terminal)
        · apply middles.inStep.apart_of_ne _ _ away
          · rw [same.matchSessions, registered]
          · rw [same.matchSessions, found]
        · rwa [same.sessionState]
      rcases run_onCompleteMatchSession_cases inStep info with
        ⟨-, same⟩ | ⟨rival, found, keyed, ⟨places, -, completed⟩ | ⟨-, middle, same, failed⟩⟩
      · rw [same]
        exact .refl inStep session
      · rw [completed]
        exact ended (sameSessions_hosted info) found keyed (by rw [places]; rfl) rfl
      · rw [failed]
        refine ended same found keyed ?_ rfl
        rcases MatchTicketStatus.seated_iff.mp (inStep.seated _ _ found) with status | status <;>
          rw [status] <;> rfl

end MatchSessionManager

/-- A callback that is not about the session spares it. -/
theorem SessionJob.spares {world : World} (inStep : world.InStep) {session : MatchSession}
    (registered : world.matchSessions.items session.matchId = some session) {job : SessionJob}
    (foreign : ¬ job.Names session) :
    world.SparesSession (job.operation.run perform world).2 session := by
  cases job with
  | timeOutAccept matchId =>
      exact MatchSessionManager.spares_onTimeOutAcceptMatchSession inStep registered
        fun own => foreign (Or.inl own)
  | accept playerKey =>
      exact MatchSessionManager.spares_acceptMatchSession inStep registered
        fun own => foreign (Or.inr ⟨playerKey, own, rfl⟩)
  | timeOutPlace matchId =>
      exact MatchSessionManager.spares_onTimeOutPlaceMatchSession inStep registered
        fun own => foreign (Or.inl own)
  | complete info =>
      exact MatchSessionManager.spares_onCompleteMatchSession inStep registered true
        fun own => foreign (Or.inl own)

/-- A creation spares the registered sessions of other match ids. -/
theorem World.Opens.spares {world after : World} {tickets : TicketSet}
    (opens : world.Opens tickets after) (inStep : world.InStep)
    (searching : ∀ ticket ∈ tickets.1, world.ticketStatus ticket = .searching)
    {session : MatchSession}
    (registered : world.matchSessions.items session.matchId = some session)
    (elsewhere : ∀ ticket ∈ tickets.1.head?, ticket.matchTicketId ≠ session.matchId) :
    world.SparesSession after session := by
  cases opens with
  | refused leaves jobs => exact leaves.spares jobs inStep registered
  | @dropped ticket first leaves jobs =>
      have spares := inStep.spares_dropped registered (elsewhere ticket first)
      refine spares.trans (leaves.spares jobs (inStep.dropped _) ?_)
      rw [spares.keeps.items, registered]
  | @opened _ rival _ _ contains whole fresh same =>
      rw [← contains] at searching
      have away : session.matchId ≠ rival.matchId := by
        intro alike
        rw [alike, fresh.id] at registered
        cases registered
      have outside : ∀ playerKey ∈ session.ticketPlayers, playerKey ∉ rival.ticketPlayers := by
        intro playerKey member shared
        have owned := inStep.consistent.indexed.mpr ⟨session, registered, member⟩
        rw [fresh.unowned playerKey shared] at owned
        cases owned
      have owner : (world.asked rival).matchSessions.owner = fun playerKey =>
          if playerKey ∈ rival.ticketPlayers then some rival.matchId
          else world.matchSessions.owner playerKey := by
        rw [World.asked, World.moved_matchSessions, World.withMatchSessions_matchSessions,
          SessionRegistry.insertMatchSession, Registry.insert_of_fresh _ _ fresh]
        rfl
      have asked := (inStep.asked whole searching fresh).withSessionJobs
        (rival.scheduled world.timeMsec world.sessionJobs)
      have scheduled : world.SparesSession ((world.asked rival).withSessionJobs
          (rival.scheduled world.timeMsec world.sessionJobs)) session := by
        refine ⟨⟨World.asked_sessionState_of_ne fun same => away (same ▸ rfl),
          fun ticket member => ?_, ?_, fun playerKey member => ?_, fun playerKey owned => ?_⟩,
          asked, fun entry inside => ?_, fun entry inside => ?_⟩
        · rw [World.withSessionJobs_ticketStatus, World.asked, World.moved_ticketStatus]
          refine moveAll_of_not_mem fun shared => ?_
          have seated := inStep.seated _ session registered
          rw [← inStep.agrees _ session registered ticket member, searching ticket shared] at seated
          cases seated
        · rw [World.withSessionJobs_matchSessions, World.asked_items fresh,
            Function.update_of_ne away]
        · rw [World.withSessionJobs_matchSessions, owner]
          exact if_neg (outside playerKey member)
        · rw [World.withSessionJobs_matchSessions, owner] at owned
          simp only at owned
          split_ifs at owned
          · exact (away (Option.some.inj owned).symm).elim
          · exact owned
        · exact AsyncJobQueue.mem_autoAccepts_of_mem (mem_insertMulti.mpr (Or.inr inside))
        · rcases MatchSession.cases_of_mem_scheduled inside with earlier | rfl | ⟨_, member, same⟩
          · exact Or.inl earlier
          · refine Or.inr fun names => away ?_
            exact (SessionJob.concerns_of_names names (by simp)).symm
          · refine Or.inr ?_
            rw [same]
            rintro (own | ⟨playerKey, own, accepts⟩)
            · exact own
            · cases accepts
              exact outside _ own member
      exact scheduled.trans (same.spares asked session)

/-! ## On the way -/

namespace World

variable {world after : World} {session : MatchSession} {responses : List PlayerMatchAcceptInfo}
  {deadline : Int} {answering : PlayerKey → Prop}

/-- The session asks. Nobody has declined, and an acceptance of each player who has not responded
is due before any timeout of the session. -/
structure Inviting (session : MatchSession) (deadline : Int) (answering : PlayerKey → Prop)
    (responses : List PlayerMatchAcceptInfo) (world : World) : Prop where
  answered : Answered session responses world
  willing : ¬ session.Declined responses
  waits : ¬ session.Accepted responses
  promised : ∀ playerKey ∈ session.ticketPlayers, firstResponse responses playerKey = none →
    answering playerKey ∨ ∃ due < deadline, (due, .accept playerKey) ∈ world.sessionJobs
  inTime : ∀ due job, (due, job) ∈ world.sessionJobs → job.Concerns session.matchId →
    job = .timeOutAccept session.matchId ∧ deadline ≤ due

/-- The session is being placed, and its completion is due before its place timeout. -/
structure Hosting (session : MatchSession) (info : IntegrationZoneInstanceInfo) (deadline : Int)
    (world : World) : Prop where
  inStep : world.InStep
  found : world.matchSessions.items session.matchId = some session
  places : (world.sessionState session).status = .placing
  scheduled : (deadline, .complete info) ∈ world.sessionJobs
  inTime : ∀ due job, (due, job) ∈ world.sessionJobs → job.Concerns session.matchId →
    job = .timeOutAccept session.matchId ∨
      job = .timeOutPlace session.matchId ∧ deadline < due ∨ job = .complete info

theorem Inviting.registered (inviting : world.Inviting session deadline answering responses) :
    world.matchSessions.items session.matchId = some session :=
  inviting.answered.registered inviting.willing

theorem Inviting.asks (inviting : world.Inviting session deadline answering responses) :
    (world.sessionState session).status = .requiresAcceptance :=
  (inviting.answered.waits inviting.willing inviting.waits).asks

theorem Answered.spares (answered : Answered session responses world)
    (willing : ¬ session.Declined responses) (spares : world.SparesSession after session) :
    Answered session responses after := by
  refine ⟨spares.inStep, fun declined => (willing declined).elim, fun _ => ?_, fun accepted => ?_,
    fun _ waits => ?_⟩
  · rw [spares.keeps.items]
    exact answered.registered willing
  · rw [spares.keeps.state]
    exact answered.placed accepted
  · rw [spares.keeps.state]
    exact answered.waits willing waits

theorem Inviting.spares (inviting : world.Inviting session deadline answering responses)
    (spares : world.SparesSession after session) :
    after.Inviting session deadline answering responses := by
  refine ⟨inviting.answered.spares inviting.willing spares, inviting.willing, inviting.waits,
    fun playerKey member silent => ?_, fun due job inside concerns => ?_⟩
  · rcases inviting.promised playerKey member silent with now | ⟨due, before, pending⟩
    · exact Or.inl now
    · exact Or.inr ⟨due, before, spares.kept _ pending⟩
  · rcases spares.added _ inside with earlier | foreign
    · exact inviting.inTime due job earlier concerns
    · exact (foreign (Or.inl concerns)).elim

theorem Hosting.spares {info : IntegrationZoneInstanceInfo}
    (hosting : world.Hosting session info deadline) (spares : world.SparesSession after session) :
    after.Hosting session info deadline := by
  refine ⟨spares.inStep, ?_, ?_, spares.kept _ hosting.scheduled, fun due job inside concerns => ?_⟩
  · rw [spares.keeps.items]
    exact hosting.found
  · rw [spares.keeps.state]
    exact hosting.places
  · rcases spares.added _ inside with earlier | foreign
    · exact hosting.inTime due job earlier concerns
    · exact (foreign (Or.inl concerns)).elim

theorem Inviting.imp {other : PlayerKey → Prop}
    (inviting : world.Inviting session deadline answering responses)
    (weaker : ∀ playerKey ∈ session.ticketPlayers, answering playerKey → other playerKey) :
    world.Inviting session deadline other responses :=
  ⟨inviting.answered, inviting.willing, inviting.waits, fun playerKey member silent =>
    (inviting.promised playerKey member silent).imp_left (weaker playerKey member),
    inviting.inTime⟩

/-- A due callback is taken from the queue. -/
theorem Inviting.taken (inviting : world.Inviting session deadline answering responses)
    {due : Int} {job : SessionJob} {rest : AsyncJobQueue SessionJob}
    (queue : world.sessionJobs = (due, job) :: rest) :
    (world.withSessionJobs rest).Inviting session deadline
      (fun playerKey => answering playerKey ∨ job = .accept playerKey) responses := by
  obtain ⟨inStep, failed, registered, placed, waits⟩ := inviting.answered
  refine ⟨⟨inStep.withSessionJobs rest, fun declined => (inviting.willing declined).elim,
    registered, placed, waits⟩, inviting.willing, inviting.waits,
    fun playerKey member silent => ?_, fun other named inside concerns => ?_⟩
  · rcases inviting.promised playerKey member silent with now | ⟨other, before, pending⟩
    · exact Or.inl (Or.inl now)
    · rw [queue, List.mem_cons] at pending
      rcases pending with same | later
      · cases same
        exact Or.inl (Or.inr rfl)
      · exact Or.inr ⟨other, before, later⟩
  · apply inviting.inTime other named _ concerns
    rw [queue]
    exact List.mem_cons_of_mem _ inside

/-- An acceptance does not make a decline. -/
theorem not_declined_concat {response : PlayerMatchAcceptInfo}
    (willing : ¬ session.Declined responses) (accepts : response.isAccept = true) :
    ¬ session.Declined (responses ++ [response]) := by
  rintro ⟨playerKey, member, first, found, declines⟩
  cases silent : firstResponse responses playerKey with
  | some earlier =>
      rw [firstResponse_concat_of_some silent] at found
      cases found
      exact willing ⟨playerKey, member, first, silent, declines⟩
  | none =>
      by_cases own : response.playerKey = playerKey
      · subst own
        rw [firstResponse_concat_self silent] at found
        cases found
        rw [accepts] at declines
        cases declines
      · rw [firstResponse_concat_of_ne own, silent] at found
        cases found

/-- A session that is placed is completed before its place timeout. -/
theorem hosting_placed (inStep : world.InStep)
    (found : world.matchSessions.items session.matchId = some session)
    (asks : (world.sessionState session).status = .requiresAcceptance)
    (unplaced : ∀ due job, (due, job) ∈ world.sessionJobs → job.Concerns session.matchId →
      job = .timeOutAccept session.matchId) :
    (world.placed session).Hosting session (world.zoneInfo session)
      (world.timeMsec + MatchSessionManager.kDemoCompletionDelayMsec) := by
  refine ⟨(SessionMove.place found asks).inStep inStep, found, ?_,
    mem_insertMulti.mpr (Or.inl rfl), fun due job inside concerns => ?_⟩
  · rw [placed_sessionState, Function.update_self]
  · rcases mem_insertMulti.mp inside with same | inside
    · cases same
      exact Or.inr (Or.inr rfl)
    · rcases mem_insertMulti.mp inside with same | inside
      · cases same
        refine Or.inr (Or.inl ⟨rfl, ?_⟩)
        simp only [MatchSessionManager.kDemoCompletionDelayMsec,
          MatchSessionManager.kPlaceTimeoutMsec]
        omega
      · exact Or.inl (unplaced due job inside concerns)

/-- The zone is for the session: its match, its world and its players. -/
structure Houses (session : MatchSession) (info : IntegrationZoneInstanceInfo) : Prop where
  matchId : info.matchId = session.matchId
  zoneId : info.zoneId = session.matchZoneId
  worldNo : info.worldNo = session.matchWorldNo
  players : ∀ playerKey, playerKey ∈ info.players.elements ↔ playerKey ∈ session.ticketPlayers

theorem Recorded.houses (recorded : Recorded session responses (world.sessionState session)) :
    Houses session (world.zoneInfo session) := by
  refine ⟨rfl, rfl, rfl, fun playerKey => OrderedMap.mem_keys_iff.trans ?_⟩
  constructor
  · rintro ⟨entry, known⟩
    exact recorded.members known
  · intro member
    obtain ⟨entry, known, -⟩ := recorded.answers playerKey member
    exact ⟨entry, known⟩

/-- The session asks its willing players, or it is being placed with a zone for them. -/
inductive OnItsWay (session : MatchSession) (world : World) : Prop
  | inviting {deadline : Int} {responses : List PlayerMatchAcceptInfo}
      (inviting : world.Inviting session deadline (fun _ => False) responses) :
      OnItsWay session world
  | hosting {info : IntegrationZoneInstanceInfo} {deadline : Int} (houses : Houses session info)
      (hosting : world.Hosting session info deadline) : OnItsWay session world

/-- **A player's acceptance** is recorded, or it is the last and the session is placed. -/
theorem Inviting.respond {response : PlayerMatchAcceptInfo}
    (inviting : world.Inviting session deadline (· = response.playerKey) responses)
    (member : response.playerKey ∈ session.ticketPlayers) (accepts : response.isAccept = true) :
    OnItsWay session ((MatchSessionManager.acceptMatchSession response).run perform world).2 := by
  have inStep := inviting.answered.inStep
  have registered := inviting.registered
  have answered := inviting.answered.respond response
  have willing := not_declined_concat inviting.willing accepts
  -- a response that counts is one for this session
  have own : ∀ rival, MatchSessionManager.Counts world response rival → rival = session := by
    intro rival counts
    have found := counts.member
    rw [inStep.consistent.indexed.mpr ⟨session, registered, member⟩, Option.bind_some,
      registered] at found
    exact (Option.some.inj found).symm
  have recording : MatchSessionManager.Counts world response session →
      Recorded session (responses ++ [response])
        ((MatchSessionManager.recorded world response session).sessionState session) := by
    intro counts
    have waits := inviting.answered.waits inviting.willing inviting.waits
    have first := (inviting.answered.counts_iff.mp counts).2.1
    rw [MatchSessionManager.recorded, withSessionState_sessionState, Function.update_self]
    exact waits.accept member first accepts
  have unplaced := fun due job inside concerns => (inviting.inTime due job inside concerns).1
  have later : ∀ {jobs : AsyncJobQueue SessionJob}, jobs = world.sessionJobs →
      ∀ playerKey ∈ session.ticketPlayers,
        firstResponse (responses ++ [response]) playerKey = none →
        False ∨ ∃ due < deadline, (due, .accept playerKey) ∈ jobs := by
    rintro jobs rfl playerKey inside silent
    have earlier : firstResponse responses playerKey = none := by
      by_contra responded
      obtain ⟨first, found⟩ := Option.ne_none_iff_exists'.mp responded
      rw [firstResponse_concat_of_some found] at silent
      cases silent
    refine (inviting.promised playerKey inside earlier).imp_left ?_
    rintro rfl
    rw [firstResponse_concat_self earlier] at silent
    cases silent
  rcases MatchSessionManager.run_acceptMatchSession_cases inStep response with
    ⟨-, same⟩ | ⟨rival, counts, ⟨declines, -⟩ | ⟨-, -, placed⟩ | ⟨-, open_, waits⟩⟩
  · rw [same] at answered ⊢
    refine .inviting ⟨answered, willing, fun accepted => ?_, later rfl, inviting.inTime⟩
    have placing := answered.placed accepted
    rw [inviting.asks] at placing
    cases placing
  · rw [accepts] at declines
    cases declines
  · obtain rfl := own rival counts
    have recorded := recording counts
    rw [placed]
    exact .hosting recorded.houses (hosting_placed (inStep.record
      (MatchSessionState.acceptPlayerSession_status _ _)) registered recorded.asks unplaced)
  · obtain rfl := own rival counts
    rw [waits] at answered ⊢
    refine .inviting ⟨answered, willing, fun accepted => ?_, later rfl, inviting.inTime⟩
    have placing := answered.placed accepted
    rw [(recording counts).asks] at placing
    cases placing

/-- The callbacks are in the order of their due times. -/
def Timely (world : World) : Prop := (world.sessionJobs.map Prod.fst).Pairwise (· ≤ ·)

theorem Timely.run {Result : Type} (timely : world.Timely) (operation : Operation Result) :
    (operation.run perform world).2.Timely := by
  have kept : ∀ step current, Timely current → Timely (perform step current) := by
    intro step current timely
    have ordered : (JobGroup.session.dueTimes current).Pairwise (· ≤ ·) := timely
    exact JobGroup.pairwise_dueTimes ordered
  exact operation.run_invariant perform kept timely

theorem Timely.first_le (timely : world.Timely) {due : Int} {job : SessionJob}
    {rest : AsyncJobQueue SessionJob} (queue : world.sessionJobs = (due, job) :: rest)
    {entry : Int × SessionJob} (pending : entry ∈ world.sessionJobs) : due ≤ entry.1 := by
  unfold Timely at timely
  rw [queue] at timely pending
  rcases List.mem_cons.mp pending with rfl | later
  · exact le_rfl
  · exact (List.pairwise_cons.mp timely).1 _ (List.mem_map_of_mem later)

/-- **A callback while players are asked** is the acceptance of one of them, or of no concern. -/
theorem Inviting.callback (inviting : world.Inviting session deadline (fun _ => False) responses)
    (timely : world.Timely) (nonempty : session.ticketPlayers ≠ []) :
    OnItsWay session (sessionWorkerRun.run perform world).2 := by
  rcases run_sessionWorkerRun_cases world with ⟨-, idle⟩ | ⟨due, job, rest, queue, -, run⟩
  · rw [idle]
    exact .inviting inviting
  rw [run]
  have taken := inviting.taken queue
  by_cases names : job.Names session
  · rcases names with concerns | ⟨playerKey, member, rfl⟩
    · -- a player who has not responded has an acceptance that is due before
      exfalso
      have late := inviting.inTime due job (by rw [queue]; exact List.mem_cons_self) concerns
      apply inviting.waits
      refine ⟨nonempty, fun playerKey member => ?_⟩
      cases found : firstResponse responses playerKey with
      | none =>
          obtain ⟨other, before, pending⟩ :=
            (inviting.promised playerKey member found).resolve_left id
          have := timely.first_le queue pending
          have := late.2
          omega
      | some response =>
          refine ⟨response, rfl, ?_⟩
          by_contra declines
          exact inviting.willing ⟨playerKey, member, response, found, by simpa using declines⟩
    · have answers : (world.withSessionJobs rest).Inviting session deadline (· = playerKey)
          responses := taken.imp fun other _ now => by
        rcases now with never | same
        · exact never.elim
        · exact (SessionJob.accept.inj same).symm
      show OnItsWay session ((MatchSessionManager.acceptMatchSession
        { playerKey := playerKey, isAccept := true }).run perform _).2
      exact Inviting.respond answers member rfl
  · have spares := job.spares taken.answered.inStep taken.registered names
    refine .inviting ((taken.spares spares).imp fun playerKey member now => ?_)
    rcases now with never | same
    · exact never
    · exact names (Or.inr ⟨playerKey, member, same⟩)

/-- Whether a zone can be inserted does not depend on the callbacks. -/
theorem insert_withSessionJobs (info : IntegrationZoneInstanceInfo) (world : World)
    (jobs : AsyncJobQueue SessionJob) :
    ((IntegrationZoneInstanceManager.insert (some info)).run perform
        (world.withSessionJobs jobs)).1 =
      ((IntegrationZoneInstanceManager.insert (some info)).run perform world).1 := by
  have made : (world.withSessionJobs jobs).newZoneInstance info = world.newZoneInstance info := rfl
  have later : perform (.newZoneInstance info) (world.withSessionJobs jobs) =
      (perform (.newZoneInstance info) world).withSessionJobs jobs := rfl
  simp only [IntegrationZoneInstanceManager.insert, Program.run_bind, Program.run_atomically, made,
    later, withSessionJobs_zones, withSessionJobs_playerSessions]
  split_ifs <;> rfl

/-- What becomes of a session on its way: it goes on, or it ends with its zone inserted or
refused. -/
inductive Arrives (session : MatchSession) (world after : World) : Prop
  | goes (goes : OnItsWay session after) : Arrives session world after
  | completed {info : IntegrationZoneInstanceInfo} (houses : Houses session info)
      (inserted : ((IntegrationZoneInstanceManager.insert (some info)).run perform
        world).1.isSome = true)
      (ended : ∀ ticket ∈ session.tickets, after.ticketStatus ticket = .completed) :
      Arrives session world after
  | failed {info : IntegrationZoneInstanceInfo} (houses : Houses session info)
      (refused : ((IntegrationZoneInstanceManager.insert (some info)).run perform world).1 = none)
      (ended : ∀ ticket ∈ session.tickets, after.ticketStatus ticket = .failed) :
      Arrives session world after

/-- A response to a session that is being placed is ignored. -/
theorem Hosting.respond {info : IntegrationZoneInstanceInfo}
    (hosting : world.Hosting session info deadline) {response : PlayerMatchAcceptInfo}
    (member : response.playerKey ∈ session.ticketPlayers) :
    ((MatchSessionManager.acceptMatchSession response).run perform world).2 = world := by
  rcases MatchSessionManager.run_acceptMatchSession_cases hosting.inStep response with
    ⟨-, same⟩ | ⟨rival, counts, -⟩
  · exact same
  · exfalso
    have found := counts.member
    rw [hosting.inStep.consistent.indexed.mpr ⟨session, hosting.found, member⟩, Option.bind_some,
      hosting.found] at found
    cases found
    have asks := counts.asks
    rw [hosting.places] at asks
    cases asks

/-- **A callback while a session is being placed** completes it with its zone, fails it where the
zone is refused, or is of no concern. -/
theorem Hosting.callback {info : IntegrationZoneInstanceInfo} (houses : Houses session info)
    (hosting : world.Hosting session info deadline) (timely : world.Timely) :
    Arrives session world (sessionWorkerRun.run perform world).2 := by
  rcases run_sessionWorkerRun_cases world with ⟨-, idle⟩ | ⟨due, job, rest, queue, -, run⟩
  · rw [idle]
    exact .goes (.hosting houses hosting)
  rw [run]
  have inStep := hosting.inStep.withSessionJobs rest
  by_cases last : job = .complete info
  · subst last
    have found : (world.withSessionJobs rest).matchSessions.items info.matchId = some session := by
      rw [houses.matchId]
      exact hosting.found
    show Arrives session world ((MatchSessionManager.onCompleteMatchSession info true).run perform
      (world.withSessionJobs rest)).2
    rcases MatchSessionManager.run_onCompleteMatchSession_cases inStep info with
      ⟨absent, -⟩ | ⟨own, present, -, ⟨-, inserted, completed⟩ | ⟨stuck, middle, same, failed⟩⟩
    · rw [found] at absent
      cases absent
    · cases found.symm.trans present
      rw [insert_withSessionJobs] at inserted
      refine .completed houses inserted fun ticket member => ?_
      rw [completed, ended_ticketStatus, moveAll_of_mem member]
    · cases found.symm.trans present
      rcases stuck with asks | refused
      · exact absurd (hosting.places.symm.trans asks) (by decide)
      · rw [insert_withSessionJobs] at refused
        refine .failed houses refused fun ticket member => ?_
        rw [failed, ended_ticketStatus, moveAll_of_mem member]
  · have taken : (world.withSessionJobs rest).Hosting session info deadline := by
      refine ⟨inStep, hosting.found, hosting.places, ?_, fun other named inside => ?_⟩
      · have pending := hosting.scheduled
        rw [queue, List.mem_cons] at pending
        rcases pending with same | later
        · exact (last (Prod.mk.inj same).2.symm).elim
        · exact later
      · apply hosting.inTime other named
        rw [queue]
        exact List.mem_cons_of_mem _ inside
    suffices (job.operation.run perform (world.withSessionJobs rest)).2.Hosting session info
        deadline from .goes (.hosting houses this)
    by_cases names : job.Names session
    · rcases names with concerns | ⟨playerKey, member, rfl⟩
      · have inside : (due, job) ∈ world.sessionJobs := by
          rw [queue]
          exact List.mem_cons_self
        rcases hosting.inTime due job inside concerns with rfl | ⟨rfl, late⟩ | same
        · rcases MatchSessionManager.run_onTimeOutAcceptMatchSession_cases inStep
            session.matchId with same | ⟨own, present, -, asks, -⟩
          · show ((MatchSessionManager.onTimeOutAcceptMatchSession session.matchId).run perform
              (world.withSessionJobs rest)).2.Hosting session info deadline
            rwa [same]
          · cases hosting.found.symm.trans present
            exact absurd (hosting.places.symm.trans asks) (by decide)
        · exact absurd (timely.first_le queue hosting.scheduled) (not_le.mpr late)
        · exact (last same).elim
      · show ((MatchSessionManager.acceptMatchSession
          { playerKey := playerKey, isAccept := true }).run perform
            (world.withSessionJobs rest)).2.Hosting session info deadline
        rwa [taken.respond member]
    · exact taken.spares (job.spares inStep taken.found names)

end World

/-! ## Runs -/

/-- The operation is none on the session but an acceptance, and no creation takes its id. -/
def SessionCall.Spares (session : MatchSession) : SessionCall → Prop
  | .createMatchSession _ tickets =>
      ∀ ticket ∈ tickets.1.head?, ticket.matchTicketId ≠ session.matchId
  | .acceptMatchSession acceptInfo =>
      acceptInfo.playerKey ∈ session.ticketPlayers → acceptInfo.isAccept = true
  | .placeMatchSession matchId | .onTimeOutAcceptMatchSession matchId
  | .onTimeOutPlaceMatchSession matchId | .onFailedMatchSession matchId =>
      matchId ≠ session.matchId
  | .onCompleteMatchSession info _ => info.matchId ≠ session.matchId

/-- What happens while nobody disturbs the session: operations that are none on it but
acceptances, the worker's runs, and everything that leaves sessions alone. -/
inductive SparingStep (session : MatchSession) (world : World) : World → Prop
  | elsewhere {after : World} (leaves : world.LeavesSessions after)
      (jobs : after.sessionJobs = world.sessionJobs)
      (advances : ∀ ticket, Advances (world.ticketStatus ticket) (after.ticketStatus ticket)) :
      SparingStep session world after
  | call (call : SessionCall) (handed : call.Handed world) (spares : call.Spares session) :
      SparingStep session world (call.operation.run perform world).2
  | callback : SparingStep session world (sessionWorkerRun.run perform world).2

section Runs

variable {world after : World} {session : MatchSession}

theorem SparingStep.inStep (step : SparingStep session world after) (inStep : world.InStep) :
    after.InStep := by
  cases step with
  | elsewhere leaves => exact inStep.leaves leaves
  | call call handed => exact (call.moves inStep handed).inStep inStep
  | callback => exact LateStep.callback.inStep inStep

theorem SparingStep.timely (step : SparingStep session world after) (timely : world.Timely) :
    after.Timely := by
  cases step with
  | elsewhere _ jobs =>
      unfold World.Timely
      rw [jobs]
      exact timely
  | call call => exact timely.run call.operation
  | callback => exact timely.run sessionWorkerRun

theorem SparingStep.advances (step : SparingStep session world after) (ticket : MatchTicket) :
    Advances (world.ticketStatus ticket) (after.ticketStatus ticket) := by
  cases step with
  | elsewhere _ _ advances => exact advances ticket
  | call call => exact (World.precedes_run call.operation world).advances ticket
  | callback => exact (World.precedes_run sessionWorkerRun world).advances ticket

/-- An operation on other sessions spares the session. -/
theorem SessionCall.spares {call : SessionCall} (spares : call.Spares session)
    (handed : call.Handed world) (inStep : world.InStep)
    (registered : world.matchSessions.items session.matchId = some session) :
    world.SparesSession (call.operation.run perform world).2 session ∨
      ∃ response, call = .acceptMatchSession response ∧
        response.playerKey ∈ session.ticketPlayers ∧ response.isAccept = true := by
  cases call with
  | createMatchSession key tickets =>
      exact Or.inl ((MatchSessionManager.opens_createMatchSession inStep handed).spares inStep
        handed registered spares)
  | acceptMatchSession response =>
      by_cases member : response.playerKey ∈ session.ticketPlayers
      · exact Or.inr ⟨response, rfl, member, spares member⟩
      · exact Or.inl (MatchSessionManager.spares_acceptMatchSession inStep registered member)
  | placeMatchSession matchId =>
      exact Or.inl (MatchSessionManager.spares_placeMatchSession inStep registered spares)
  | onTimeOutAcceptMatchSession matchId =>
      exact Or.inl
        (MatchSessionManager.spares_onTimeOutAcceptMatchSession inStep registered spares)
  | onTimeOutPlaceMatchSession matchId =>
      exact Or.inl
        (MatchSessionManager.spares_onTimeOutPlaceMatchSession inStep registered spares)
  | onFailedMatchSession matchId =>
      exact Or.inl (MatchSessionManager.spares_onFailedMatchSession inStep registered spares)
  | onCompleteMatchSession info success =>
      exact Or.inl
        (MatchSessionManager.spares_onCompleteMatchSession inStep registered success spares)

theorem World.OnItsWay.registered (onItsWay : world.OnItsWay session) :
    world.InStep ∧ world.matchSessions.items session.matchId = some session := by
  cases onItsWay with
  | inviting inviting => exact ⟨inviting.answered.inStep, inviting.registered⟩
  | hosting _ hosting => exact ⟨hosting.inStep, hosting.found⟩

/-- **A session on its way goes on** until it ends. -/
theorem SparingStep.arrives (step : SparingStep session world after)
    (onItsWay : world.OnItsWay session) (timely : world.Timely)
    (nonempty : session.ticketPlayers ≠ []) : world.Arrives session after := by
  have goes : world.SparesSession after session → world.Arrives session after := by
    intro spares
    cases onItsWay with
    | inviting inviting => exact .goes (.inviting (inviting.spares spares))
    | hosting houses hosting => exact .goes (.hosting houses (hosting.spares spares))
  obtain ⟨inStep, registered⟩ := onItsWay.registered
  cases step with
  | elsewhere leaves jobs => exact goes (leaves.spares jobs inStep registered)
  | call call handed spares =>
      rcases SessionCall.spares spares handed inStep registered with
        spares | ⟨response, rfl, member, accepts⟩
      · exact goes spares
      · show world.Arrives session
          ((MatchSessionManager.acceptMatchSession response).run perform world).2
        cases onItsWay with
        | inviting inviting =>
            exact .goes ((inviting.imp fun _ _ => False.elim).respond member accepts)
        | hosting houses hosting =>
            rw [hosting.respond member]
            exact .goes (.hosting houses hosting)
  | callback =>
      cases onItsWay with
      | inviting inviting => exact .goes (inviting.callback timely nonempty)
      | hosting houses hosting => exact hosting.callback houses timely

/-- The session ended earlier in the run, when a zone for it was inserted or refused, and its
tickets are completed or have failed accordingly. -/
def EndedByZone (session : MatchSession) (run : Nat → World) (later : Nat) : Prop :=
  ∃ earlier info, earlier < later ∧ World.Houses session info ∧
    ((((IntegrationZoneInstanceManager.insert (some info)).run perform
          (run earlier)).1.isSome = true ∧
        ∀ ticket ∈ session.tickets, (run later).ticketStatus ticket = .completed) ∨
      (((IntegrationZoneInstanceManager.insert (some info)).run perform (run earlier)).1 = none ∧
        ∀ ticket ∈ session.tickets, (run later).ticketStatus ticket = .failed))

theorem EndedByZone.succ {run : Nat → World} {later : Nat}
    (ended : EndedByZone session run later)
    (step : SparingStep session (run later) (run (later + 1))) :
    EndedByZone session run (later + 1) := by
  have lasts : ∀ {status : MatchTicketStatus}, status.terminal = true →
      (∀ ticket ∈ session.tickets, (run later).ticketStatus ticket = status) →
      ∀ ticket ∈ session.tickets, (run (later + 1)).ticketStatus ticket = status := by
    intro status terminal ended ticket member
    have settled := (step.advances ticket).of_terminal (by rw [ended ticket member, terminal])
    rw [settled, ended ticket member]
  obtain ⟨earlier, info, before, houses, outcome⟩ := ended
  refine ⟨earlier, info, by omega, houses, ?_⟩
  exact outcome.imp (And.imp_right (lasts rfl)) (And.imp_right (lasts rfl))

/-- **Every state of an undisturbed run.** -/
theorem World.OnItsWay.run {run : Nat → World} (onItsWay : (run 0).OnItsWay session)
    (timely : (run 0).Timely) (nonempty : session.ticketPlayers ≠ [])
    (steps : ∀ round, SparingStep session (run round) (run (round + 1))) (later : Nat) :
    (run later).OnItsWay session ∨ EndedByZone session run later := by
  have ordered : ∀ round, (run round).Timely :=
    forall_of_kept World.Timely timely fun round => (steps round).timely
  induction later with
  | zero => exact Or.inl onItsWay
  | succ later ih =>
      rcases ih with goes | ended
      · cases (steps later).arrives goes (ordered later) nonempty with
        | goes goes => exact Or.inl goes
        | @completed info houses inserted ended =>
            exact Or.inr ⟨later, info, by omega, houses, Or.inl ⟨inserted, ended⟩⟩
        | @failed info houses refused ended =>
            exact Or.inr ⟨later, info, by omega, houses, Or.inr ⟨refused, ended⟩⟩
      · exact Or.inr (ended.succ (steps later))

/-- A new session of fewer players than the accept timeout has seconds is on its way. -/
theorem World.Opens.onItsWay {tickets : TicketSet} {ticket : MatchTicket}
    (opens : world.Opens tickets after) (inStep : after.InStep)
    (first : tickets.1.head? = some ticket)
    (unused : world.matchSessions.items ticket.matchTicketId = none)
    (unnamed : ∀ entry ∈ world.sessionJobs, ¬ entry.2.Concerns ticket.matchTicketId)
    (created : after.matchSessions.items ticket.matchTicketId = some session)
    (unanswered : after.sessionState session =
      { status := .requiresAcceptance, playerMatchAcceptInfos := session.initialAcceptInfos })
    (nonempty : session.ticketPlayers ≠ []) (few : session.ticketPlayers.length < 60) :
    after.OnItsWay session := by
  cases opens with
  | refused leaves =>
      rw [leaves.matchSessions, unused] at created
      cases created
  | @dropped head head_first leaves =>
      cases first.symm.trans head_first
      rw [leaves.matchSessions] at created
      rw [(Registry.stored_of_erase _ _ created).2] at unused
      cases unused
  | @opened head opened head_first named _ _ fresh same =>
      cases first.symm.trans head_first
      have own : session = opened := by
        rw [same.matchSessions, withSessionJobs_matchSessions, asked_items fresh, named,
          Function.update_self] at created
        exact (Option.some.inj created).symm
      subst own
      have jobs : after.sessionJobs = session.scheduled world.timeMsec world.sessionJobs :=
        same.sessionJobs
      have pending : ¬ session.Accepted [] := by
        rintro ⟨-, all⟩
        obtain ⟨playerKey, member⟩ := List.exists_mem_of_ne_nil _ nonempty
        obtain ⟨response, found, -⟩ := all playerKey member
        cases found
      have inviting : after.Inviting session
          (world.timeMsec + MatchSessionManager.kAcceptTimeoutMsec) (fun _ => False) [] := by
        refine ⟨.initial inStep (named ▸ created) unanswered, ?_, pending,
          fun playerKey member _ => ?_, fun due job inside concerns => ?_⟩
        · rintro ⟨playerKey, member, response, found, -⟩
          cases found
        · obtain ⟨due, scheduled, soon⟩ := MatchSession.exists_mem_scheduled member world.timeMsec
            world.sessionJobs
          refine Or.inr ⟨due, ?_, by rw [jobs]; exact scheduled⟩
          simp only [MatchSessionManager.kDemoAutoAcceptDelayMsec] at soon
          simp only [MatchSessionManager.kAcceptTimeoutMsec]
          omega
        · rw [jobs] at inside
          rcases MatchSession.cases_of_mem_scheduled inside with earlier | same | ⟨_, _, same⟩
          · rw [named] at concerns
            exact (unnamed _ earlier concerns).elim
          · cases same
            exact ⟨rfl, le_rfl⟩
          · cases same
            exact concerns.elim
      exact .inviting inviting

end Runs

/-- The session is created from the tickets by the next operation, and nobody has responded yet.
It has players, and fewer than the accept timeout has seconds. No session has its match id, and no
callback of an earlier session of that id is pending. -/
structure CreatedFrom (world : World) (key : MatchmakingGroupKey) (tickets : TicketSet)
    (session : MatchSession) (after : World) : Prop where
  run : ((SessionCall.createMatchSession key tickets).operation.run perform world).2 = after
  handed : (SessionCall.createMatchSession key tickets).Handed world
  first : ∃ ticket ∈ tickets.1.head?, ticket.matchTicketId = session.matchId
  unused : world.matchSessions.items session.matchId = none
  found : after.matchSessions.items session.matchId = some session
  unanswered : after.sessionState session =
    { status := .requiresAcceptance, playerMatchAcceptInfos := session.initialAcceptInfos }
  unnamed : ∀ entry ∈ world.sessionJobs, ¬ entry.2.Concerns session.matchId
  nonempty : session.ticketPlayers ≠ []
  few : session.ticketPlayers.length < 60

theorem CreatedFrom.onItsWay {world after : World} {key : MatchmakingGroupKey}
    {tickets : TicketSet} {session : MatchSession}
    (created : CreatedFrom world key tickets session after) (inStep : world.InStep) :
    after.OnItsWay session := by
  obtain ⟨rfl, handed, ⟨ticket, first, named⟩, unused, found, unanswered, unnamed, nonempty, few⟩ :=
    created
  have opens : world.Opens tickets
      ((SessionCall.createMatchSession key tickets).operation.run perform world).2 :=
    MatchSessionManager.opens_createMatchSession inStep handed
  rw [← named] at unused found unnamed
  exact opens.onItsWay ((SessionCall.moves inStep handed).inStep inStep) first
    unused unnamed found unanswered nonempty few

theorem CreatedFrom.goes {world : World} {key : MatchmakingGroupKey} {tickets : TicketSet}
    {session : MatchSession} {run : Nat → World}
    (creation : CreatedFrom world key tickets session (run 0)) (inStep : world.InStep)
    (timely : world.Timely)
    (steps : ∀ round, SparingStep session (run round) (run (round + 1))) (later : Nat) :
    (run later).OnItsWay session ∨ EndedByZone session run later := by
  have ordered : (run 0).Timely := by
    rw [← creation.run]
    exact timely.run _
  exact (creation.onItsWay inStep).run ordered creation.nonempty steps later

end MatchmakingMvp
