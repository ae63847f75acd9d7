import MatchmakingMvp.Session.Accord

/-! # What complete session operations do to the sessions

A complete operation of the session manager leaves the sessions alone, opens a
session, records a response, places a session, ends one or deregisters one whose id
was taken by a creation
(`MatchmakingMvp.World.SessionMove`). That holds in states where every registered
session is in step with its tickets (`MatchmakingMvp.World.InStep`), which the moves
keep.
-/

namespace MatchmakingMvp

open Foundation

namespace World

@[simps] def withSessionJobs (world : World) (jobs : AsyncJobQueue SessionJob) : World :=
  { world with sessionJobs := jobs }

/-- The session and its tickets take a status. -/
@[simps] def moved (world : World) (session : MatchSession) (status : MatchTicketStatus) :
    World :=
  { world with
    sessionState := Function.update world.sessionState session
      { world.sessionState session with status := status }
    ticketStatus := moveAll session.tickets status world.ticketStatus }

/-- The session takes a status and is deregistered. -/
@[simps!] def ended (world : World) (session : MatchSession) (status : MatchTicketStatus) :
    World :=
  (world.moved session status).withMatchSessions
    (world.matchSessions.eraseMatchSession session.matchId).2

/-- The session of the match id is deregistered as it is. -/
@[simps!] def dropped (world : World) (matchId : MatchId) : World :=
  world.withMatchSessions (world.matchSessions.eraseMatchSession matchId).2

/-- The zone a placed session is completed with. -/
def zoneInfo (world : World) (session : MatchSession) : IntegrationZoneInstanceInfo :=
  { matchId := session.matchId
    zoneGuid := session.matchId
    zoneId := session.matchZoneId
    worldNo := session.matchWorldNo
    worldSessionKey := session.matchId
    players := (world.sessionState session).players }

/-- The session is placed, and its place timeout and completion are scheduled. -/
@[simps!] def placed (world : World) (session : MatchSession) : World :=
  (world.moved session .placing).withSessionJobs
    ((world.sessionJobs.enqueueJobRequest
        (world.timeMsec + MatchSessionManager.kPlaceTimeoutMsec)
        (.timeOutPlace session.matchId)).enqueueJobRequest
      (world.timeMsec + MatchSessionManager.kDemoCompletionDelayMsec)
      (.complete (world.zoneInfo session)))

/-- The session is registered and asks its players. -/
def asked (world : World) (session : MatchSession) : World :=
  ((world.opened session).withMatchSessions
    (world.matchSessions.insertMatchSession session).2).moved session .requiresAcceptance

/-- The registered sessions, their tickets and the scheduled callbacks stay. -/
structure LeavesSessions (before after : World) : Prop where
  matchSessions : after.matchSessions = before.matchSessions
  sessionState : ∀ id session, before.matchSessions.items id = some session →
    after.sessionState session = before.sessionState session
  ticketStatus : ∀ id session, before.matchSessions.items id = some session →
    ∀ ticket ∈ session.tickets, after.ticketStatus ticket = before.ticketStatus ticket
  sessionJobs : ∀ entry ∈ before.sessionJobs, entry ∈ after.sessionJobs

theorem LeavesSessions.refl (world : World) : world.LeavesSessions world :=
  ⟨rfl, fun _ _ _ => rfl, fun _ _ _ _ _ => rfl, fun _ => id⟩

theorem LeavesSessions.of_eq {before after : World}
    (matchSessions : after.matchSessions = before.matchSessions)
    (sessionState : after.sessionState = before.sessionState)
    (ticketStatus : after.ticketStatus = before.ticketStatus)
    (sessionJobs : after.sessionJobs = before.sessionJobs) : before.LeavesSessions after :=
  ⟨matchSessions, fun _ _ _ => by rw [sessionState], fun _ _ _ _ _ => by rw [ticketStatus],
    fun _ inside => by rwa [sessionJobs]⟩

theorem LeavesSessions.trans {before middle after : World} (first : before.LeavesSessions middle)
    (second : middle.LeavesSessions after) : before.LeavesSessions after where
  matchSessions := second.matchSessions.trans first.matchSessions
  sessionState id session found :=
    (second.sessionState id session (by rwa [first.matchSessions])).trans
      (first.sessionState id session found)
  ticketStatus id session found ticket inside :=
    (second.ticketStatus id session (by rwa [first.matchSessions]) ticket inside).trans
      (first.ticketStatus id session found ticket inside)
  sessionJobs entry inside := second.sessionJobs entry (first.sessionJobs entry inside)

theorem LeavesSessions.enqueue {before after : World} (leaves : before.LeavesSessions after)
    (executeTimeMsec : Int) (job : SessionJob) :
    (before.withSessionJobs (before.sessionJobs.enqueueJobRequest executeTimeMsec job)
      ).LeavesSessions
      (after.withSessionJobs (after.sessionJobs.enqueueJobRequest executeTimeMsec job)) :=
  ⟨leaves.matchSessions, leaves.sessionState, leaves.ticketStatus, fun _ inside =>
    mem_insertMulti.mpr ((mem_insertMulti.mp inside).imp_right (leaves.sessionJobs _))⟩

/-- The moves of the sessions. -/
inductive SessionMove (world : World) : World → Prop
  | stay {after} (leaves : world.LeavesSessions after) : SessionMove world after
  | open {after session dueTimeMsec} (whole : session.Whole)
      (searching : ∀ ticket ∈ session.tickets, world.ticketStatus ticket = .searching)
      (fresh : world.matchSessions.Fresh MatchSession.matchId MatchSession.ticketPlayers session)
      (leaves : ((world.asked session).withSessionJobs
        (world.sessionJobs.enqueueJobRequest dueTimeMsec
          (.timeOutAccept session.matchId))).LeavesSessions after) :
      SessionMove world after
  | record {session state}
      (found : world.matchSessions.items session.matchId = some session)
      (kept : state.status = (world.sessionState session).status) :
      SessionMove world (world.withSessionState session state)
  | place {session} (found : world.matchSessions.items session.matchId = some session)
      (asks : (world.sessionState session).status = .requiresAcceptance) :
      SessionMove world (world.placed session)
  | close {session status} (found : world.matchSessions.items session.matchId = some session)
      (can : canChangeStatus (world.sessionState session).status status = true)
      (terminal : status.terminal = true) : SessionMove world (world.ended session status)
  | drop {after} (matchId : MatchId) (leaves : (world.dropped matchId).LeavesSessions after) :
      SessionMove world after

/-- A sequence of moves. -/
abbrev SessionMoves : World → World → Prop := Relation.ReflTransGen SessionMove

/-- Every registered session is being accepted or placed, and so is each of its
tickets. -/
structure InStep (world : World) : Prop where
  consistent : world.matchSessions.Consistent
  whole : ∀ id session, world.matchSessions.items id = some session → session.Whole
  seated : ∀ id session, world.matchSessions.items id = some session →
    (world.sessionState session).status.seated = true
  agrees : ∀ id session, world.matchSessions.items id = some session →
    ∀ ticket ∈ session.tickets, world.ticketStatus ticket = (world.sessionState session).status
  apart : ∀ first second session rival, world.matchSessions.items first = some session →
    world.matchSessions.items second = some rival →
    ∀ ticket ∈ session.tickets, ticket ∈ rival.tickets → first = second

section InStep

variable {world after : World} {session : MatchSession} {status : MatchTicketStatus}

theorem InStep.found (inStep : world.InStep) {id : MatchId}
    (found : world.matchSessions.items id = some session) :
    world.matchSessions.items session.matchId = some session := by
  rwa [inStep.consistent.keyed found]

theorem InStep.changeable (inStep : world.InStep) (status : MatchTicketStatus) {id : MatchId}
    (found : world.matchSessions.items id = some session)
    (can : canChangeStatus (world.sessionState session).status status = true) :
    session.Changeable status (world.sessionState session) world.ticketStatus :=
  (inStep.whole id session found).changeable can rfl (inStep.agrees id session found)

theorem InStep.leaves (inStep : world.InStep) (leaves : world.LeavesSessions after) :
    after.InStep where
  consistent := leaves.matchSessions ▸ inStep.consistent
  whole := leaves.matchSessions ▸ inStep.whole
  seated id session found := by
    rw [leaves.matchSessions] at found
    rw [leaves.sessionState id session found]
    exact inStep.seated id session found
  agrees id session found ticket inside := by
    rw [leaves.matchSessions] at found
    rw [leaves.sessionState id session found, leaves.ticketStatus id session found ticket inside]
    exact inStep.agrees id session found ticket inside
  apart := leaves.matchSessions ▸ inStep.apart

theorem InStep.withSessionJobs (inStep : world.InStep) (jobs : AsyncJobQueue SessionJob) :
    (world.withSessionJobs jobs).InStep :=
  ⟨inStep.consistent, inStep.whole, inStep.seated, inStep.agrees, inStep.apart⟩

/-- The other registered sessions and their tickets do not see a session move. -/
theorem InStep.moved_other (inStep : world.InStep) (status : MatchTicketStatus) {id : MatchId}
    (found : world.matchSessions.items id = some session) {other : MatchId} {rival : MatchSession}
    (present : world.matchSessions.items other = some rival) (different : rival ≠ session) :
    (world.moved session status).sessionState rival = world.sessionState rival ∧
      ∀ ticket ∈ rival.tickets,
        (world.moved session status).ticketStatus ticket = world.ticketStatus ticket := by
  refine ⟨Function.update_of_ne different .., fun ticket inside => moveAll_of_not_mem ?_⟩
  intro shared
  obtain rfl := inStep.apart id other session rival found present ticket shared inside
  exact different (Option.some.inj (present.symm.trans found))

/-- A session that takes another status of a live session stays in step. -/
theorem InStep.moved (inStep : world.InStep) {id : MatchId}
    (found : world.matchSessions.items id = some session) (seated : status.seated = true) :
    (world.moved session status).InStep where
  consistent := inStep.consistent
  whole := inStep.whole
  seated other rival present := by
    by_cases same : rival = session
    · subst same
      simpa using seated
    · rw [(inStep.moved_other status found present same).1]
      exact inStep.seated other rival present
  agrees other rival present ticket inside := by
    by_cases same : rival = session
    · subst same
      simp [moveAll_of_mem inside]
    · rw [(inStep.moved_other status found present same).1,
        (inStep.moved_other status found present same).2 ticket inside]
      exact inStep.agrees other rival present ticket inside
  apart := inStep.apart

/-- Without a deregistered session, the others are in step. -/
theorem InStep.dropped (inStep : world.InStep) (matchId : MatchId) :
    (world.dropped matchId).InStep := by
  have stored : ∀ {other rival}, (world.dropped matchId).matchSessions.items other = some rival →
      world.matchSessions.items other = some rival := fun found =>
    (Registry.stored_of_erase _ _ found).2
  exact ⟨inStep.consistent.erase matchId, fun other rival present =>
    inStep.whole other rival (stored present), fun other rival present =>
      inStep.seated other rival (stored present), fun other rival present =>
        inStep.agrees other rival (stored present), fun first second left right atFirst atSecond =>
          inStep.apart first second left right (stored atFirst) (stored atSecond)⟩

/-- Without a session that ended, the others are in step. -/
theorem InStep.ended (inStep : world.InStep) {id : MatchId}
    (found : world.matchSessions.items id = some session) :
    (world.ended session status).InStep := by
  have stored : ∀ {other rival},
      (world.ended session status).matchSessions.items other = some rival →
      other ≠ session.matchId ∧ world.matchSessions.items other = some rival :=
    Registry.stored_of_erase _ _
  have different : ∀ {other rival}, other ≠ session.matchId →
      world.matchSessions.items other = some rival → rival ≠ session := by
    rintro other _ away present rfl
    exact away (inStep.consistent.keyed present).symm
  refine ⟨inStep.consistent.erase _, fun other rival present =>
    inStep.whole other rival (stored present).2, fun other rival present => ?_,
    fun other rival present ticket inside => ?_, fun first second left right atFirst atSecond =>
      inStep.apart first second left right (stored atFirst).2 (stored atSecond).2⟩
  · obtain ⟨away, earlier⟩ := stored present
    rw [World.ended_sessionState, ← World.moved_sessionState,
      (inStep.moved_other status found earlier (different away earlier)).1]
    exact inStep.seated other rival earlier
  · obtain ⟨away, earlier⟩ := stored present
    have kept := inStep.moved_other status found earlier (different away earlier)
    rw [World.ended_sessionState, ← World.moved_sessionState, kept.1,
      World.ended_ticketStatus, ← World.moved_ticketStatus, kept.2 ticket inside]
    exact inStep.agrees other rival earlier ticket inside

/-- A response recorded in a session's state leaves it in step. -/
theorem InStep.record (inStep : world.InStep) {state : MatchSessionState}
    (kept : state.status = (world.sessionState session).status) :
    (world.withSessionState session state).InStep := by
  have status : ∀ rival, ((world.withSessionState session state).sessionState rival).status =
      (world.sessionState rival).status := by
    intro rival
    by_cases same : rival = session
    · subst same
      simp [kept]
    · simp [same]
  refine ⟨inStep.consistent, inStep.whole, fun id rival found => ?_,
    fun id rival found ticket inside => ?_, inStep.apart⟩
  · rw [status]
    exact inStep.seated id rival found
  · rw [status]
    exact inStep.agrees id rival found ticket inside

theorem asked_items (fresh : world.matchSessions.Fresh MatchSession.matchId
      MatchSession.ticketPlayers session) :
    (world.asked session).matchSessions.items =
      Function.update world.matchSessions.items session.matchId (some session) := by
  rw [asked, moved_matchSessions, withMatchSessions_matchSessions,
    SessionRegistry.insertMatchSession, Registry.insert_of_fresh _ _ fresh]
  rfl

theorem asked_sessionState_of_ne {rival : MatchSession} (different : rival ≠ session) :
    (world.asked session).sessionState rival = world.sessionState rival := by
  simp [asked, different]

/-- A session opened for searching tickets is in step. -/
theorem InStep.asked (inStep : world.InStep) (whole : session.Whole)
    (searching : ∀ ticket ∈ session.tickets, world.ticketStatus ticket = .searching)
    (fresh : world.matchSessions.Fresh MatchSession.matchId MatchSession.ticketPlayers session) :
    (world.asked session).InStep := by
  have stored : ∀ {id rival}, (world.asked session).matchSessions.items id = some rival →
      id = session.matchId ∧ rival = session ∨
        id ≠ session.matchId ∧ rival ≠ session ∧ world.matchSessions.items id = some rival := by
    intro id rival found
    rw [asked_items fresh] at found
    by_cases own : id = session.matchId
    · rw [own, Function.update_self, Option.some.injEq] at found
      exact Or.inl ⟨own, found.symm⟩
    · rw [Function.update_of_ne own] at found
      refine Or.inr ⟨own, ?_, found⟩
      rintro rfl
      exact own (inStep.consistent.keyed found).symm
  have elsewhere : ∀ {id rival}, world.matchSessions.items id = some rival →
      ∀ ticket ∈ rival.tickets, ticket ∉ session.tickets := by
    intro id rival found ticket inside own
    have seated := inStep.seated id rival found
    rw [← inStep.agrees id rival found ticket inside, searching ticket own] at seated
    cases seated
  refine ⟨?_, fun id rival found => ?_, fun id rival found => ?_,
    fun id rival found ticket inside => ?_,
    fun first second left right atFirst atSecond ticket inLeft inRight => ?_⟩
  · exact inStep.consistent.insert session
  · rcases stored found with ⟨-, rfl⟩ | ⟨-, -, earlier⟩
    · exact whole
    · exact inStep.whole id rival earlier
  · rcases stored found with ⟨-, rfl⟩ | ⟨-, different, earlier⟩
    · simp [World.asked, MatchTicketStatus.seated]
    · rw [asked_sessionState_of_ne different]
      exact inStep.seated id rival earlier
  · rcases stored found with ⟨-, rfl⟩ | ⟨-, different, earlier⟩
    · simp [World.asked, moveAll_of_mem inside]
    · rw [asked_sessionState_of_ne different, World.asked, moved_ticketStatus,
        moveAll_of_not_mem (elsewhere earlier ticket inside)]
      exact inStep.agrees id rival earlier ticket inside
  · rcases stored atFirst with ⟨rfl, rfl⟩ | ⟨-, -, before⟩
    · rcases stored atSecond with ⟨rfl, rfl⟩ | ⟨-, -, after⟩
      · rfl
      · exact (elsewhere after ticket inRight inLeft).elim
    · rcases stored atSecond with ⟨rfl, rfl⟩ | ⟨-, -, after⟩
      · exact (elsewhere before ticket inLeft inRight).elim
      · exact inStep.apart first second left right before after ticket inLeft inRight

/-- **Every move keeps the sessions in step.** -/
theorem SessionMove.inStep (move : world.SessionMove after) (inStep : world.InStep) :
    after.InStep := by
  cases move with
  | stay leaves => exact inStep.leaves leaves
  | «open» whole searching fresh leaves =>
      exact ((inStep.asked whole searching fresh).withSessionJobs _).leaves leaves
  | record found kept => exact inStep.record kept
  | place found asks => exact (inStep.moved found rfl).withSessionJobs _
  | close found can terminal => exact inStep.ended found
  | drop matchId leaves => exact (inStep.dropped matchId).leaves leaves

theorem SessionMoves.inStep (moves : world.SessionMoves after) (inStep : world.InStep) :
    after.InStep := by
  induction moves with
  | refl => exact inStep
  | tail _ move ih => exact move.inStep ih

end InStep

end World

/-- Between complete calls the registered sessions are in step with their tickets. -/
theorem Reached.inStep {deployment : Deployment} {admissible : Call → Prop} {world : World}
    (reached : Reached deployment admissible world) : world.InStep := by
  obtain ⟨-, known, accord⟩ := reached.accord
  have registered := accord.custody.registered
  refine ⟨accord.consistent, fun id session found => accord.whole session (registered id session
    found), fun id session found => (accord.expected id session found).resolve_right ?_,
    fun id session found => accord.agrees session (registered id session found),
    fun first second session rival atFirst atSecond ticket inSession inRival => ?_⟩
  · rintro (⟨member, -⟩ | member)
    · exact Multiset.notMem_zero _ member
    · exact Multiset.notMem_zero _ member
  · obtain rfl := accord.custody.apart session (registered _ _ atFirst) rival
      (registered _ _ atSecond) ticket inSession inRival
    exact (accord.consistent.keyed atFirst).symm.trans (accord.consistent.keyed atSecond)

end MatchmakingMvp
