import MatchmakingMvp.System.SoloGroups

/-! # Sessions seat exactly the tickets of their status

One call after another with server-issued ids, the tickets on their way to a
session are those in the thread's hands, and every other ticket that a session
waits for or places is in the list of exactly one registered session, which has
the same status (`MatchmakingMvp.World.Seated`).
-/

namespace MatchmakingMvp

open Foundation

variable {deployment : Deployment} {permits : MatchTicketRequest → Prop}

/-- A ticket that a session waits for or places. -/
def MatchTicketStatus.seated : MatchTicketStatus → Bool
  | .requiresAcceptance | .placing => true
  | _ => false

/-- A ticket that was claimed for a match that is not over. -/
def MatchTicketStatus.inPlay : MatchTicketStatus → Bool
  | .searching | .requiresAcceptance | .placing => true
  | _ => false

theorem MatchTicketStatus.seated_iff {status : MatchTicketStatus} :
    status.seated = true ↔ status = .requiresAcceptance ∨ status = .placing := by
  cases status <;> decide

theorem MatchTicketStatus.inPlay_of_seated {status : MatchTicketStatus}
    (seated : status.seated = true) : status.inPlay = true := by
  revert seated
  cases status <;> decide

theorem MatchTicketStatus.not_terminal_of_inPlay {status : MatchTicketStatus}
    (play : status.inPlay = true) : status.terminal = false := by
  revert play
  cases status <;> decide

/-- No ticket pointer is null, and one of the tickets gave the session its id. -/
structure MatchSession.Whole (session : MatchSession) : Prop where
  pointers : session.matchTicketList = session.tickets.map some
  named : ∃ ticket ∈ session.tickets, ticket.matchTicketId = session.matchId

/-- The claimed tickets in the thread's hands. -/
def Stage.engages : Stage → List MatchTicket
  | .claimed _ _ tickets | .failing tickets => tickets
  | .opened _ _ session _ | .inserted _ _ session => session.tickets
  | .free _ | .starting _ _ _ | .closing _ _ => []

/-- The statuses a registered session may have. A thread that has just registered a
session has not changed it yet, and one that has ended a session has not
deregistered it yet. -/
def Stage.expects : Stage → MatchSession → MatchTicketStatus → Bool
  | .inserted _ _ own, session, status =>
      if session = own then decide (status = .searching) else status.seated
  | .closing _ own, session, status =>
      if session = own then status.terminal else status.seated
  | _, _, status => status.seated

/-- What a thread knows about the session it holds. -/
def World.Grasps (world : World) : Stage → Prop
  | .free (some (matchId, session)) => world.matchSessions.items matchId = some session
  | .opened _ _ session forced => session.Whole ∧
      (forced = true → (world.sessionState session).status = .searching)
  | .inserted _ _ session => world.matchSessions.items session.matchId = some session
  | .closing matchId session => world.matchSessions.items matchId = some session
  | _ => True

/-- Claimed tickets are in the thread's hands or in one registered session of the
same status. -/
structure World.Seated (world : World) (stage : Stage) : Prop where
  searching : ∀ ticket, world.ticketStatus ticket = .searching ↔ ticket ∈ stage.engages
  distinct : stage.engages.Nodup
  whole : ∀ id session, world.matchSessions.items id = some session →
    session.matchId = id ∧ session.Whole
  agrees : ∀ id session, world.matchSessions.items id = some session →
    ∀ ticket ∈ session.tickets, world.ticketStatus ticket = (world.sessionState session).status
  expected : ∀ id session, world.matchSessions.items id = some session →
    stage.expects session (world.sessionState session).status = true
  seats : ∀ ticket, (world.ticketStatus ticket).seated = true →
    ∃ id session, world.matchSessions.items id = some session ∧ ticket ∈ session.tickets
  apart : ∀ first second session rival, world.matchSessions.items first = some session →
    world.matchSessions.items second = some rival →
    ∀ ticket ∈ session.tickets, ticket ∈ rival.tickets → first = second
  grasps : world.Grasps stage

theorem Stage.inPlay_or_terminal {stage : Stage} {session : MatchSession}
    {status : MatchTicketStatus} (expected : stage.expects session status = true) :
    status.inPlay = true ∨ status.terminal = true := by
  revert expected
  cases stage with
  | inserted queue group own =>
      simp only [expects]
      split_ifs
      · intro searching
        exact Or.inl (by rw [of_decide_eq_true searching]; rfl)
      · exact fun seated => Or.inl (MatchTicketStatus.inPlay_of_seated seated)
  | closing matchId own =>
      simp only [expects]
      split_ifs
      · exact Or.inr
      · exact fun seated => Or.inl (MatchTicketStatus.inPlay_of_seated seated)
  | _ => exact fun seated => Or.inl (MatchTicketStatus.inPlay_of_seated seated)

section Frames

variable {before after : World} {stage stage' : Stage}

/-- Sections that leave sessions and claimed tickets alone. -/
theorem World.Seated.of_calm (seated : before.Seated stage)
    (sessions : after.matchSessions = before.matchSessions)
    (states : ∀ id session, before.matchSessions.items id = some session →
      (after.sessionState session).status = (before.sessionState session).status)
    (calm : ∀ ticket, after.ticketStatus ticket = before.ticketStatus ticket ∨
      (before.ticketStatus ticket).departed = false ∧
        (after.ticketStatus ticket).inPlay = false)
    (engages : stage'.engages = stage.engages) (expects : stage'.expects = stage.expects)
    (grasps : after.Grasps stage') : after.Seated stage' := by
  have waits : ∀ {status : MatchTicketStatus}, status.departed = false →
      status.inPlay = false ∧ status.terminal = false := by
    intro status
    cases status <;> decide
  have agreed : ∀ ticket, (before.ticketStatus ticket).inPlay = true ∨
      (before.ticketStatus ticket).terminal = true →
      after.ticketStatus ticket = before.ticketStatus ticket := by
    intro ticket play
    rcases calm ticket with same | ⟨waiting, -⟩
    · exact same
    · obtain ⟨idle, lively⟩ := waits waiting
      rw [idle, lively] at play
      rcases play with play | play <;> cases play
  have same : ∀ {status : MatchTicketStatus}, status.inPlay = true → ∀ ticket,
      after.ticketStatus ticket = status ↔ before.ticketStatus ticket = status := by
    intro status play ticket
    rcases calm ticket with same | ⟨waiting, idle⟩
    · rw [same]
    · refine iff_of_false ?_ ?_
      · rintro rfl
        rw [idle] at play
        cases play
      · rintro rfl
        rw [(waits waiting).1] at play
        cases play
  refine ⟨fun ticket => ?_, engages ▸ seated.distinct, ?_, ?_, ?_, fun ticket live => ?_, ?_,
    grasps⟩
  · rw [same rfl, engages]
    exact seated.searching ticket
  · rw [sessions]
    exact seated.whole
  · rw [sessions]
    intro id session found ticket inside
    have agrees := seated.agrees id session found ticket inside
    rw [states id session found, ← agrees]
    refine agreed ticket ?_
    rw [agrees]
    exact Stage.inPlay_or_terminal (seated.expected id session found)
  · rw [sessions, expects]
    intro id session found
    rw [states id session found]
    exact seated.expected id session found
  · rw [sessions]
    have play := MatchTicketStatus.inPlay_of_seated live
    refine seated.seats ticket ?_
    rw [(same play ticket).mp rfl]
    exact live
  · rw [sessions]
    exact seated.apart

/-- Claiming queued tickets for a thread without any. -/
theorem World.Seated.claim (seated : before.Seated stage) (empty : stage.engages = [])
    (sessions : after.matchSessions = before.matchSessions)
    (states : after.sessionState = before.sessionState) {tickets : List MatchTicket}
    (nodup : tickets.Nodup) (queued : ∀ ticket ∈ tickets, before.ticketStatus ticket = .queued)
    (moved : after.ticketStatus = moveAll tickets .searching before.ticketStatus)
    (engages : stage'.engages.Perm tickets) (expects : stage'.expects = stage.expects)
    (grasps : after.Grasps stage') : after.Seated stage' := by
  have kept : ∀ ticket, ticket ∉ tickets →
      after.ticketStatus ticket = before.ticketStatus ticket := fun ticket outside => by
    rw [moved, moveAll_of_not_mem outside]
  have outside : ∀ {ticket}, before.ticketStatus ticket ≠ .queued → ticket ∉ tickets :=
    fun unqueued inside => unqueued (queued _ inside)
  refine ⟨fun ticket => ?_, engages.nodup_iff.mpr nodup, ?_, ?_, ?_, fun ticket live => ?_, ?_,
    grasps⟩
  · rw [engages.mem_iff]
    by_cases inside : ticket ∈ tickets
    · simp [moved, moveAll_of_mem inside, inside]
    · rw [kept ticket inside, seated.searching ticket, empty]
      exact iff_of_false List.not_mem_nil inside
  · rw [sessions]
    exact seated.whole
  · rw [sessions, states]
    intro id session found ticket inside
    rw [← seated.agrees id session found ticket inside]
    refine kept ticket (outside ?_)
    rw [seated.agrees id session found ticket inside]
    intro same
    have expected := Stage.inPlay_or_terminal (seated.expected id session found)
    rw [same] at expected
    rcases expected with expected | expected <;> cases expected
  · rw [sessions, states, expects]
    exact seated.expected
  · rw [sessions]
    by_cases inside : ticket ∈ tickets
    · rw [moved, moveAll_of_mem inside] at live
      cases live
    · rw [kept ticket inside] at live
      exact seated.seats ticket live
  · rw [sessions]
    exact seated.apart

/-- A session that changes together with its tickets, which the thread lets go of. -/
theorem World.Seated.change (seated : before.Seated stage) {id : MatchId}
    {session : MatchSession} (status : MatchTicketStatus)
    (found : before.matchSessions.items id = some session)
    (sessions : after.matchSessions = before.matchSessions)
    (state : (after.sessionState session).status = status)
    (states : ∀ other, other ≠ session → after.sessionState other = before.sessionState other)
    (moved : after.ticketStatus = moveAll session.tickets status before.ticketStatus)
    (target : status ≠ .searching) (taken : ∀ ticket ∈ stage.engages, ticket ∈ session.tickets)
    (engages : stage'.engages = []) (expects : stage'.expects session status = true)
    (others : ∀ other status, other ≠ session → stage.expects other status = true →
      stage'.expects other status = true)
    (grasps : after.Grasps stage') : after.Seated stage' := by
  have kept : ∀ ticket, ticket ∉ session.tickets →
      after.ticketStatus ticket = before.ticketStatus ticket := fun ticket outside => by
    rw [moved, moveAll_of_not_mem outside]
  have own : ∀ ticket ∈ session.tickets, after.ticketStatus ticket = status :=
    fun ticket inside => by rw [moved, moveAll_of_mem inside]
  refine ⟨fun ticket => ?_, by rw [engages]; exact List.nodup_nil, ?_, ?_, ?_,
    fun ticket live => ?_, ?_, grasps⟩
  · rw [engages]
    refine iff_of_false (fun searching => ?_) List.not_mem_nil
    by_cases inside : ticket ∈ session.tickets
    · exact target ((own ticket inside).symm.trans searching)
    · rw [kept ticket inside, seated.searching] at searching
      exact inside (taken ticket searching)
  · rw [sessions]
    exact seated.whole
  · rw [sessions]
    intro other rival stored ticket inside
    by_cases same : rival = session
    · subst same
      rw [own ticket inside, state]
    · rw [states rival same, kept ticket]
      · exact seated.agrees other rival stored ticket inside
      · intro shared
        obtain rfl := seated.apart id other session rival found stored ticket shared inside
        exact same (Option.some.inj (stored.symm.trans found))
  · rw [sessions]
    intro other rival stored
    by_cases same : rival = session
    · subst same
      rw [state]
      exact expects
    · rw [states rival same]
      exact others rival _ same (seated.expected other rival stored)
  · rw [sessions]
    by_cases inside : ticket ∈ session.tickets
    · exact ⟨id, session, found, inside⟩
    · rw [kept ticket inside] at live
      exact seated.seats ticket live
  · rw [sessions]
    exact seated.apart

end Frames

section Steps

variable {world : World}

theorem World.Seated.not_registered {queue : QueueKind} {group : WorkerGroup}
    {session : MatchSession} {forced : Bool}
    (seated : world.Seated (.opened queue group session forced)) (id : MatchId) :
    world.matchSessions.items id ≠ some session := by
  intro found
  obtain ⟨ticket, inside, -⟩ := seated.grasps.1.named
  have searching := (seated.searching ticket).mpr inside
  have expected := seated.expected id session found
  rw [← seated.agrees id session found ticket inside, searching] at expected
  cases expected

/-- **A session that its thread registers.** -/
theorem World.Seated.insert {queue : QueueKind} {group : WorkerGroup} {session : MatchSession}
    (seated : world.Seated (.opened queue group session true))
    (inserted : (world.matchSessions.insertMatchSession session).1 = true) :
    (perform (.insertMatchSession session) world).Seated (.inserted queue group session) := by
  have fresh := (Registry.insert_fst_iff _ _).mp inserted
  obtain ⟨whole, forced⟩ := seated.grasps
  have items : (perform (.insertMatchSession session) world).matchSessions.items =
      Function.update world.matchSessions.items session.matchId (some session) := by
    simp only [perform, World.withMatchSessions_matchSessions]
    rw [SessionRegistry.insertMatchSession, Registry.insert_of_fresh _ _ fresh]
    rfl
  have stored : ∀ {id rival},
      (perform (.insertMatchSession session) world).matchSessions.items id = some rival →
      id = session.matchId ∧ rival = session ∨ rival ≠ session ∧
        world.matchSessions.items id = some rival := by
    intro id rival found
    rw [items] at found
    by_cases own : id = session.matchId
    · rw [own, Function.update_self, Option.some.injEq] at found
      exact Or.inl ⟨own, found.symm⟩
    · rw [Function.update_of_ne own] at found
      refine Or.inr ⟨?_, found⟩
      rintro rfl
      exact own (seated.whole id rival found).1.symm
  have searching : ∀ ticket ∈ session.tickets, world.ticketStatus ticket = .searching :=
    fun ticket inside => (seated.searching ticket).mpr inside
  have elsewhere : ∀ {id rival}, world.matchSessions.items id = some rival →
      ∀ ticket ∈ rival.tickets, ticket ∉ session.tickets := by
    intro id rival found ticket inside own
    have expected := seated.expected id rival found
    rw [← seated.agrees id rival found ticket inside, searching ticket own] at expected
    cases expected
  refine ⟨seated.searching, seated.distinct, fun id rival found => ?_,
    fun id rival found ticket inside => ?_, fun id rival found => ?_, fun ticket live => ?_,
    fun first second left right atFirst atSecond ticket inLeft inRight => ?_, ?_⟩
  · rcases stored found with ⟨rfl, rfl⟩ | ⟨-, earlier⟩
    · exact ⟨rfl, whole⟩
    · exact seated.whole id rival earlier
  · rcases stored found with ⟨rfl, rfl⟩ | ⟨-, earlier⟩
    · exact (searching ticket inside).trans (forced rfl).symm
    · exact seated.agrees id rival earlier ticket inside
  · rcases stored found with ⟨rfl, rfl⟩ | ⟨different, earlier⟩
    · rw [Stage.expects, if_pos rfl, decide_eq_true_eq]
      exact forced rfl
    · rw [Stage.expects, if_neg different]
      exact seated.expected id rival earlier
  · obtain ⟨id, rival, found, inside⟩ := seated.seats ticket live
    refine ⟨id, rival, ?_, inside⟩
    rw [items, Function.update_of_ne]
    · exact found
    · rintro rfl
      rw [fresh.id] at found
      cases found
  · rcases stored atFirst with ⟨rfl, rfl⟩ | ⟨-, before⟩
    · rcases stored atSecond with ⟨rfl, rfl⟩ | ⟨-, after⟩
      · rfl
      · exact (elsewhere after ticket inRight inLeft).elim
    · rcases stored atSecond with ⟨rfl, rfl⟩ | ⟨-, after⟩
      · exact (elsewhere before ticket inLeft inRight).elim
      · exact seated.apart first second left right before after ticket inLeft inRight
  · rw [World.Grasps, items]
    exact Function.update_self ..

/-- **A session that has ended** and is deregistered. -/
theorem World.Seated.close {id : MatchId} {session : MatchSession}
    (seated : world.Seated (.closing id session)) :
    (perform (.eraseMatchSession id) world).Seated (.free none) := by
  have found : world.matchSessions.items id = some session := seated.grasps
  have stored : ∀ {other rival},
      (perform (.eraseMatchSession id) world).matchSessions.items other = some rival →
      other ≠ id ∧ world.matchSessions.items other = some rival := Registry.stored_of_erase _ _
  have different : ∀ {other rival}, other ≠ id →
      world.matchSessions.items other = some rival → rival ≠ session := by
    rintro other _ away present rfl
    exact away ((seated.whole other _ present).1.symm.trans (seated.whole id _ found).1)
  refine ⟨seated.searching, seated.distinct,
    fun other rival present => seated.whole other rival (stored present).2,
    fun other rival present => seated.agrees other rival (stored present).2,
    fun other rival present => ?_, fun ticket live => ?_,
    fun first second left right atFirst atSecond =>
      seated.apart first second left right (stored atFirst).2 (stored atSecond).2, trivial⟩
  · obtain ⟨away, earlier⟩ := stored present
    have expected := seated.expected other rival earlier
    rwa [Stage.expects, if_neg (different away earlier)] at expected
  · obtain ⟨other, rival, present, inside⟩ := seated.seats ticket live
    refine ⟨other, rival, ?_, inside⟩
    simp only [perform, World.withMatchSessions_matchSessions]
    rw [SessionRegistry.eraseMatchSession, Registry.erase_items, Function.update_of_ne]
    · exact present
    · rintro rfl
      obtain rfl := Option.some.inj (present.symm.trans found)
      have expected := seated.expected other rival found
      rw [Stage.expects, if_pos rfl, ← seated.agrees other rival found ticket inside] at expected
      have lively : (world.ticketStatus ticket).terminal = false :=
        MatchTicketStatus.not_terminal_of_inPlay (MatchTicketStatus.inPlay_of_seated live)
      rw [lively] at expected
      cases expected

theorem MatchSession.Whole.changeable {session : MatchSession} (whole : session.Whole)
    {status current : MatchTicketStatus} {state : MatchSessionState} {statuses : TicketStatuses}
    (can : canChangeStatus current status = true) (own : state.status = current)
    (agrees : ∀ ticket ∈ session.tickets, statuses ticket = current) :
    session.Changeable status state statuses := by
  refine ⟨own ▸ can, fun pointer inside => ?_⟩
  rw [whole.pointers] at inside
  obtain ⟨ticket, member, rfl⟩ := List.mem_map.mp inside
  exact ⟨ticket, rfl, (agrees ticket member).symm ▸ can⟩

/-- What a change of a session does to the state. -/
theorem perform_changeSessionStatus {session : MatchSession} {status : MatchTicketStatus}
    (changeable : session.Changeable status (world.sessionState session) world.ticketStatus) :
    (world.changeSessionStatus session status).1 = true ∧
      perform (.changeSessionStatus session status) world =
        (world.withSessionState session { world.sessionState session with status := status }
          ).withTicketStatus (moveAll session.tickets status world.ticketStatus) := by
  have result : world.changeSessionStatus session status = (true,
      { world.sessionState session with status := status },
      moveAll session.tickets status world.ticketStatus) :=
    MatchSession.changeStatus_of_changeable changeable
  exact ⟨by rw [result], by rw [perform, result]⟩

theorem perform_changeSessionStatus_of_stuck {session : MatchSession}
    {status : MatchTicketStatus}
    (stuck : ¬ session.Changeable status (world.sessionState session) world.ticketStatus) :
    (world.changeSessionStatus session status).1 = false ∧
      perform (.changeSessionStatus session status) world = world := by
  have result : world.changeSessionStatus session status = (false, world.sessionState session,
      world.ticketStatus) := MatchSession.changeStatus_of_not_changeable stuck
  refine ⟨by rw [result], ?_⟩
  rw [perform, result]
  simp only [World.withSessionState, World.withTicketStatus, Function.update_eq_self]

/-- **A new session** asks its players. -/
theorem World.Seated.require {queue : QueueKind} {group : WorkerGroup} {session : MatchSession}
    (seated : world.Seated (.inserted queue group session)) :
    (world.changeSessionStatus session .requiresAcceptance).1 = true ∧
      (perform (.changeSessionStatus session .requiresAcceptance) world).Seated (.free none) := by
  have found : world.matchSessions.items session.matchId = some session := seated.grasps
  have expected := seated.expected _ _ found
  rw [Stage.expects, if_pos rfl, decide_eq_true_eq] at expected
  obtain ⟨accepted, effect⟩ := perform_changeSessionStatus
    ((seated.whole _ _ found).2.changeable
      (rfl : canChangeStatus .searching .requiresAcceptance = true) expected
      fun ticket inside => (seated.searching ticket).mpr inside)
  refine ⟨accepted, seated.change .requiresAcceptance found ?_ ?_ ?_ ?_ (by decide)
    (fun _ => id) rfl rfl ?_ trivial⟩
  · rw [effect]
    rfl
  · rw [effect]
    simp
  · intro other different
    rw [effect]
    simp [different]
  · rw [effect]
    rfl
  · intro other status different
    rw [Stage.expects, if_neg different]
    exact id

/-- **A registered session** that is placed or ends, if it can. -/
theorem World.Seated.changeStatus {matchId : MatchId} {session : MatchSession}
    {status : MatchTicketStatus} (seated : world.Seated (.free (some (matchId, session))))
    (target : status = .placing ∨ status.terminal = true) :
    (perform (.changeSessionStatus session status) world).Seated
      (if status.terminal ∧ (world.changeSessionStatus session status).1 then
        .closing matchId session else .free none) := by
  have found : world.matchSessions.items matchId = some session := seated.grasps
  by_cases changeable : session.Changeable status (world.sessionState session) world.ticketStatus
  · obtain ⟨accepted, effect⟩ := perform_changeSessionStatus changeable
    have changed : ∀ stage', stage'.engages = [] → stage'.expects session status = true →
        (∀ other status, other ≠ session → status.seated = true →
          stage'.expects other status = true) →
        (perform (.changeSessionStatus session status) world).Grasps stage' →
        (perform (.changeSessionStatus session status) world).Seated stage' := by
      intro stage' engages expects others grasps
      refine seated.change status found ?_ ?_ ?_ ?_ ?_ nofun engages expects others
        grasps
      · rw [effect]
        rfl
      · rw [effect]
        simp
      · intro other different
        rw [effect]
        simp [different]
      · rw [effect]
        rfl
      · rintro rfl
        rcases target with target | target <;> cases target
    rcases target with rfl | terminal
    · rw [if_neg (by simp [MatchTicketStatus.terminal])]
      exact changed _ rfl rfl (fun _ _ _ => id) trivial
    · rw [if_pos ⟨terminal, accepted⟩]
      refine changed _ rfl ?_ (fun other status different => ?_) ?_
      · rw [Stage.expects, if_pos rfl]
        exact terminal
      · rw [Stage.expects, if_neg different]
        exact id
      · rw [effect]
        exact found
  · obtain ⟨refused, effect⟩ := perform_changeSessionStatus_of_stuck changeable
    rw [if_neg (by simp [refused]), effect]
    exact seated.of_calm rfl (fun _ _ _ => rfl) (fun _ => Or.inl rfl) rfl rfl trivial

variable {step : Section} {stage stage' : Stage}

/-- A thread that starts a ticket has not queued it in vain: it is not departed. -/
theorem World.SoloHeld.waits (held : world.SoloHeld deployment stage) (awaits : world.Awaits stage)
    {queue : QueueKind} {ticket : MatchTicket} (submits : stage.submits = some (queue, ticket)) :
    (world.ticketStatus ticket).departed = false := by
  cases queue with
  | solo =>
      rcases (held.submitting ticket submits).2 with status | status <;> rw [status] <;> rfl
  | party =>
      cases stage with
      | starting queue other base =>
          cases submits
          rw [awaits.2.1]
          rfl
      | _ => cases submits

/-- A failing ticket is searching, and no session is registered under its id. -/
theorem World.Seated.unseat {tickets : List MatchTicket} {ticket : MatchTicket}
    (seated : world.Seated (.failing tickets)) (sound : world.Sound deployment permits)
    (serverIssues : ServerIssues permits) (member : ticket ∈ tickets) :
    world.matchSessions.items ticket.matchTicketId = none := by
  by_contra present
  obtain ⟨session, found⟩ := Option.ne_none_iff_exists'.mp present
  obtain ⟨keyed, whole⟩ := seated.whole _ _ found
  obtain ⟨other, inside, same⟩ := whole.named
  have expected := seated.expected _ _ found
  rw [← seated.agrees _ _ found other inside] at expected
  have searching := (seated.searching ticket).mpr member
  obtain ⟨_, made⟩ := sound.started ticket (by rw [searching]; exact nofun)
  obtain ⟨_, otherMade⟩ := sound.started other (by
    intro unqueued
    rw [unqueued] at expected
    cases expected)
  obtain rfl := (sound.eq_of_matchTicketId serverIssues otherMade made (same.trans keyed)).2
  rw [searching] at expected
  cases expected

/-- **A failing ticket** fails. -/
theorem World.Seated.fail {ticket : MatchTicket} {rest : List MatchTicket}
    (seated : world.Seated (.failing (ticket :: rest))) :
    (perform (.changeTicketStatus ticket .failed) world).Seated (.failing rest) := by
  obtain ⟨outside, distinct⟩ := List.nodup_cons.mp seated.distinct
  have searching : world.ticketStatus ticket = .searching :=
    (seated.searching ticket).mpr List.mem_cons_self
  have statuses : (perform (.changeTicketStatus ticket .failed) world).ticketStatus =
      Function.update world.ticketStatus ticket .failed := by
    rw [perform, MatchTicket.changeStatus_of_can (by rw [searching]; rfl)]
    rfl
  refine ⟨fun other => ?_, distinct, seated.whole, fun id session found other inside => ?_,
    seated.expected, fun other live => ?_, seated.apart, trivial⟩
  · rw [statuses]
    by_cases own : other = ticket
    · subst own
      simpa [Stage.engages] using outside
    · rw [Function.update_of_ne own, seated.searching other]
      simp [Stage.engages, own]
  · rw [statuses, Function.update_of_ne]
    · exact seated.agrees id session found other inside
    · rintro rfl
      have expected := seated.expected id session found
      rw [← seated.agrees id session found other inside, searching] at expected
      cases expected
  · rw [statuses] at live
    by_cases own : other = ticket
    · rw [own, Function.update_self] at live
      cases live
    · rw [Function.update_of_ne own] at live
      exact seated.seats other live

/-- A change to a status outside the match leaves a ticket as it was, or the ticket waited. -/
theorem MatchTicket.changeStatus_outside {statuses : TicketStatuses} {ticket : MatchTicket}
    {status : MatchTicketStatus} (outside : status.inPlay = false)
    (waits : canChangeStatus (statuses ticket) status = true →
      (statuses ticket).departed = false) (other : MatchTicket) :
    (ticket.changeStatus status statuses).2 other = statuses other ∨
      (statuses other).departed = false ∧
        ((ticket.changeStatus status statuses).2 other).inPlay = false := by
  by_cases own : other = ticket
  · subst own
    cases can : canChangeStatus (statuses other) status with
    | true =>
        rw [MatchTicket.changeStatus_of_can can]
        refine Or.inr ⟨waits can, ?_⟩
        simp only [Function.update_self]
        exact outside
    | false => exact Or.inl (by rw [MatchTicket.changeStatus_of_cannot can])
  · exact Or.inl (MatchTicket.changeStatus_of_ne own)

theorem not_departed_of_cancellable {status : MatchTicketStatus}
    (can : canChangeStatus status .cancelled = true) : status.departed = false := by
  rcases canChangeStatus_cancelled_iff.mp can with rfl | rfl <;> rfl

/-- Neutral sections leave the seats alone. -/
theorem World.Seated.neutral (seated : world.Seated stage) (neutral : step.neutral = true) :
    (perform step world).Seated stage := by
  have same := sameMatchmaking_of_neutral neutral world
  refine seated.of_calm same.matchSessions (fun _ session _ => same.sessionStatus session)
    (fun ticket => Or.inl (by rw [same.ticketStatus])) rfl rfl ?_
  have grasps := seated.grasps
  cases stage with
  | free held =>
      cases held with
      | none => trivial
      | some entry => exact (congrFun (congrArg _ same.matchSessions) _).trans grasps
  | opened queue group session forced =>
      exact ⟨grasps.1, fun set => (same.sessionStatus session).trans (grasps.2 set)⟩
  | inserted queue group session | closing matchId session =>
      exact (congrFun (congrArg _ same.matchSessions) _).trans grasps
  | _ => trivial

/-- **A session object** is made for the tickets in the thread's hands. -/
theorem World.Seated.openSession {queue : QueueKind} {group : WorkerGroup} {tickets : TicketSet}
    (seated : world.Seated (.claimed queue group tickets.1)) {matchZoneId : String}
    {worldNo : Int} {matchId : MatchId}
    (named : tickets.1.head?.map MatchTicket.matchTicketId = some matchId) :
    (perform (.newMatchSession matchZoneId worldNo matchId tickets) world).Seated
      (.opened queue group (world.newMatchSession matchZoneId worldNo matchId tickets) false) := by
  have listed := world.newMatchSession_tickets matchZoneId worldNo matchId tickets
  refine seated.of_calm rfl (fun _ _ _ => rfl) (fun _ => Or.inl rfl) listed rfl
    ⟨⟨?_, ?_⟩, Bool.noConfusion⟩
  · rw [listed]
    rfl
  · obtain ⟨ticket, first, id⟩ := Option.map_eq_some_iff.mp named
    rw [listed]
    exact ⟨ticket, List.mem_of_mem_head? first, id⟩

/-- The status of a session object is set before it is registered. -/
theorem World.Seated.force {queue : QueueKind} {group : WorkerGroup} {session : MatchSession}
    {forced : Bool} (seated : world.Seated (.opened queue group session forced)) :
    (perform (.forceSessionStatus session .searching) world).Seated
      (.opened queue group session true) := by
  refine seated.of_calm rfl (fun id other found => ?_) (fun _ => Or.inl rfl) rfl rfl
    ⟨seated.grasps.1, fun _ => ?_⟩
  · have different : other ≠ session := by
      rintro rfl
      exact seated.not_registered id found
    simp [perform, different]
  · simp [perform]

/-- A rejected session is not registered. -/
theorem World.Seated.reject {queue : QueueKind} {group : WorkerGroup} {session : MatchSession}
    (seated : world.Seated (.opened queue group session true))
    (rejected : (world.matchSessions.insertMatchSession session).1 = false) :
    (perform (.insertMatchSession session) world).Seated (.failing session.tickets) := by
  have stale := mt (Registry.insert_fst_iff MatchSession.matchId
    MatchSession.ticketPlayers).mpr (Bool.eq_false_iff.mp rejected)
  refine seated.of_calm ?_ (fun _ _ _ => rfl) (fun _ => Or.inl rfl) rfl rfl trivial
  simp only [perform, World.withMatchSessions_matchSessions]
  rw [SessionRegistry.insertMatchSession, Registry.insert_of_not_fresh _ _ stale]

theorem Issues.seated (issues : Issues deployment permits step world stage stage')
    (sound : world.Sound deployment permits) (serverIssues : ServerIssues permits)
    (party : world.PartyHeld deployment) (solo : world.SoloHeld deployment stage)
    (awaits : world.Awaits stage) (seated : world.Seated stage) :
    (perform step world).Seated stage' := by
  cases issues with
  | neutral neutral => exact seated.neutral neutral
  | hold found => exact seated.of_calm rfl (fun _ _ _ => rfl) (fun _ => Or.inl rfl) rfl rfl found
  | make | register | unregister | assign =>
      exact seated.of_calm rfl (fun _ _ _ => rfl) (fun _ => Or.inl rfl) rfl rfl trivial
  | queue made =>
      exact seated.of_calm rfl (fun _ _ _ => rfl)
        (MatchTicket.changeStatus_outside rfl fun _ => solo.waits awaits rfl) rfl rfl trivial
  | soloEnqueue carried assigned =>
      rw [if_pos (solo.enqueue sound serverIssues rfl carried assigned).1]
      exact seated.of_calm rfl (fun _ _ _ => rfl) (fun _ => Or.inl rfl) rfl rfl trivial
  | @partyEnqueue _ ticket _ _ carried assigned =>
      obtain ⟨accepted, statuses, -⟩ :=
        party.enqueue sound serverIssues carried assigned awaits.2.1 awaits.2.2
      rw [if_pos accepted]
      refine seated.of_calm rfl (fun _ _ _ => rfl) (fun other => ?_) rfl rfl trivial
      rw [statuses]
      by_cases own : other = ticket
      · subst own
        refine Or.inr ⟨solo.waits awaits rfl, ?_⟩
        rw [Function.update_self]
        rfl
      · exact Or.inl (Function.update_of_ne own _ _)
  | abandon made =>
      exact seated.of_calm rfl (fun _ _ _ => rfl)
        (MatchTicket.changeStatus_outside rfl fun _ => solo.waits awaits rfl) rfl rfl trivial
  | forget =>
      exact seated.of_calm rfl (fun _ _ _ => rfl) (fun _ => Or.inl rfl) rfl rfl seated.grasps
  | @soloCancel _ _ ticket group index made served assigned =>
      refine seated.of_calm rfl (fun _ _ _ => rfl) (fun other => ?_) rfl rfl seated.grasps
      rw [show (perform (.soloCancel group index ticket) world).ticketStatus = _ from
        SoloMatchmakingWorker.cancel_statuses]
      exact MatchTicket.changeStatus_outside rfl not_departed_of_cancellable other
  | @partyCancel _ _ ticket group made served =>
      refine seated.of_calm rfl (fun _ _ _ => rfl) (fun other => ?_) rfl rfl seated.grasps
      rw [show (perform (.partyCancel group ticket) world).ticketStatus = _ from
        PartyMatchmakingWorkerGroup.cancelMatchTicket_statuses]
      exact MatchTicket.changeStatus_outside rfl not_departed_of_cancellable other
  | partyExpand served =>
      exact seated.of_calm rfl (fun _ _ _ => rfl) (fun _ => Or.inl rfl) rfl rfl seated.grasps
  | soloWait served present outcome =>
      have free : (Stage.free none).submits = none := rfl
      rcases (solo.run sound serverIssues rfl free served).1 with
        ⟨-, statuses⟩ | ⟨tickets, matched, -⟩
      · exact seated.of_calm rfl (fun _ _ _ => rfl)
          (fun ticket => Or.inl (congrFun statuses ticket)) rfl rfl seated.grasps
      · rw [outcome] at matched
        cases matched
  | soloClaim served present outcome listing =>
      have free : (Stage.free none).submits = none := rfl
      rcases (solo.run sound serverIssues rfl free served).1 with
        ⟨incomplete, -⟩ | ⟨tickets, matched, nodup, queued, statuses⟩
      · rw [outcome] at incomplete
        cases incomplete
      · rw [outcome] at matched
        cases matched
        exact seated.claim rfl rfl rfl nodup queued statuses listing rfl trivial
  | soloReject served present outcome =>
      have free : (Stage.free none).submits = none := rfl
      rcases (solo.run sound serverIssues rfl free served).1 with
        ⟨incomplete, -⟩ | ⟨tickets, matched, -⟩
      · rw [outcome] at incomplete
        cases incomplete
      · rw [outcome] at matched
        cases matched
  | partyRefuse refused =>
      rw [World.partyCommit_of_refused refused]
      exact seated
  | partyClaim committed carried requested listing =>
      subst requested
      obtain ⟨queued, nodup, statuses, -⟩ := party.commit sound serverIssues committed carried
      exact seated.claim rfl rfl rfl nodup queued statuses listing rfl trivial
  | enter => exact seated.of_calm rfl (fun _ _ _ => rfl) (fun _ => Or.inl rfl) rfl rfl trivial
  | openSession named => exact seated.openSession named
  | force => exact seated.force
  | insert _ _ _ _ _ inserted => exact seated.insert inserted
  | reject rejected => exact seated.reject rejected
  | unseat member =>
      refine seated.of_calm ?_ (fun _ _ _ => rfl) (fun _ => Or.inl rfl) rfl rfl trivial
      simp only [perform, World.withMatchSessions_matchSessions]
      rw [SessionRegistry.eraseMatchSession,
        Registry.erase_of_absent _ _ (seated.unseat sound serverIssues member)]
  | fail => exact seated.fail
  | require => exact seated.require.2
  | change _ target => exact seated.changeStatus target
  | close => exact seated.close

end Steps

/-! ## One call after another -/

/-- What holds while a single thread runs: tickets are where their statuses say,
apart from those in the thread's hands. -/
structure World.Settled (deployment : Deployment) (world : World) (stage : Stage) : Prop where
  party : world.PartyHeld deployment
  awaits : world.Awaits stage
  solo : world.SoloHeld deployment stage
  prompt : world.Prompt stage
  seated : world.Seated stage

section Settled

variable {step : Section} {world : World} {stage stage' : Stage}

/-- **Every section of a thread that runs alone keeps the tickets settled.** -/
theorem World.Settled.perform (settled : world.Settled deployment stage)
    (issues : Issues deployment permits step world stage stage')
    (sound : world.Sound deployment permits) (serverIssues : ServerIssues permits) :
    (perform step world).Settled deployment stage' where
  party := issues.partyHeld sound serverIssues settled.party settled.awaits (by
    rintro group ticket rfl
    cases issues with
    | neutral neutral => cases neutral
    | partyCancel made => exact fun unqueued => nomatch settled.prompt _ _ made unqueued)
  awaits := (issues.awaits sound serverIssues settled.party settled.awaits).1
  solo := issues.soloHeld sound serverIssues settled.solo settled.prompt
  prompt := issues.prompt settled.prompt
  seated := issues.seated sound serverIssues settled.party settled.solo settled.awaits
    settled.seated

theorem World.Settled.initial : ({} : World).Settled deployment (.free none) where
  party := ⟨fun _ _ _ => PartyMatchmakingWorker.Holds.default fun _ inside =>
    List.not_mem_nil inside.1.1.1, fun _ => le_refl _⟩
  awaits := trivial
  solo := ⟨fun _ _ _ => SoloMatchmakingWorker.Holds.default fun _ inside =>
    List.not_mem_nil inside.1.1.1.1, nofun⟩
  prompt := fun _ _ made => (List.not_mem_nil made).elim
  seated := ⟨fun _ => iff_of_false nofun List.not_mem_nil, List.nodup_nil, nofun, nofun, nofun,
    nofun, nofun, trivial⟩

/-- A thread that is done holds nothing. -/
theorem World.Settled.rest (settled : world.Settled deployment stage) (idle : stage.Idle) :
    world.Settled deployment (.free none) := by
  have free : stage.submits = none ∧ stage.engages = [] ∧
      stage.expects = (Stage.free none).expects := by
    cases idle with
    | free free =>
        cases free
        exact ⟨rfl, rfl, rfl⟩
    | _ => exact ⟨rfl, rfl, rfl⟩
  obtain ⟨submits, engages, expects⟩ := free
  refine ⟨settled.party, trivial, settled.solo.of_same rfl (fun ticket => ?_) nofun,
    fun queue ticket made unqueued => ?_,
    settled.seated.of_calm rfl (fun _ _ _ => rfl) (fun _ => Or.inl rfl) engages.symm expects.symm
      trivial⟩
  · rw [submits]
    exact and_congr_right fun _ => iff_of_true nofun nofun
  · have submitting := settled.prompt queue ticket made unqueued
    rw [submits] at submitting
    cases submitting

/-- **Between complete calls** with server-issued ids, the tickets are settled. -/
theorem Reached.settled (reached : Reached deployment Call.ServerIssued world) :
    world.Sound deployment (fun request => request.matchTicketId = -1) ∧
      world.Settled deployment (.free none) := by
  induction reached with
  | start => exact ⟨World.Sound.initial, World.Settled.initial⟩
  | @call before _ call issued ih =>
      obtain ⟨sound, settled⟩ := ih
      have adheres : Adheres deployment (fun request => request.matchTicketId = -1) before
          (.free none) (call.program deployment) _ := adheres_program issued
      obtain ⟨sound', stage, settled', -, idle⟩ := Program.Follows.run
        (fun _ _ _ _ sound issues => issues.sound sound) World.Precedes.refl
        (fun _ _ _ _ sound issues settled => settled.perform issues sound fun _ issued => issued)
        adheres sound settled
      exact ⟨sound', settled'.rest idle⟩

end Settled

end MatchmakingMvp
