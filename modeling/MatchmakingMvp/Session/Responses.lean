import MatchmakingMvp.Session.Lockstep

/-! # Only first responses count

The players of a registered session respond in any order, repeat themselves and
contradict themselves, while players of other sessions respond too. What becomes of
the session depends on the first response of each of its players only
(`MatchmakingMvp.only_first_responses_count`).
-/

namespace MatchmakingMvp

open Foundation

/-- The first response of a player. -/
def firstResponse (responses : List PlayerMatchAcceptInfo) (playerKey : PlayerKey) :
    Option PlayerMatchAcceptInfo :=
  responses.find? fun response => response.playerKey = playerKey

theorem firstResponse_concat_of_ne {responses : List PlayerMatchAcceptInfo}
    {response : PlayerMatchAcceptInfo} {playerKey : PlayerKey}
    (different : response.playerKey ≠ playerKey) :
    firstResponse (responses ++ [response]) playerKey = firstResponse responses playerKey := by
  simp [firstResponse, List.find?_append, different]

theorem firstResponse_concat_of_some {responses : List PlayerMatchAcceptInfo}
    {response first : PlayerMatchAcceptInfo} {playerKey : PlayerKey}
    (found : firstResponse responses playerKey = some first) :
    firstResponse (responses ++ [response]) playerKey = some first := by
  rw [firstResponse] at found ⊢
  rw [List.find?_append, found]
  rfl

theorem firstResponse_concat_self {responses : List PlayerMatchAcceptInfo}
    {response : PlayerMatchAcceptInfo}
    (none : firstResponse responses response.playerKey = none) :
    firstResponse (responses ++ [response]) response.playerKey = some response := by
  rw [firstResponse] at none ⊢
  rw [List.find?_append, none]
  simp

namespace MatchSession

variable (session : MatchSession) (responses : List PlayerMatchAcceptInfo)

/-- The first response of some player is a decline. -/
def Declined : Prop :=
  ∃ playerKey ∈ session.ticketPlayers, ∃ response,
    firstResponse responses playerKey = some response ∧ response.isAccept = false

/-- There are players, and the first response of each of them has arrived and accepts. -/
def Accepted : Prop :=
  session.ticketPlayers ≠ [] ∧ ∀ playerKey ∈ session.ticketPlayers, ∃ response,
    firstResponse responses playerKey = some response ∧ response.isAccept = true

variable {session responses}

theorem Accepted.not_declined (accepted : session.Accepted responses) :
    ¬ session.Declined responses := by
  rintro ⟨playerKey, member, response, found, declines⟩
  obtain ⟨first, same, accepts⟩ := accepted.2 playerKey member
  cases found.symm.trans same
  rw [declines] at accepts
  cases accepts

theorem Declined.concat (declined : session.Declined responses)
    (response : PlayerMatchAcceptInfo) : session.Declined (responses ++ [response]) := by
  obtain ⟨playerKey, member, earlier, found, declines⟩ := declined
  exact ⟨playerKey, member, earlier, firstResponse_concat_of_some found, declines⟩

/-- A response that is no player's first changes nothing. -/
theorem outcome_congr {response : PlayerMatchAcceptInfo}
    (late : response.playerKey ∈ session.ticketPlayers →
      firstResponse responses response.playerKey ≠ none) :
    (session.Declined (responses ++ [response]) ↔ session.Declined responses) ∧
      (session.Accepted (responses ++ [response]) ↔ session.Accepted responses) ∧
      ∀ playerKey ∈ session.ticketPlayers,
        firstResponse (responses ++ [response]) playerKey = firstResponse responses playerKey := by
  have same : ∀ playerKey ∈ session.ticketPlayers,
      firstResponse (responses ++ [response]) playerKey = firstResponse responses playerKey := by
    intro playerKey member
    by_cases own : response.playerKey = playerKey
    · subst own
      obtain ⟨first, found⟩ := Option.ne_none_iff_exists'.mp (late member)
      rw [found, firstResponse_concat_of_some found]
    · exact firstResponse_concat_of_ne own
  refine ⟨?_, ?_, same⟩
  · exact exists_congr fun playerKey => and_congr_right fun member => by rw [same playerKey member]
  · exact and_congr_right fun _ =>
      forall₂_congr fun playerKey member => by rw [same playerKey member]

theorem find?_initialAcceptInfos (session : MatchSession) (playerKey : PlayerKey) :
    session.initialAcceptInfos.find? playerKey =
      if playerKey ∈ session.ticketPlayers then some { playerKey := playerKey } else none := by
  rw [initialAcceptInfos]
  induction session.ticketPlayers using List.reverseRecOn with
  | nil => rfl
  | append_singleton players player ih =>
      rw [List.foldl_append, List.foldl_cons, List.foldl_nil, OrderedMap.find?_emplace, ih]
      by_cases member : playerKey ∈ players
      · simp [member]
      · by_cases own : playerKey = player
        · subst own
          simp [member]
        · simp [member, own]

end MatchSession

theorem isAllAcceptPlayerSession_iff {state : MatchSessionState} :
    state.isAllAcceptPlayerSession = true ↔ ∀ playerKey recorded,
      state.playerMatchAcceptInfos.find? playerKey = some recorded → recorded.isAccept = true := by
  simp only [MatchSessionState.isAllAcceptPlayerSession, OrderedMap.values, List.all_map,
    List.all_eq_true, OrderedMap.find?_eq_some_iff, Function.comp_apply, Prod.forall]

namespace World

/-- What is recorded of a session that still waits: the accepts that have arrived. -/
structure Recorded (session : MatchSession) (responses : List PlayerMatchAcceptInfo)
    (state : MatchSessionState) : Prop where
  asks : state.status = .requiresAcceptance
  members : ∀ {playerKey recorded}, state.playerMatchAcceptInfos.find? playerKey = some recorded →
    playerKey ∈ session.ticketPlayers
  answers : ∀ playerKey ∈ session.ticketPlayers, ∃ recorded,
    state.playerMatchAcceptInfos.find? playerKey = some recorded ∧
      recorded.hasResponded = (firstResponse responses playerKey).isSome ∧
      recorded.isAccept = (firstResponse responses playerKey).isSome

/-- The session after the responses. -/
structure Answered (session : MatchSession) (responses : List PlayerMatchAcceptInfo)
    (world : World) : Prop where
  inStep : world.InStep
  failed : session.Declined responses → world.Ended session .failed ∧
    ∀ playerKey ∈ session.ticketPlayers, world.matchSessions.owner playerKey = none
  registered : ¬ session.Declined responses →
    world.matchSessions.items session.matchId = some session
  placed : session.Accepted responses → (world.sessionState session).status = .placing
  waits : ¬ session.Declined responses → ¬ session.Accepted responses →
    Recorded session responses (world.sessionState session)

variable {world after : World} {session rival : MatchSession}
  {responses : List PlayerMatchAcceptInfo} {response : PlayerMatchAcceptInfo}

/-- The session, its tickets and its players' index entries stay. -/
structure Keeps (before after : World) (session : MatchSession) : Prop where
  state : after.sessionState session = before.sessionState session
  ticketStatus : ∀ ticket ∈ session.tickets, after.ticketStatus ticket = before.ticketStatus ticket
  items : after.matchSessions.items session.matchId = before.matchSessions.items session.matchId
  owner : ∀ playerKey, playerKey ∈ session.ticketPlayers →
    after.matchSessions.owner playerKey = before.matchSessions.owner playerKey
  released : ∀ playerKey, after.matchSessions.owner playerKey = some session.matchId →
    before.matchSessions.owner playerKey = some session.matchId

theorem Keeps.ended {before after : World} {status : MatchTicketStatus}
    (keeps : before.Keeps after session) (ended : before.Ended session status) :
    after.Ended session status := by
  refine ⟨⟨by rw [keeps.state, ended.own], fun pointer inside => ?_⟩,
    by rw [keeps.items, ended.deregistered],
    fun playerKey owned => ended.released playerKey (keeps.released playerKey owned)⟩
  obtain ⟨ticket, rfl, same⟩ := ended.each pointer inside
  exact ⟨ticket, rfl, by rw [keeps.ticketStatus ticket (MatchSession.mem_tickets.mpr inside), same]⟩

/-- Another registered session, with tickets and players of its own. -/
structure Apart (world : World) (session rival : MatchSession) : Prop where
  found : world.matchSessions.items rival.matchId = some rival
  away : rival.matchId ≠ session.matchId
  tickets : ∀ ticket ∈ session.tickets, ticket ∉ rival.tickets
  players : ∀ playerKey ∈ session.ticketPlayers,
    world.matchSessions.owner playerKey ≠ some rival.matchId

theorem Apart.ne (apart : world.Apart session rival) : session ≠ rival := by
  rintro rfl
  exact apart.away rfl

theorem Keeps.refl (world : World) (session : MatchSession) : world.Keeps world session :=
  ⟨rfl, fun _ _ => rfl, rfl, fun _ _ => rfl, fun _ => id⟩

theorem Keeps.trans {before middle after : World} (first : before.Keeps middle session)
    (second : middle.Keeps after session) : before.Keeps after session :=
  ⟨second.state.trans first.state, fun ticket inside =>
      (second.ticketStatus ticket inside).trans (first.ticketStatus ticket inside),
    second.items.trans first.items, fun playerKey member =>
      (second.owner playerKey member).trans (first.owner playerKey member),
    fun playerKey owned => first.released playerKey (second.released playerKey owned)⟩

theorem Apart.keeps_moved (apart : world.Apart session rival) (status : MatchTicketStatus) :
    world.Keeps (world.moved rival status) session :=
  ⟨Function.update_of_ne apart.ne .., fun ticket inside =>
    moveAll_of_not_mem (apart.tickets ticket inside), rfl, fun _ _ => rfl, fun _ => id⟩

/-- Deregistering another match id. -/
theorem keeps_dropped (consistent : world.matchSessions.Consistent) {matchId : MatchId}
    (away : matchId ≠ session.matchId)
    (unowned : ∀ playerKey ∈ session.ticketPlayers,
      world.matchSessions.owner playerKey ≠ some matchId) :
    world.Keeps (world.dropped matchId) session := by
  refine ⟨rfl, fun _ _ => rfl, ?_, fun playerKey member => ?_, fun playerKey owned => ?_⟩
  · rw [dropped_matchSessions, SessionRegistry.eraseMatchSession, Registry.erase_items,
      Function.update_of_ne (Ne.symm away)]
  · rw [dropped_matchSessions, SessionRegistry.eraseMatchSession, consistent.erase_owner_iff,
      if_neg (unowned playerKey member)]
  · rw [dropped_matchSessions, SessionRegistry.eraseMatchSession,
      consistent.erase_owner_iff] at owned
    split_ifs at owned
    exact owned

theorem Apart.keeps_ended (apart : world.Apart session rival) (inStep : world.InStep)
    (status : MatchTicketStatus) : world.Keeps (world.ended rival status) session := by
  have consistent : (world.moved rival status).matchSessions.Consistent := inStep.consistent
  exact (apart.keeps_moved status).trans (keeps_dropped consistent apart.away apart.players)

theorem Apart.keeps_withSessionState (apart : world.Apart session rival)
    (state : MatchSessionState) : world.Keeps (world.withSessionState rival state) session :=
  ⟨Function.update_of_ne apart.ne .., fun _ _ => rfl, rfl, fun _ _ => rfl, fun _ => id⟩

/-- A response of a player of another session. -/
theorem keeps_acceptMatchSession (inStep : world.InStep)
    (others : ∀ rival, MatchSessionManager.Counts world response rival →
      world.Apart session rival) :
    world.Keeps ((MatchSessionManager.acceptMatchSession response).run perform world).2
      session := by
  by_cases ignored : ∀ rival, ¬ MatchSessionManager.Counts world response rival
  · rw [MatchSessionManager.run_acceptMatchSession_of_ignored ignored]
    exact .refl world session
  · obtain ⟨rival, counts⟩ := not_forall_not.mp ignored
    have apart := others rival counts
    have keeps : world.Keeps (MatchSessionManager.recorded world response rival) session :=
      apart.keeps_withSessionState _
    have apart' : (MatchSessionManager.recorded world response rival).Apart session rival :=
      ⟨apart.found, apart.away, apart.tickets, apart.players⟩
    have status : ((MatchSessionManager.recorded world response rival).sessionState
        rival).status = (world.sessionState rival).status := by
      simp [MatchSessionManager.recorded, MatchSessionState.acceptPlayerSession_status]
    have inStep' : (MatchSessionManager.recorded world response rival).InStep :=
      inStep.record (MatchSessionState.acceptPlayerSession_status _ _)
    rw [MatchSessionManager.run_acceptMatchSession counts]
    split_ifs
    · have leaves : (MatchSessionManager.recorded world response rival).LeavesSessions
          (MatchSessionManager.penalized (MatchSessionManager.recorded world response rival)
            response.playerKey) := .of_eq rfl rfl rfl rfl
      rw [MatchSessionManager.run_onFailedMatchSession (inStep'.leaves leaves) apart.found]
      have penalized : (MatchSessionManager.penalized
          (MatchSessionManager.recorded world response rival) response.playerKey).Apart session
            rival := ⟨apart.found, apart.away, apart.tickets, apart.players⟩
      have keeps' : world.Keeps (MatchSessionManager.penalized
          (MatchSessionManager.recorded world response rival) response.playerKey) session :=
        ⟨keeps.state, keeps.ticketStatus, keeps.items, keeps.owner, keeps.released⟩
      exact keeps'.trans (penalized.keeps_ended (inStep'.leaves leaves) .failed)
    · rw [MatchSessionManager.run_placeMatchSession inStep' apart.found (status.trans counts.asks)]
      exact keeps.trans ((apart'.keeps_moved .placing).trans
        ⟨rfl, fun _ _ => rfl, rfl, fun _ _ => rfl, fun _ => id⟩)
    · exact keeps

/-- Any other session found for a player has tickets and players of its own. -/
theorem Answered.apart (answered : Answered session responses world)
    (counts : MatchSessionManager.Counts world response rival) (different : rival ≠ session) :
    world.Apart session rival := by
  have inStep := answered.inStep
  have found := counts.found inStep
  by_cases declined : session.Declined responses
  · obtain ⟨ended, unowned⟩ := answered.failed declined
    refine ⟨found, ?_, fun ticket own shared => ?_, fun playerKey member => ?_⟩
    · intro same
      rw [same, ended.deregistered] at found
      cases found
    · obtain ⟨other, same, failed⟩ := ended.each _ (MatchSession.mem_tickets.mp own)
      cases same
      have seated := inStep.seated _ _ found
      rw [← inStep.agrees _ _ found ticket shared, failed] at seated
      cases seated
    · rw [unowned playerKey member]
      exact nofun
  · have registered := answered.registered declined
    have away : rival.matchId ≠ session.matchId := by
      intro same
      rw [same, registered] at found
      exact different (Option.some.inj found).symm
    refine ⟨found, away, fun ticket own shared => ?_, fun playerKey member => ?_⟩
    · exact away (inStep.apart _ _ _ _ registered found ticket own shared).symm
    · rw [inStep.consistent.indexed.mpr ⟨session, registered, member⟩]
      exact fun same => away (Option.some.inj same).symm

/-- A response that does not count for the session leaves it as it was. -/
theorem Answered.keep (answered : Answered session responses world)
    (late : response.playerKey ∈ session.ticketPlayers → ¬ session.Declined responses →
      firstResponse responses response.playerKey ≠ none)
    (keeps : world.Keeps after session) (inStep : after.InStep) :
    Answered session (responses ++ [response]) after := by
  by_cases declined : session.Declined responses
  · obtain ⟨ended, unowned⟩ := answered.failed declined
    have declined' := declined.concat response
    refine ⟨inStep, fun _ => ⟨keeps.ended ended, fun playerKey member => ?_⟩,
      fun remains => (remains declined').elim,
      fun accepted => (accepted.not_declined declined').elim,
      fun remains => (remains declined').elim⟩
    rw [keeps.owner playerKey member, unowned playerKey member]
  · obtain ⟨declines, accepted, same⟩ :=
      MatchSession.outcome_congr fun member => late member declined
    refine ⟨inStep, fun declined' => (declined (declines.mp declined')).elim, fun _ => ?_,
      fun accepts => ?_, fun _ waits => ?_⟩
    · rw [keeps.items]
      exact answered.registered declined
    · rw [keeps.state]
      exact answered.placed (accepted.mp accepts)
    · obtain ⟨asks, members, answers⟩ := answered.waits declined (mt accepted.mpr waits)
      rw [keeps.state]
      exact ⟨asks, members, fun playerKey member => by
        rw [same playerKey member]
        exact answers playerKey member⟩

/-- A response counts for the session exactly if it is the first of one of its players
and nobody has declined. -/
theorem Answered.counts_iff (answered : Answered session responses world) :
    MatchSessionManager.Counts world response session ↔
      response.playerKey ∈ session.ticketPlayers ∧
        firstResponse responses response.playerKey = none ∧ ¬ session.Declined responses := by
  have inStep := answered.inStep
  constructor
  · intro counts
    have found := counts.found inStep
    have remains : ¬ session.Declined responses := by
      intro declined
      rw [(answered.failed declined).1.deregistered] at found
      cases found
    have waits : ¬ session.Accepted responses := by
      intro accepted
      have placed := answered.placed accepted
      rw [counts.asks] at placed
      cases placed
    obtain ⟨id, owned, stored⟩ := Option.bind_eq_some_iff.mp counts.member
    obtain ⟨other, present, member⟩ := inStep.consistent.indexed.mp owned
    obtain rfl := Option.some.inj (present.symm.trans stored)
    obtain ⟨recorded, known, responded, -⟩ := (answered.waits remains waits).answers _ member
    refine ⟨member, ?_, remains⟩
    have first := counts.first
    rw [MatchSessionState.acceptPlayerSession, known] at first
    cases answer : firstResponse responses response.playerKey with
    | none => rfl
    | some earlier =>
        rw [answer, Option.isSome_some] at responded
        simp [responded] at first
  · rintro ⟨member, none, remains⟩
    have waits : ¬ session.Accepted responses := by
      intro accepted
      obtain ⟨earlier, found, -⟩ := accepted.2 _ member
      rw [none] at found
      cases found
    have registered := answered.registered remains
    obtain ⟨asks, -, answers⟩ := answered.waits remains waits
    obtain ⟨recorded, known, responded, accepts⟩ := answers _ member
    rw [none, Option.isSome_none] at responded accepts
    refine ⟨?_, ?_, asks, ?_⟩
    · rw [inStep.consistent.indexed.mpr ⟨session, registered, member⟩]
      exact registered
    · by_contra all
      rw [Bool.not_eq_false, isAllAcceptPlayerSession_iff] at all
      rw [all _ _ known] at accepts
      cases accepts
    · rw [MatchSessionState.acceptPlayerSession, known]
      simp [responded]

/-- A first accept is recorded beside the earlier ones. -/
theorem Recorded.accept {state : MatchSessionState} (recorded : Recorded session responses state)
    (member : response.playerKey ∈ session.ticketPlayers)
    (first : firstResponse responses response.playerKey = none)
    (accepts : response.isAccept = true) :
    Recorded session (responses ++ [response]) (state.acceptPlayerSession response).2 := by
  obtain ⟨asks, members, answers⟩ := recorded
  obtain ⟨earlier, known, responded, -⟩ := answers _ member
  rw [first, Option.isSome_none] at responded
  have after : (state.acceptPlayerSession response).2.playerMatchAcceptInfos =
      state.playerMatchAcceptInfos.insertOrAssign response.playerKey
        { response with hasResponded := true } := by
    rw [MatchSessionState.acceptPlayerSession, known]
    simp [responded]
  refine ⟨(MatchSessionState.acceptPlayerSession_status _ _).trans asks,
    fun {playerKey entry} found => ?_, fun playerKey inside => ?_⟩
  · rw [after, OrderedMap.find?_insertOrAssign] at found
    split_ifs at found with own
    · exact own ▸ member
    · exact members found
  · rw [after, OrderedMap.find?_insertOrAssign]
    by_cases own : playerKey = response.playerKey
    · subst own
      rw [if_pos rfl, firstResponse_concat_self first]
      exact ⟨_, rfl, rfl, accepts⟩
    · rw [if_neg own, firstResponse_concat_of_ne (Ne.symm own)]
      exact answers playerKey inside

/-- All players of a waiting session have accepted exactly if every record says so. -/
theorem Recorded.accepted_iff {state : MatchSessionState}
    (recorded : Recorded session responses state) (remains : ¬ session.Declined responses)
    (nonempty : session.ticketPlayers ≠ []) :
    state.isAllAcceptPlayerSession = true ↔ session.Accepted responses := by
  rw [isAllAcceptPlayerSession_iff]
  constructor
  · refine fun all => ⟨nonempty, fun playerKey member => ?_⟩
    obtain ⟨entry, known, -, accepts⟩ := recorded.answers playerKey member
    rw [all _ _ known] at accepts
    obtain ⟨response, found⟩ := Option.isSome_iff_exists.mp accepts.symm
    refine ⟨response, found, ?_⟩
    by_contra declines
    exact remains ⟨playerKey, member, response, found, by simpa using declines⟩
  · intro accepted playerKey entry known
    obtain ⟨other, same, -, accepts⟩ := recorded.answers playerKey (recorded.members known)
    cases known.symm.trans same
    obtain ⟨response, found, -⟩ := accepted.2 playerKey (recorded.members known)
    rw [accepts, found]
    rfl

/-- **One more response.** -/
theorem Answered.respond (answered : Answered session responses world)
    (response : PlayerMatchAcceptInfo) :
    Answered session (responses ++ [response])
      ((MatchSessionManager.acceptMatchSession response).run perform world).2 := by
  have inStep := answered.inStep
  have after := (MatchSessionManager.moves_acceptMatchSession inStep response).inStep inStep
  by_cases counts : MatchSessionManager.Counts world response session
  · obtain ⟨member, first, remains⟩ := answered.counts_iff.mp counts
    have registered := answered.registered remains
    have waits : ¬ session.Accepted responses := by
      intro accepted
      obtain ⟨earlier, found, -⟩ := accepted.2 _ member
      rw [first] at found
      cases found
    have recorded := (answered.waits remains waits)
    have inStep' : (MatchSessionManager.recorded world response session).InStep :=
      inStep.record (MatchSessionState.acceptPlayerSession_status _ _)
    rw [MatchSessionManager.run_acceptMatchSession counts] at after ⊢
    by_cases declines : response.isAccept = false
    · -- The decline is the first response of its player and ends the session.
      have declined : session.Declined (responses ++ [response]) :=
        ⟨_, member, response, firstResponse_concat_self first, declines⟩
      rw [if_pos declines] at after ⊢
      have leaves : (MatchSessionManager.recorded world response session).LeavesSessions
          (MatchSessionManager.penalized (MatchSessionManager.recorded world response session)
            response.playerKey) := .of_eq rfl rfl rfl rfl
      rw [MatchSessionManager.run_onFailedMatchSession (inStep'.leaves leaves) registered]
        at after ⊢
      refine ⟨after, fun _ => ⟨(inStep'.leaves leaves).ended_ended registered .failed,
        fun playerKey inside => ?_⟩, fun remains => (remains declined).elim,
        fun accepted => (accepted.not_declined declined).elim,
        fun remains => (remains declined).elim⟩
      rw [ended_matchSessions, SessionRegistry.eraseMatchSession,
        (inStep'.leaves leaves).consistent.erase_owner_iff, if_pos]
      exact inStep.consistent.indexed.mpr ⟨session, registered, inside⟩
    · have accepts : response.isAccept = true := by simpa using declines
      have remains' : ¬ session.Declined (responses ++ [response]) := by
        rintro ⟨playerKey, inside, earlier, found, declined⟩
        by_cases own : response.playerKey = playerKey
        · subst own
          rw [firstResponse_concat_self first, Option.some.injEq] at found
          rw [found, declined] at accepts
          cases accepts
        · rw [firstResponse_concat_of_ne own] at found
          exact remains ⟨playerKey, inside, earlier, found, declined⟩
      have recorded' : Recorded session (responses ++ [response])
          ((MatchSessionManager.recorded world response session).sessionState session) := by
        simp only [MatchSessionManager.recorded, withSessionState_sessionState,
          Function.update_self]
        exact recorded.accept member first accepts
      have all := recorded'.accepted_iff remains' (List.ne_nil_of_mem member)
      rw [if_neg declines] at after ⊢
      split_ifs at after ⊢ with accepted
      · rw [MatchSessionManager.run_placeMatchSession inStep' registered recorded'.asks]
          at after ⊢
        exact ⟨after, fun declined => (remains' declined).elim, fun _ => registered,
          fun _ => by simp, fun _ waits => (waits (all.mp accepted)).elim⟩
      · exact ⟨after, fun declined => (remains' declined).elim, fun _ => registered,
          fun done => (accepted (all.mpr done)).elim, fun _ _ => recorded'⟩
  · refine answered.keep (fun member remains first =>
      counts (answered.counts_iff.mpr ⟨member, first, remains⟩))
      (keeps_acceptMatchSession inStep fun rival counts' => answered.apart counts' ?_) after
    rintro rfl
    exact counts counts'

/-- **A sequence of responses.** -/
theorem Answered.run (answered : Answered session responses world)
    (more : List PlayerMatchAcceptInfo) :
    Answered session (responses ++ more)
      ((forAll more MatchSessionManager.acceptMatchSession).run perform world).2 := by
  induction more generalizing responses world with
  | nil => simpa using answered
  | cons response rest ih =>
      rw [run_forAll_cons, List.append_cons]
      exact ih (answered.respond response)

/-- The penalty a response brings: its player's, if it counts and declines. -/
theorem dodgePenalties_acceptMatchSession (inStep : world.InStep)
    (response : PlayerMatchAcceptInfo) :
    ((∃ rival, MatchSessionManager.Counts world response rival) ∧ response.isAccept = false →
      ((MatchSessionManager.acceptMatchSession response).run perform world).2.dodgePenalties =
        Function.update world.dodgePenalties response.playerKey
          (some (world.timeMsec + 15000))) ∧
    (¬ ((∃ rival, MatchSessionManager.Counts world response rival) ∧
        response.isAccept = false) →
      ((MatchSessionManager.acceptMatchSession response).run perform world).2.dodgePenalties =
        world.dodgePenalties) := by
  by_cases ignored : ∀ rival, ¬ MatchSessionManager.Counts world response rival
  · rw [MatchSessionManager.run_acceptMatchSession_of_ignored ignored]
    exact ⟨fun ⟨⟨rival, counts⟩, _⟩ => (ignored rival counts).elim, fun _ => rfl⟩
  · obtain ⟨rival, counts⟩ := not_forall_not.mp ignored
    have found := counts.found inStep
    have inStep' : (MatchSessionManager.recorded world response rival).InStep :=
      inStep.record (MatchSessionState.acceptPlayerSession_status _ _)
    rw [MatchSessionManager.run_acceptMatchSession counts]
    by_cases declines : response.isAccept = false
    · have leaves : (MatchSessionManager.recorded world response rival).LeavesSessions
          (MatchSessionManager.penalized (MatchSessionManager.recorded world response rival)
            response.playerKey) := .of_eq rfl rfl rfl rfl
      rw [if_pos declines,
        MatchSessionManager.run_onFailedMatchSession (inStep'.leaves leaves) found]
      exact ⟨fun _ => rfl, fun other => (other ⟨⟨rival, counts⟩, declines⟩).elim⟩
    · rw [if_neg declines]
      refine ⟨fun both => (declines both.2).elim, fun _ => ?_⟩
      split_ifs
      · rw [MatchSessionManager.run_placeMatchSession inStep' found]
        · rfl
        · simp [MatchSessionManager.recorded, MatchSessionState.acceptPlayerSession_status,
            counts.asks]
      · rfl

end World

/-- What becomes of a session through the responses: a first response that declines ends
it, first responses of all players that accept place it, and it waits otherwise. -/
structure World.Outcome (session : MatchSession) (responses : List PlayerMatchAcceptInfo)
    (world : World) : Prop where
  failed : session.Declined responses → world.Ended session .failed
  placed : session.Accepted responses →
    world.matchSessions.items session.matchId = some session ∧ world.Shares session .placing
  waits : ¬ session.Declined responses → ¬ session.Accepted responses →
    world.matchSessions.items session.matchId = some session ∧
      world.Shares session .requiresAcceptance

/-- The penalties of one more response: the first player of the session who declines
first is penalized, and nobody else because of this session. -/
structure Penalizes (session : MatchSession) (responses : List PlayerMatchAcceptInfo)
    (response : PlayerMatchAcceptInfo) (before after : World) : Prop where
  decliner : response.playerKey ∈ session.ticketPlayers → response.isAccept = false →
    firstResponse responses response.playerKey = none → ¬ session.Declined responses →
    after.dodgePenalties = Function.update before.dodgePenalties response.playerKey
      (some (before.timeMsec + 15000))
  member : response.playerKey ∈ session.ticketPlayers →
    ¬ (response.isAccept = false ∧ firstResponse responses response.playerKey = none ∧
      ¬ session.Declined responses) → after.dodgePenalties = before.dodgePenalties
  outsider : response.playerKey ∉ session.ticketPlayers →
    (∀ playerKey ≠ response.playerKey,
      after.dodgePenalties playerKey = before.dodgePenalties playerKey) ∧
    (after.dodgePenalties ≠ before.dodgePenalties →
      ∃ rival ≠ session, MatchSessionManager.Counts before response rival)

namespace World.Answered

variable {world : World} {session : MatchSession} {responses : List PlayerMatchAcceptInfo}

theorem initial (inStep : world.InStep)
    (found : world.matchSessions.items session.matchId = some session)
    (unanswered : world.sessionState session =
      { status := .requiresAcceptance, playerMatchAcceptInfos := session.initialAcceptInfos }) :
    Answered session [] world := by
  have nobody : ¬ session.Declined [] := by
    rintro ⟨playerKey, member, response, found, declines⟩
    cases found
  refine ⟨inStep, fun declined => (nobody declined).elim, fun _ => found, fun accepted => ?_,
    fun _ _ => ⟨by rw [unanswered], fun {playerKey recorded} known => ?_,
      fun playerKey member => ?_⟩⟩
  · obtain ⟨playerKey, member⟩ := List.exists_mem_of_ne_nil _ accepted.1
    obtain ⟨response, found, accepts⟩ := accepted.2 playerKey member
    cases found
  · rw [unanswered, MatchSession.find?_initialAcceptInfos] at known
    split_ifs at known with member
    exact member
  · rw [unanswered, MatchSession.find?_initialAcceptInfos, if_pos member]
    exact ⟨_, rfl, rfl, rfl⟩

theorem outcome (answered : Answered session responses world) :
    Outcome session responses world := by
  refine ⟨fun declined => (answered.failed declined).1, fun accepted => ?_, fun remains waits => ?_⟩
  · have registered := answered.registered accepted.not_declined
    exact ⟨registered, answered.placed accepted ▸ answered.inStep.shares registered⟩
  · have registered := answered.registered remains
    exact ⟨registered,
      (answered.waits remains waits).asks ▸ answered.inStep.shares registered⟩

theorem penalizes (answered : Answered session responses world)
    (response : PlayerMatchAcceptInfo) :
    Penalizes session responses response world
      ((MatchSessionManager.acceptMatchSession response).run perform world).2 := by
  obtain ⟨penalized, spared⟩ := dodgePenalties_acceptMatchSession answered.inStep response
  have own : ∀ rival, MatchSessionManager.Counts world response rival →
      response.playerKey ∈ session.ticketPlayers → rival = session := by
    intro rival counts member
    by_contra different
    obtain ⟨id, owned, stored⟩ := Option.bind_eq_some_iff.mp counts.member
    refine (answered.apart counts different).players _ member ?_
    rwa [answered.inStep.consistent.keyed stored]
  refine ⟨fun member declines first remains => ?_, fun member otherwise => ?_, fun outside => ?_⟩
  · exact penalized ⟨⟨session, answered.counts_iff.mpr ⟨member, first, remains⟩⟩, declines⟩
  · refine spared ?_
    rintro ⟨⟨rival, counts⟩, declines⟩
    obtain rfl := own rival counts member
    obtain ⟨-, first, remains⟩ := answered.counts_iff.mp counts
    exact otherwise ⟨declines, first, remains⟩
  · by_cases counts : (∃ rival, MatchSessionManager.Counts world response rival) ∧
        response.isAccept = false
    · rw [penalized counts]
      refine ⟨fun playerKey different => Function.update_of_ne different .., fun _ => ?_⟩
      obtain ⟨⟨rival, counts⟩, -⟩ := counts
      refine ⟨rival, ?_, counts⟩
      rintro rfl
      exact outside (answered.counts_iff.mp counts).1
    · rw [spared counts]
      exact ⟨fun _ _ => rfl, fun changed => (changed rfl).elim⟩

end World.Answered

/-- **Only first responses count.** Take a registered session that nobody has
responded to yet, and any responses. The session has failed with its tickets and is
deregistered if the first response of some player of it is a decline; it is being
placed if all of its players have responded and accepted first; otherwise it still
asks. One more response penalizes a player of the session exactly if it is that
player's first, declines, and nobody declined first before; a response of another
player penalizes at most that player, for another session. -/
theorem only_first_responses_count {world : World} (reached : SessionsReached world)
    {session : MatchSession}
    (found : world.matchSessions.items session.matchId = some session)
    (unanswered : world.sessionState session =
      { status := .requiresAcceptance, playerMatchAcceptInfos := session.initialAcceptInfos })
    (responses : List PlayerMatchAcceptInfo) :
    let after := ((forAll responses MatchSessionManager.acceptMatchSession).run perform world).2
    World.Outcome session responses after ∧ ∀ response,
      Penalizes session responses response after
        ((MatchSessionManager.acceptMatchSession response).run perform after).2 := by
  intro after
  have answered : World.Answered session responses after :=
    (World.Answered.initial reached.inStep found unanswered).run responses
  exact ⟨answered.outcome, answered.penalizes⟩

/-- Player 1 accepts and then declines, player 3 declines elsewhere, and player 2 accepts. -/
def pairResponses : List PlayerMatchAcceptInfo :=
  [{ playerKey := 1, isAccept := true }, { playerKey := 1 }, { playerKey := 3 },
    { playerKey := 2, isAccept := true }]

theorem only_first_responses_count_pair :
    let after := ((forAll pairResponses MatchSessionManager.acceptMatchSession).run perform
      pairSessionWorld).2
    (after.sessionState pairSession).status = .placing ∧
      World.Outcome pairSession pairResponses after ∧ ∀ response,
        Penalizes pairSession pairResponses response after
          ((MatchSessionManager.acceptMatchSession response).run perform after).2 :=
  ⟨by decide +kernel, only_first_responses_count pairSessionWorld_reached (by decide +kernel)
    (by decide +kernel) _⟩

end MatchmakingMvp
