import MatchmakingMvp.Foundation.Progress
import MatchmakingMvp.Session.Timers
import Mathlib.Data.Set.Card

/-! # Sessions drain

Every registered session has a callback pending, and the worker that executes the callbacks makes
one of them less each time it takes one that is due: the callbacks open no session, and placing
one adds two callbacks while a session that asks becomes one that is placed. The pending callbacks
and twice the sessions that ask, `World.load`, therefore bound what is left to do. Where no
session is created any more, none is registered from some point on
(`MatchmakingMvp.sessions_drain`).
-/

namespace MatchmakingMvp

open Foundation

namespace World

variable {world after : World} {session : MatchSession}

/-- The ids of the sessions that ask for acceptance. -/
def asking (world : World) : Set MatchId :=
  { id | ∃ session, world.matchSessions.items id = some session ∧
    (world.sessionState session).status = .requiresAcceptance }

/-- What the session worker has to do yet: the pending callbacks, and two for each session that
may still be placed. -/
noncomputable def load (world : World) : Nat :=
  world.sessionJobs.length + 2 * world.asking.ncard

/-- The moves of the sessions once no session opens any more. -/
inductive LateMove (world : World) : World → Prop
  | stay {after : World} (leaves : world.LeavesSessions after)
      (jobs : after.sessionJobs = world.sessionJobs)
      (advances : ∀ ticket, Advances (world.ticketStatus ticket) (after.ticketStatus ticket)) :
      LateMove world after
  | record {session : MatchSession} {state : MatchSessionState}
      (found : world.matchSessions.items session.matchId = some session)
      (kept : state.status = (world.sessionState session).status) :
      LateMove world (world.withSessionState session state)
  | place {session : MatchSession}
      (found : world.matchSessions.items session.matchId = some session)
      (asks : (world.sessionState session).status = .requiresAcceptance) :
      LateMove world (world.placed session)
  | close {session : MatchSession} {status : MatchTicketStatus}
      (found : world.matchSessions.items session.matchId = some session)
      (can : canChangeStatus (world.sessionState session).status status = true)
      (terminal : status.terminal = true) : LateMove world (world.ended session status)

/-- A registered session may end in any way that sessions in both of its statuses may. -/
theorem LateMove.close_of_inStep (inStep : world.InStep) {status : MatchTicketStatus}
    (found : world.matchSessions.items session.matchId = some session)
    (can : canChangeStatus .requiresAcceptance status = true ∧
      canChangeStatus .placing status = true) (terminal : status.terminal = true) :
    world.LateMove (world.ended session status) := by
  refine .close found ?_ terminal
  rcases MatchTicketStatus.seated_iff.mp (inStep.seated _ _ found) with asks | places
  · rw [asks]
    exact can.1
  · rw [places]
    exact can.2

abbrev LateMoves : World → World → Prop := Relation.ReflTransGen LateMove

theorem LateMove.sessionMove (move : world.LateMove after) : world.SessionMove after := by
  cases move with
  | stay leaves => exact .stay leaves
  | record found kept => exact .record found kept
  | place found asks => exact .place found asks
  | close found can terminal => exact .close found can terminal

theorem LateMoves.sessionMoves (moves : world.LateMoves after) : world.SessionMoves after :=
  Relation.ReflTransGen.mono (fun _ _ => LateMove.sessionMove) _ _ moves

/-! ## The load -/

theorem asking_congr (matchSessions : after.matchSessions = world.matchSessions)
    (status : ∀ id session, world.matchSessions.items id = some session →
      (after.sessionState session).status = (world.sessionState session).status) :
    after.asking = world.asking := by
  ext id
  refine exists_congr fun session => ?_
  rw [matchSessions]
  refine and_congr_right fun found => ?_
  rw [status id session found]

theorem asking_withSessionState {state : MatchSessionState}
    (kept : state.status = (world.sessionState session).status) :
    (world.withSessionState session state).asking = world.asking := by
  refine asking_congr rfl fun id rival _ => ?_
  by_cases same : rival = session
  · rw [same, withSessionState_sessionState, Function.update_self, kept]
  · rw [withSessionState_sessionState, Function.update_of_ne same]

/-- A placed session asks no more. -/
theorem asking_placed (inStep : world.InStep)
    (found : world.matchSessions.items session.matchId = some session) :
    (world.placed session).asking = world.asking \ {session.matchId} := by
  ext id
  rw [Set.mem_sdiff, Set.mem_singleton_iff]
  refine Iff.trans (exists_congr fun rival => ?_) exists_and_right
  rw [placed_matchSessions, and_assoc]
  refine and_congr_right fun present => ?_
  by_cases same : rival = session
  · subst same
    rw [placed_sessionState, Function.update_self]
    simp [(inStep.consistent.keyed present).symm]
  · have other : id ≠ session.matchId := by
      rintro rfl
      exact same (Option.some.inj (present.symm.trans found))
    rw [placed_sessionState, Function.update_of_ne same]
    exact (and_iff_left other).symm

theorem asking_ended_subset (inStep : world.InStep) (status : MatchTicketStatus) :
    (world.ended session status).asking ⊆ world.asking := by
  rintro id ⟨rival, present, asks⟩
  obtain ⟨away, earlier⟩ := Registry.stored_of_erase _ _ present
  refine ⟨rival, earlier, ?_⟩
  rwa [ended_sessionState, Function.update_of_ne] at asks
  rintro rfl
  exact away (inStep.consistent.keyed earlier).symm

theorem LateMove.asking_subset (move : world.LateMove after) (inStep : world.InStep) :
    after.asking ⊆ world.asking := by
  cases move with
  | stay leaves =>
      exact (asking_congr leaves.matchSessions fun id session found =>
        congrArg _ (leaves.sessionState id session found)).subset
  | record _ kept => exact (asking_withSessionState kept).subset
  | place found =>
      rw [asking_placed inStep found]
      exact Set.sdiff_subset
  | close => exact asking_ended_subset inStep _

theorem length_enqueueJobRequest (queue : AsyncJobQueue SessionJob) (executeTimeMsec : Int)
    (job : SessionJob) :
    (queue.enqueueJobRequest executeTimeMsec job).length = queue.length + 1 :=
  (insertMulti_perm executeTimeMsec job queue).length_eq

/-- A late move does not add to the load. -/
theorem LateMove.load_le (move : world.LateMove after) (inStep : world.InStep)
    (finite : world.asking.Finite) : after.load ≤ world.load := by
  have fewer : after.asking.ncard ≤ world.asking.ncard :=
    Set.ncard_le_ncard (move.asking_subset inStep) finite
  cases move with
  | stay leaves jobs =>
      unfold load
      rw [jobs]
      omega
  | record => exact Nat.add_le_add_left (Nat.mul_le_mul_left 2 fewer) _
  | @place session found asks =>
      have asked : session.matchId ∈ world.asking := ⟨session, found, asks⟩
      have one := Set.ncard_sdiff_singleton_add_one asked finite
      unfold load
      rw [asking_placed inStep found, placed_sessionJobs, length_enqueueJobRequest,
        length_enqueueJobRequest]
      omega
  | close => exact Nat.add_le_add_left (Nat.mul_le_mul_left 2 fewer) _

theorem LateMoves.load_le (moves : world.LateMoves after) (inStep : world.InStep)
    (finite : world.asking.Finite) :
    after.load ≤ world.load ∧ after.InStep ∧ after.asking.Finite := by
  induction moves with
  | refl => exact ⟨le_rfl, inStep, finite⟩
  | tail _ move ih =>
      obtain ⟨less, inStep, finite⟩ := ih
      exact ⟨(move.load_le inStep finite).trans less, move.sessionMove.inStep inStep,
        finite.subset (move.asking_subset inStep)⟩

/-! ## The tickets of a session -/

/-- The session is registered, or all of its tickets have ended. -/
def Resolved (world : World) (session : MatchSession) : Prop :=
  world.matchSessions.items session.matchId = some session ∨
    ∀ ticket ∈ session.tickets, (world.ticketStatus ticket).terminal = true

/-- The tickets of a registered session have not ended. -/
theorem InStep.not_terminal (inStep : world.InStep)
    (found : world.matchSessions.items session.matchId = some session) {ticket : MatchTicket}
    (member : ticket ∈ session.tickets) : (world.ticketStatus ticket).terminal = false := by
  rw [inStep.agrees _ session found ticket member]
  exact MatchTicketStatus.not_terminal_of_inPlay
    (MatchTicketStatus.inPlay_of_seated (inStep.seated _ session found))

/-- A ticket that has ended is none of those a registered session moves. -/
theorem InStep.moved_of_terminal (inStep : world.InStep) {rival : MatchSession}
    (found : world.matchSessions.items rival.matchId = some rival) (status : MatchTicketStatus)
    {ticket : MatchTicket} (terminal : (world.ticketStatus ticket).terminal = true) :
    moveAll rival.tickets status world.ticketStatus ticket = world.ticketStatus ticket := by
  refine moveAll_of_not_mem fun member => ?_
  rw [inStep.not_terminal found member] at terminal
  cases terminal

/-- Tickets that have ended keep their status. -/
theorem LateMove.settled (move : world.LateMove after) (inStep : world.InStep)
    {ticket : MatchTicket} (terminal : (world.ticketStatus ticket).terminal = true) :
    after.ticketStatus ticket = world.ticketStatus ticket := by
  cases move with
  | stay _ _ advances => exact (advances ticket).of_terminal terminal
  | record => rfl
  | place found | close found => exact inStep.moved_of_terminal found _ terminal

theorem LateMoves.settled (moves : world.LateMoves after) (inStep : world.InStep)
    {ticket : MatchTicket} (terminal : (world.ticketStatus ticket).terminal = true) :
    after.ticketStatus ticket = world.ticketStatus ticket := by
  suffices after.InStep ∧ after.ticketStatus ticket = world.ticketStatus ticket from this.2
  induction moves with
  | refl => exact ⟨inStep, rfl⟩
  | tail _ move ih =>
      obtain ⟨inStep, same⟩ := ih
      refine ⟨move.sessionMove.inStep inStep, ?_⟩
      rw [move.settled inStep (by rwa [same]), same]

theorem LateMove.resolved (move : world.LateMove after) (inStep : world.InStep)
    (resolved : world.Resolved session) : after.Resolved session := by
  rcases resolved with present | ended
  · cases move with
    | stay leaves =>
        left
        rw [leaves.matchSessions]
        exact present
    | record | place => exact Or.inl present
    | @close rival status found _ terminal =>
        by_cases same : session.matchId = rival.matchId
        · have own : session = rival := by
            rw [same] at present
            exact Option.some.inj (present.symm.trans found)
          subst own
          refine Or.inr fun ticket member => ?_
          rw [ended_ticketStatus, moveAll_of_mem member]
          exact terminal
        · left
          rw [ended_matchSessions, SessionRegistry.eraseMatchSession, Registry.erase_items,
            Function.update_of_ne same]
          exact present
  · refine Or.inr fun ticket member => ?_
    rw [move.settled inStep (ended ticket member)]
    exact ended ticket member

theorem LateMoves.resolved (moves : world.LateMoves after) (inStep : world.InStep)
    (resolved : world.Resolved session) : after.Resolved session := by
  suffices after.InStep ∧ after.Resolved session from this.2
  induction moves with
  | refl => exact ⟨inStep, resolved⟩
  | tail _ move ih => exact ⟨move.sessionMove.inStep ih.1, move.resolved ih.1 ih.2⟩

end World

/-! ## What callbacks do -/

/-- Sessions, tickets and callbacks are the same. -/
structure World.SameSessions (before after : World) : Prop where
  matchSessions : after.matchSessions = before.matchSessions
  sessionState : after.sessionState = before.sessionState
  ticketStatus : after.ticketStatus = before.ticketStatus
  sessionJobs : after.sessionJobs = before.sessionJobs

theorem World.SameSessions.trans {before middle after : World}
    (first : before.SameSessions middle) (second : middle.SameSessions after) :
    before.SameSessions after :=
  ⟨second.matchSessions.trans first.matchSessions, second.sessionState.trans first.sessionState,
    second.ticketStatus.trans first.ticketStatus, second.sessionJobs.trans first.sessionJobs⟩

theorem World.SameSessions.leaves {before after : World} (same : before.SameSessions after) :
    before.LeavesSessions after :=
  .of_eq same.matchSessions same.sessionState same.ticketStatus same.sessionJobs

theorem World.SameSessions.lateMove {before after : World} (same : before.SameSessions after) :
    before.LateMove after :=
  .stay same.leaves same.sessionJobs fun ticket => by
    rw [same.ticketStatus]
    exact Relation.ReflTransGen.refl

theorem IntegrationZoneInstanceManager.sameSessions_insert
    (info : Option IntegrationZoneInstanceInfo) (world : World) :
    world.SameSessions ((insert info).run perform world).2 := by
  cases info with
  | none => exact ⟨rfl, rfl, rfl, rfl⟩
  | some info =>
      simp only [insert, Program.run_bind, Program.run_atomically, Program.run_ite]
      split_ifs <;> exact ⟨rfl, rfl, rfl, rfl⟩

theorem IntegrationZoneInstanceManager.sameSessions_erase (key : IntegrationZoneInstanceKey)
    (world : World) : world.SameSessions ((erase key).run perform world).2 :=
  ⟨rfl, rfl, rfl, rfl⟩

namespace MatchSessionManager

open World

variable {world : World} (inStep : world.InStep)

include inStep

theorem run_onFailedMatchSession_cases (matchId : MatchId) :
    ((onFailedMatchSession matchId).run perform world).2 = world ∨
      ∃ session, world.matchSessions.items matchId = some session ∧ session.matchId = matchId ∧
        ((onFailedMatchSession matchId).run perform world).2 = world.ended session .failed := by
  cases found : world.matchSessions.items matchId with
  | none => exact Or.inl (by rw [run_onFailedMatchSession_of_absent found])
  | some session =>
      obtain rfl := inStep.consistent.keyed found
      exact Or.inr ⟨session, rfl, rfl, by rw [run_onFailedMatchSession inStep found]⟩

/-- The accept timeout ends a session that asks, and does nothing otherwise. -/
theorem run_onTimeOutAcceptMatchSession_cases (matchId : MatchId) :
    ((onTimeOutAcceptMatchSession matchId).run perform world).2 = world ∨
      ∃ session, world.matchSessions.items matchId = some session ∧ session.matchId = matchId ∧
        (world.sessionState session).status = .requiresAcceptance ∧
        ((onTimeOutAcceptMatchSession matchId).run perform world).2 =
          world.ended session .timedOut := by
  cases found : world.matchSessions.items matchId with
  | none =>
      left
      simp only [onTimeOutAcceptMatchSession, Program.run_bind, run_findMatchSession, found,
        Program.run_pure]
  | some session =>
      obtain rfl := inStep.consistent.keyed found
      by_cases asks : (world.sessionState session).status = .requiresAcceptance
      · exact Or.inr ⟨session, rfl, rfl, asks, by
          rw [run_onTimeOutAcceptMatchSession inStep found asks]⟩
      · left
        simp only [onTimeOutAcceptMatchSession, Program.run_bind, run_findMatchSession, found,
          run_getStatus, asks, ne_eq, not_false_eq_true, if_true, Program.run_pure]

/-- The place timeout ends a session that is being placed, and does nothing otherwise. -/
theorem run_onTimeOutPlaceMatchSession_cases (matchId : MatchId) :
    ((onTimeOutPlaceMatchSession matchId).run perform world).2 = world ∨
      ∃ session, world.matchSessions.items matchId = some session ∧ session.matchId = matchId ∧
        (world.sessionState session).status = .placing ∧
        ((onTimeOutPlaceMatchSession matchId).run perform world).2 =
          world.ended session .timedOut := by
  cases found : world.matchSessions.items matchId with
  | none =>
      left
      simp only [onTimeOutPlaceMatchSession, Program.run_bind, run_findMatchSession, found,
        Program.run_pure]
  | some session =>
      obtain rfl := inStep.consistent.keyed found
      by_cases places : (world.sessionState session).status = .placing
      · exact Or.inr ⟨session, rfl, rfl, places, by
          rw [run_onTimeOutPlaceMatchSession inStep found places]⟩
      · left
        simp only [onTimeOutPlaceMatchSession, Program.run_bind, run_findMatchSession, found,
          run_getStatus, places, ne_eq, not_false_eq_true, if_true, Program.run_pure]

theorem run_placeMatchSession_cases (matchId : MatchId) :
    ((placeMatchSession matchId).run perform world).2 = world ∨
      ∃ session, world.matchSessions.items matchId = some session ∧ session.matchId = matchId ∧
        (world.sessionState session).status = .requiresAcceptance ∧
        ((placeMatchSession matchId).run perform world).2 = world.placed session := by
  cases found : world.matchSessions.items matchId with
  | none =>
      left
      simp only [placeMatchSession, Program.run_bind, run_findMatchSession, found,
        Program.run_pure]
  | some session =>
      obtain rfl := inStep.consistent.keyed found
      rcases MatchTicketStatus.seated_iff.mp (inStep.seated _ _ found) with asks | places
      · exact Or.inr ⟨session, rfl, rfl, asks, by rw [run_placeMatchSession inStep found asks]⟩
      · left
        simp only [placeMatchSession, Program.run_bind, run_findMatchSession, found,
          run_getStatus, places, if_true, Program.run_pure]

/-- A response is ignored, ends its session, is the last that it waits for, or is recorded. -/
theorem run_acceptMatchSession_cases (acceptInfo : PlayerMatchAcceptInfo) :
    (∀ session, ¬ Counts world acceptInfo session) ∧
        ((acceptMatchSession acceptInfo).run perform world).2 = world ∨
      ∃ session, Counts world acceptInfo session ∧
        (acceptInfo.isAccept = false ∧
            ((acceptMatchSession acceptInfo).run perform world).2 =
              (penalized (recorded world acceptInfo session) acceptInfo.playerKey).ended
                session .failed ∨
          acceptInfo.isAccept = true ∧
            ((recorded world acceptInfo session).sessionState
              session).isAllAcceptPlayerSession = true ∧
            ((acceptMatchSession acceptInfo).run perform world).2 =
              (recorded world acceptInfo session).placed session ∨
          acceptInfo.isAccept = true ∧
            ((recorded world acceptInfo session).sessionState
              session).isAllAcceptPlayerSession = false ∧
            ((acceptMatchSession acceptInfo).run perform world).2 =
              recorded world acceptInfo session) := by
  by_cases ignored : ∀ session, ¬ Counts world acceptInfo session
  · exact Or.inl ⟨ignored, by rw [run_acceptMatchSession_of_ignored ignored]⟩
  · obtain ⟨session, counts⟩ := not_forall_not.mp ignored
    have found := counts.found inStep
    have record : world.SessionMove (recorded world acceptInfo session) :=
      .record found (MatchSessionState.acceptPlayerSession_status _ _)
    have after : (recorded world acceptInfo session).InStep := record.inStep inStep
    have leaves : (recorded world acceptInfo session).LeavesSessions
        (penalized (recorded world acceptInfo session) acceptInfo.playerKey) :=
      .of_eq rfl rfl rfl rfl
    have asks : ((recorded world acceptInfo session).sessionState session).status =
        .requiresAcceptance := by
      rw [recorded, withSessionState_sessionState, Function.update_self,
        MatchSessionState.acceptPlayerSession_status]
      exact counts.asks
    refine Or.inr ⟨session, counts, ?_⟩
    rw [run_acceptMatchSession counts]
    cases accepts : acceptInfo.isAccept with
    | false =>
        left
        rw [if_pos rfl, run_onFailedMatchSession (after.leaves leaves) found]
        exact ⟨rfl, rfl⟩
    | true =>
        right
        rw [if_neg (by decide)]
        cases all : ((recorded world acceptInfo session).sessionState
            session).isAllAcceptPlayerSession with
        | true =>
            left
            rw [if_pos rfl, run_placeMatchSession after found asks]
            exact ⟨rfl, rfl, rfl⟩
        | false => exact Or.inr ⟨rfl, rfl, by rw [if_neg (by decide)]⟩

/-- The state after a zone was tried for a completion. -/
def hosted (world : World) (info : IntegrationZoneInstanceInfo) : World :=
  ((IntegrationZoneInstanceManager.insert (some info)).run perform world).2

omit inStep in
theorem sameSessions_hosted (info : IntegrationZoneInstanceInfo) :
    world.SameSessions (hosted world info) :=
  IntegrationZoneInstanceManager.sameSessions_insert (some info) world

/-- A completion does nothing without a session. It completes a session that is being placed and
whose zone is registered, and ends any other as a failure. -/
theorem run_onCompleteMatchSession_cases (info : IntegrationZoneInstanceInfo) :
    world.matchSessions.items info.matchId = none ∧
        ((onCompleteMatchSession info true).run perform world).2 = world ∨
      ∃ session, world.matchSessions.items info.matchId = some session ∧
        session.matchId = info.matchId ∧
        ((world.sessionState session).status = .placing ∧
            ((IntegrationZoneInstanceManager.insert (some info)).run perform world).1.isSome =
              true ∧
            ((onCompleteMatchSession info true).run perform world).2 =
              (hosted world info).ended session .completed ∨
          ((world.sessionState session).status = .requiresAcceptance ∨
              ((IntegrationZoneInstanceManager.insert (some info)).run perform world).1 = none) ∧
            ∃ middle, world.SameSessions middle ∧
              ((onCompleteMatchSession info true).run perform world).2 =
                middle.ended session .failed) := by
  have same : world.SameSessions (hosted world info) := sameSessions_hosted info
  cases found : world.matchSessions.items info.matchId with
  | none =>
      refine Or.inl ⟨rfl, ?_⟩
      simp only [onCompleteMatchSession, reduceCtorEq, if_false, Program.run_bind,
        run_findMatchSession, found, run_onFailedMatchSession_of_absent found]
  | some session =>
      have keyed := inStep.consistent.keyed found
      refine Or.inr ⟨session, rfl, keyed, ?_⟩
      have after : (hosted world info).InStep := inStep.leaves same.leaves
      have present : (hosted world info).matchSessions.items session.matchId = some session := by
        rw [same.matchSessions, keyed, found]
      simp only [onCompleteMatchSession, reduceCtorEq, if_false, Program.run_bind,
        run_findMatchSession, found]
      cases registered :
          ((IntegrationZoneInstanceManager.insert (some info)).run perform world).1 with
      | none =>
          refine Or.inr ⟨Or.inr rfl, hosted world info, same, ?_⟩
          simp only [← keyed]
          rw [← hosted, run_onFailedMatchSession after present]
      | some zone =>
          simp only [Program.run_bind]
          rw [← hosted]
          rcases MatchTicketStatus.seated_iff.mp (after.seated _ _ present) with asks | places
          · have stuck : ¬ session.Changeable .completed ((hosted world info).sessionState session)
                (hosted world info).ticketStatus := fun changeable => by
              have can := changeable.1
              rw [asks] at can
              cases can
            refine Or.inr ⟨Or.inl (by rwa [same.sessionState] at asks), _,
              same.trans (IntegrationZoneInstanceManager.sameSessions_erase
                zone.integrationZoneInstanceKey _), ?_⟩
            simp only [run_changeStatus_of_stuck stuck, if_true, Program.run_bind, ← keyed]
            rw [run_onFailedMatchSession (after.leaves
              (IntegrationZoneInstanceManager.sameSessions_erase _ _).leaves) present]
            rfl
          · have changeable := after.changeable .completed present (by rw [places]; rfl)
            refine Or.inl ⟨by rwa [same.sessionState] at places, rfl, ?_⟩
            simp only [run_changeStatus_of_changeable changeable, reduceCtorEq, if_false,
              Program.run_bind, run_eraseMatchSession, Program.run_pure, ← keyed]
            rfl

theorem lateMoves_onFailedMatchSession (matchId : MatchId) :
    world.LateMoves ((onFailedMatchSession matchId).run perform world).2 := by
  rcases run_onFailedMatchSession_cases inStep matchId with same | ⟨session, found, rfl, ended⟩
  · rw [same]
  · rw [ended]
    exact .single (.close_of_inStep inStep found (by decide) rfl)

theorem lateMoves_acceptMatchSession (acceptInfo : PlayerMatchAcceptInfo) :
    world.LateMoves ((acceptMatchSession acceptInfo).run perform world).2 := by
  rcases run_acceptMatchSession_cases inStep acceptInfo with ⟨-, same⟩ | ⟨session, counts, cases⟩
  · rw [same]
  · have found := counts.found inStep
    have record : world.LateMove (recorded world acceptInfo session) :=
      .record found (MatchSessionState.acceptPlayerSession_status _ _)
    have after := record.sessionMove.inStep inStep
    have asks : ((recorded world acceptInfo session).sessionState session).status =
        .requiresAcceptance := by
      rw [recorded, withSessionState_sessionState, Function.update_self,
        MatchSessionState.acceptPlayerSession_status]
      exact counts.asks
    have recorded := Relation.ReflTransGen.single record
    rcases cases with ⟨-, ended⟩ | ⟨-, -, placed⟩ | ⟨-, -, waits⟩
    · rw [ended]
      have penalty : (MatchSessionManager.recorded world acceptInfo session).SameSessions
          (penalized (MatchSessionManager.recorded world acceptInfo session)
            acceptInfo.playerKey) := ⟨rfl, rfl, rfl, rfl⟩
      exact (recorded.tail penalty.lateMove).tail
        (.close_of_inStep (after.leaves penalty.leaves) found (by decide) rfl)
    · rw [placed]
      exact recorded.tail (.place found asks)
    · rw [waits]
      exact recorded

theorem lateMoves_placeMatchSession (matchId : MatchId) :
    world.LateMoves ((placeMatchSession matchId).run perform world).2 := by
  rcases run_placeMatchSession_cases inStep matchId with same | ⟨session, found, rfl, asks, placed⟩
  · rw [same]
  · rw [placed]
    exact .single (.place found asks)

theorem lateMoves_onTimeOutAcceptMatchSession (matchId : MatchId) :
    world.LateMoves ((onTimeOutAcceptMatchSession matchId).run perform world).2 := by
  rcases run_onTimeOutAcceptMatchSession_cases inStep matchId with
    same | ⟨session, found, rfl, asks, ended⟩
  · rw [same]
  · rw [ended]
    exact .single (.close found (by rw [asks]; rfl) rfl)

theorem lateMoves_onTimeOutPlaceMatchSession (matchId : MatchId) :
    world.LateMoves ((onTimeOutPlaceMatchSession matchId).run perform world).2 := by
  rcases run_onTimeOutPlaceMatchSession_cases inStep matchId with
    same | ⟨session, found, rfl, places, ended⟩
  · rw [same]
  · rw [ended]
    exact .single (.close found (by rw [places]; rfl) rfl)

theorem lateMoves_onCompleteMatchSession (info : IntegrationZoneInstanceInfo) (success : Bool) :
    world.LateMoves ((onCompleteMatchSession info success).run perform world).2 := by
  cases success with
  | false =>
      simp only [onCompleteMatchSession, if_true, Program.run_bind, Program.run_pure]
      exact lateMoves_onFailedMatchSession inStep _
  | true =>
      rcases run_onCompleteMatchSession_cases inStep info with
        ⟨-, same⟩ | ⟨session, found, keyed, ⟨places, -, completed⟩ | ⟨-, middle, same, failed⟩⟩
      · rw [same]
      · rw [completed]
        have same : world.SameSessions (hosted world info) := sameSessions_hosted info
        refine (Relation.ReflTransGen.single same.lateMove).tail (.close ?_ ?_ rfl)
        · rw [same.matchSessions, keyed, found]
        · rw [same.sessionState, places]
          rfl
      · rw [failed]
        refine (Relation.ReflTransGen.single same.lateMove).tail
          (.close_of_inStep (inStep.leaves same.leaves) ?_ (by decide) rfl)
        rw [same.matchSessions, keyed, found]

end MatchSessionManager

/-- The callbacks only move sessions that are there. -/
theorem SessionJob.lateMoves {world : World} (inStep : world.InStep) (job : SessionJob) :
    world.LateMoves (job.operation.run perform world).2 := by
  cases job with
  | timeOutAccept matchId =>
      exact MatchSessionManager.lateMoves_onTimeOutAcceptMatchSession inStep matchId
  | accept playerKey => exact MatchSessionManager.lateMoves_acceptMatchSession inStep _
  | timeOutPlace matchId =>
      exact MatchSessionManager.lateMoves_onTimeOutPlaceMatchSession inStep matchId
  | complete info => exact MatchSessionManager.lateMoves_onCompleteMatchSession inStep info true

namespace SessionCall

/-- The operation may open a session. -/
def opens : SessionCall → Bool
  | .createMatchSession _ _ => true
  | _ => false

/-- **The other operations only move sessions that are there.** -/
theorem lateMoves {world : World} (inStep : world.InStep) {call : SessionCall}
    (late : call.opens = false) : world.LateMoves (call.operation.run perform world).2 := by
  cases call with
  | createMatchSession => cases late
  | acceptMatchSession acceptInfo =>
      exact MatchSessionManager.lateMoves_acceptMatchSession inStep _
  | placeMatchSession matchId => exact MatchSessionManager.lateMoves_placeMatchSession inStep _
  | onTimeOutAcceptMatchSession matchId =>
      exact MatchSessionManager.lateMoves_onTimeOutAcceptMatchSession inStep _
  | onTimeOutPlaceMatchSession matchId =>
      exact MatchSessionManager.lateMoves_onTimeOutPlaceMatchSession inStep _
  | onFailedMatchSession matchId =>
      exact MatchSessionManager.lateMoves_onFailedMatchSession inStep _
  | onCompleteMatchSession info success =>
      exact MatchSessionManager.lateMoves_onCompleteMatchSession inStep info success

end SessionCall

/-! ## Runs -/

/-- What happens once no session is created any more: operations of the session manager, its
worker's runs, and everything that leaves sessions alone. -/
inductive LateStep (world : World) : World → Prop
  | elsewhere {after : World} (leaves : world.LeavesSessions after)
      (jobs : after.sessionJobs = world.sessionJobs)
      (advances : ∀ ticket, Advances (world.ticketStatus ticket) (after.ticketStatus ticket)) :
      LateStep world after
  | call (call : SessionCall) (late : call.opens = false) :
      LateStep world (call.operation.run perform world).2
  | callback : LateStep world (sessionWorkerRun.run perform world).2

section Runs

variable {world after : World}

/-- A run of the worker finds no due callback, or takes the first and executes it. -/
theorem run_sessionWorkerRun_cases (world : World) :
    (∀ dueTimeMsec job rest, world.sessionJobs = (dueTimeMsec, job) :: rest →
        (world.timeMsec : Int) < dueTimeMsec % 2 ^ 64) ∧
        (sessionWorkerRun.run perform world).2 = world ∨
      ∃ dueTimeMsec job rest, world.sessionJobs = (dueTimeMsec, job) :: rest ∧
        dueTimeMsec % 2 ^ 64 ≤ world.timeMsec ∧ (sessionWorkerRun.run perform world).2 =
          (job.operation.run perform (world.withSessionJobs rest)).2 := by
  rw [run_sessionWorkerRun]
  cases queue : world.sessionJobs with
  | nil =>
      refine Or.inl ⟨nofun, ?_⟩
      rw [AsyncJobQueue.takeJob, ← queue]
      rfl
  | cons entry rest =>
      obtain ⟨dueTimeMsec, job⟩ := entry
      rw [AsyncJobQueue.takeJob]
      by_cases due : dueTimeMsec % 2 ^ 64 > world.timeMsec
      · rw [if_pos due, ← queue]
        refine Or.inl ⟨fun first other others same => ?_, rfl⟩
        rw [queue] at same
        cases same
        exact due
      · rw [if_neg due]
        exact Or.inr ⟨dueTimeMsec, job, rest, rfl, not_lt.mp due, rfl⟩

theorem LateStep.inStep (step : LateStep world after) (inStep : world.InStep) : after.InStep := by
  cases step with
  | elsewhere leaves => exact inStep.leaves leaves
  | call call late => exact (call.lateMoves inStep late).sessionMoves.inStep inStep
  | callback =>
      rcases run_sessionWorkerRun_cases world with ⟨-, idle⟩ | ⟨_, job, rest, -, -, run⟩
      · rwa [idle]
      · rw [run]
        have taken := inStep.withSessionJobs rest
        exact (job.lateMoves taken).sessionMoves.inStep taken

theorem LateStep.armed (step : LateStep world after) (inStep : world.InStep)
    (armed : world.Armed) : after.Armed := by
  cases step with
  | elsewhere leaves => exact armed.leaves leaves
  | call call late => exact (call.lateMoves inStep late).sessionMoves.armed inStep armed
  | callback => exact armed.callback inStep

/-- A step does not add to the load, and a due callback lowers it. -/
theorem LateStep.load_le (step : LateStep world after) (inStep : world.InStep)
    (finite : world.asking.Finite) : after.load ≤ world.load ∧ after.asking.Finite := by
  cases step with
  | elsewhere leaves jobs advances =>
      have move : world.LateMove after := .stay leaves jobs advances
      exact ⟨move.load_le inStep finite, finite.subset (move.asking_subset inStep)⟩
  | call call late =>
      obtain ⟨less, -, finite⟩ := (call.lateMoves inStep late).load_le inStep finite
      exact ⟨less, finite⟩
  | callback =>
      rcases run_sessionWorkerRun_cases world with ⟨-, idle⟩ | ⟨_, job, rest, queue, -, run⟩
      · rw [idle]
        exact ⟨le_rfl, finite⟩
      · have taken := inStep.withSessionJobs rest
        obtain ⟨less, -, finite⟩ := (job.lateMoves taken).load_le taken finite
        rw [run]
        refine ⟨less.trans ?_, finite⟩
        unfold World.load
        rw [World.withSessionJobs_sessionJobs, queue]
        exact Nat.add_le_add_right (Nat.le_succ _) _

theorem load_callback_lt (inStep : world.InStep) (finite : world.asking.Finite)
    {dueTimeMsec : Int} {job : SessionJob} {rest : AsyncJobQueue SessionJob}
    (queue : world.sessionJobs = (dueTimeMsec, job) :: rest)
    (due : dueTimeMsec % 2 ^ 64 ≤ world.timeMsec) :
    (sessionWorkerRun.run perform world).2.load < world.load := by
  rcases run_sessionWorkerRun_cases world with ⟨early, -⟩ | ⟨_, other, others, same, -, run⟩
  · exact absurd (early _ _ _ queue) (not_lt.mpr due)
  · rw [queue] at same
    cases same
    have taken := inStep.withSessionJobs rest
    obtain ⟨less, -, -⟩ := (job.lateMoves taken).load_le taken finite
    rw [run]
    refine less.trans_lt ?_
    unfold World.load
    rw [World.withSessionJobs_sessionJobs, queue]
    exact Nat.add_lt_add_right (Nat.lt_succ_self _) _

theorem LateStep.resolved (step : LateStep world after) (inStep : world.InStep)
    {session : MatchSession} (resolved : world.Resolved session) : after.Resolved session := by
  cases step with
  | elsewhere leaves jobs advances =>
      exact (World.LateMove.stay leaves jobs advances).resolved inStep resolved
  | call call late => exact (call.lateMoves inStep late).resolved inStep resolved
  | callback =>
      rcases run_sessionWorkerRun_cases world with ⟨-, idle⟩ | ⟨_, job, rest, -, -, run⟩
      · rwa [idle]
      · rw [run]
        have taken := inStep.withSessionJobs rest
        exact (job.lateMoves taken).resolved taken resolved

/-- No session is registered. -/
def World.Vacant (world : World) : Prop := ∀ id, world.matchSessions.items id = none

theorem World.LateMoves.vacant (moves : world.LateMoves after) (vacant : world.Vacant) :
    after.Vacant := by
  induction moves with
  | refl => exact vacant
  | tail _ move ih =>
      cases move with
      | stay leaves =>
          intro id
          rw [leaves.matchSessions]
          exact ih id
      | record found | place found | close found =>
          rw [ih] at found
          cases found

theorem LateStep.vacant (step : LateStep world after) (inStep : world.InStep)
    (vacant : world.Vacant) : after.Vacant := by
  cases step with
  | elsewhere leaves jobs advances =>
      exact World.LateMoves.vacant (.single (.stay leaves jobs advances)) vacant
  | call call late => exact (call.lateMoves inStep late).vacant vacant
  | callback =>
      rcases run_sessionWorkerRun_cases world with ⟨-, idle⟩ | ⟨_, job, rest, -, -, run⟩
      · rwa [idle]
      · rw [run]
        exact (job.lateMoves (inStep.withSessionJobs rest)).vacant vacant

/-- Finitely many sessions are registered. -/
theorem World.SessionMove.finite (move : world.SessionMove after)
    (finite : { id | world.matchSessions.items id ≠ none }.Finite) :
    { id | after.matchSessions.items id ≠ none }.Finite := by
  cases move with
  | stay leaves => rwa [leaves.matchSessions]
  | @«open» _ session _ _ _ fresh leaves =>
      rw [leaves.matchSessions, World.withSessionJobs_matchSessions, World.asked_items fresh]
      refine (finite.insert session.matchId).subset fun id registered => ?_
      by_cases own : id = session.matchId
      · exact Or.inl own
      · refine Or.inr fun absent => registered ?_
        rw [Function.update_of_ne own, absent]
  | record | place => exact finite
  | @close session =>
      refine finite.subset fun id registered absent => registered ?_
      rw [World.ended_matchSessions, SessionRegistry.eraseMatchSession, Registry.erase_items]
      by_cases own : id = session.matchId
      · rw [own, Function.update_self]
      · rw [Function.update_of_ne own, absent]
  | drop matchId leaves =>
      rw [leaves.matchSessions]
      refine finite.subset fun id registered absent => ?_
      obtain ⟨rival, found⟩ := Option.ne_none_iff_exists'.mp registered
      rw [(Registry.stored_of_erase _ _ found).2] at absent
      cases absent

theorem SessionsReached.finite (reached : SessionsReached world) :
    { id | world.matchSessions.items id ≠ none }.Finite := by
  have all : ∀ {before after : World}, before.SessionMoves after →
      { id | before.matchSessions.items id ≠ none }.Finite →
      { id | after.matchSessions.items id ≠ none }.Finite := by
    intro before after moves finite
    induction moves with
    | refl => exact finite
    | tail _ move ih => exact move.finite ih
  induction reached with
  | start empty =>
      rw [empty]
      exact Set.finite_empty.subset fun id registered => registered rfl
  | elsewhere _ leaves ih => rwa [leaves.matchSessions]
  | call reached call handed ih => exact all (call.moves reached.inStep handed) ih
  | @callback world reached ih =>
      rcases run_sessionWorkerRun_cases world with ⟨-, idle⟩ | ⟨_, job, rest, -, -, run⟩
      · rwa [idle]
      · rw [run]
        exact all (job.moves (reached.inStep.withSessionJobs rest)) ih

/-- The worker runs again and again while the clock grows beyond all bounds. -/
def WorkerKeepsUp (run : Nat → World) : Prop :=
  ∀ round timeMsec, ∃ later, round ≤ later ∧ timeMsec ≤ (run later).timeMsec ∧
    run (later + 1) = (sessionWorkerRun.run perform (run later)).2

theorem LateStep.forall_inStep {run : Nat → World} (inStep : (run 0).InStep)
    (steps : ∀ round, LateStep (run round) (run (round + 1))) (round : Nat) :
    (run round).InStep :=
  forall_of_kept World.InStep inStep (fun round => (steps round).inStep) round

/-- The queue is empty at some point, since any pending callback is due sooner or later; and no
session is registered then, since each has a callback pending. -/
theorem LateStep.exists_vacant {run : Nat → World} (reached : SessionsReached (run 0))
    (steps : ∀ round, LateStep (run round) (run (round + 1))) (fair : WorkerKeepsUp run) :
    ∃ round, ∀ later, round ≤ later → (run later).Vacant := by
  have finite : (run 0).asking.Finite := reached.finite.subset fun id asks absent => by
    obtain ⟨session, found, -⟩ := asks
    rw [absent] at found
    cases found
  have inStep := LateStep.forall_inStep reached.inStep steps
  have armed : ∀ round, (run round).Armed :=
    forall_of_kept World.Armed reached.armed fun round => (steps round).armed (inStep round)
  have bounded : ∀ round, (run round).asking.Finite :=
    forall_of_kept (fun world : World => world.asking.Finite) finite
      fun round finite => ((steps round).load_le (inStep round) finite).2
  have progress : ∀ round, ∃ later, round ≤ later ∧
      ((run later).sessionJobs = [] ∨ (run (later + 1)).load < (run later).load) := by
    intro round
    obtain ⟨later, after, late, runs⟩ := fair round (2 ^ 64)
    refine ⟨later, after, ?_⟩
    cases queue : (run later).sessionJobs with
    | nil => exact Or.inl rfl
    | cons entry rest =>
        right
        rw [runs]
        refine load_callback_lt (inStep later) (bounded later) queue ?_
        omega
  obtain ⟨round, -, idle⟩ := exists_done_of_rank (fun world : World => world.sessionJobs = [])
    World.load (fun round => ((steps round).load_le (inStep round) (bounded round)).1) progress 0
  have vacant : (run round).Vacant := by
    intro id
    by_contra registered
    obtain ⟨session, found⟩ := Option.ne_none_iff_exists'.mp registered
    obtain ⟨due, job, pending, -⟩ := armed round id session found
    rw [idle] at pending
    cases pending
  exact ⟨round, eventually_of_kept World.Vacant vacant
    fun later _ => (steps later).vacant (inStep later)⟩

end Runs

/-- **Sessions drain.** In every infinite run of session operations, worker runs and anything
else that leaves sessions alone, without creations, and in which the worker runs again and again
while the clock grows beyond all bounds: from some point on no session is registered, and the
tickets of all sessions that were have ended. -/
theorem sessions_drain {run : Nat → World} (reached : SessionsReached (run 0))
    (steps : ∀ round, LateStep (run round) (run (round + 1))) (fair : WorkerKeepsUp run) :
    ∃ round, ∀ later, round ≤ later →
      (∀ id, (run later).matchSessions.items id = none) ∧
      ∀ id session, (run 0).matchSessions.items id = some session →
        ∀ ticket ∈ session.tickets, ((run later).ticketStatus ticket).terminal = true := by
  obtain ⟨round, vacant⟩ := LateStep.exists_vacant reached steps fair
  refine ⟨round, fun later after => ⟨vacant later after, fun id session found => ?_⟩⟩
  have inStep := LateStep.forall_inStep reached.inStep steps
  have resolved : (run later).Resolved session :=
    forall_of_kept (fun world : World => world.Resolved session)
      (Or.inl (reached.inStep.found found))
      (fun round => (steps round).resolved (inStep round)) later
  refine resolved.resolve_left fun registered => ?_
  rw [vacant later after] at registered
  cases registered

/-- The clock moves on by seconds, and the worker runs in between. -/
def pairDrain : Nat → World
  | 0 => pairSessionWorld
  | round + 1 =>
      if round % 2 = 0 then { pairDrain round with timeMsec := 1000 * round }
      else (sessionWorkerRun.run perform (pairDrain round)).2

theorem pairDrain_lateStep (round : Nat) : LateStep (pairDrain round) (pairDrain (round + 1)) := by
  rw [pairDrain]
  split_ifs
  · exact .elsewhere (.of_eq rfl rfl rfl rfl) rfl fun _ => Relation.ReflTransGen.refl
  · exact .callback

theorem pairDrain_keepsUp : WorkerKeepsUp pairDrain := by
  intro round timeMsec
  refine ⟨2 * max round timeMsec + 1, by omega, ?_, ?_⟩
  · rw [pairDrain, if_pos (by omega)]
    change timeMsec ≤ 1000 * (2 * max round timeMsec)
    omega
  · rw [pairDrain, if_neg (by omega)]

/-- Two sessions of three tickets drain. -/
theorem sessions_drain_pair :
    ∃ round, ∀ later, round ≤ later →
      (∀ id, (pairDrain later).matchSessions.items id = none) ∧
      ∀ id session, pairSessionWorld.matchSessions.items id = some session →
        ∀ ticket ∈ session.tickets, ((pairDrain later).ticketStatus ticket).terminal = true :=
  sessions_drain pairSessionWorld_reached pairDrain_lateStep pairDrain_keepsUp

end MatchmakingMvp
