import Mathlib.Data.List.Pairwise
import MatchmakingMvp.Session.SessionIndex
import MatchmakingMvp.System.Retention

/-! # Cancelling during acceptance

The solo manager takes the cancellation of a ticket that waits for acceptance as a decline.
It finds the ticket in its own map, from which creation erases the tickets that the session
manager presumes to be of the solo manager. Cancelling therefore declines exactly where the map
still has such a ticket of the player, which with server-issued ids are the tickets that name a
party and are presumed to be of the other manager (`MatchmakingMvp.cancel_declines_iff`).
-/

namespace MatchmakingMvp

open Foundation

variable {deployment : Deployment} {before after world : World}

/-! ## What creation registers -/

/-- A section that makes no ticket and registers no session but with the tickets. -/
def Section.RegistersOnly (tickets : List MatchTicket) : Section → Prop
  | .newMatchTicket _ _ _ => False
  | .insertMatchSession session => session.tickets = tickets
  | _ => True

namespace MatchSessionManager

theorem registersOnly_createMatchSession (key : MatchmakingGroupKey) (tickets : TicketSet) :
    (createMatchSession key tickets).Everywhere (Section.RegistersOnly tickets.1) := by
  refine everywhere_createMatchSession fun step creates inserts => ?_
  cases step with
  | newMatchTicket => cases creates
  | insertMatchSession session => exact inserts session rfl
  | _ => trivial

/-- No ticket was made, and no session was registered but with the tickets. -/
structure Registered (tickets : List MatchTicket) (before after : World) : Prop where
  matchTickets : after.matchTickets = before.matchTickets
  sessions : ∀ {id session}, after.matchSessions.items id = some session →
    before.matchSessions.items id = some session ∨ session.tickets = tickets

theorem registered_createMatchSession (key : MatchmakingGroupKey) (tickets : TicketSet)
    (world : World) :
    Registered tickets.1 world ((createMatchSession key tickets).run perform world).2 := by
  have initially : Registered tickets.1 world world := ⟨rfl, Or.inl⟩
  refine (registersOnly_createMatchSession key tickets).run_invariant perform
    (fun step current registers kept => ?_) initially
  cases step with
  | newMatchTicket => cases registers
  | insertMatchSession session =>
      refine ⟨kept.matchTickets, fun stored => ?_⟩
      rcases Registry.eq_or_stored_of_insert _ _ stored with ⟨-, rfl⟩ | earlier
      · exact Or.inr registers
      · exact kept.sessions earlier
  | eraseMatchSession matchId =>
      exact ⟨kept.matchTickets, fun stored =>
        kept.sessions (Registry.stored_of_erase _ _ stored).2⟩
  | nextIntegrationWorldNo worldGroupNo =>
      simp only [perform]
      split_ifs <;> exact ⟨kept.matchTickets, kept.sessions⟩
  | _ => exact ⟨kept.matchTickets, kept.sessions⟩

end MatchSessionManager

/-! ## Tickets that were handed over -/

/-- Queued tickets are registered. Solo tickets that wait for acceptance are registered
where the session manager presumes them to be of the party manager. -/
structure World.HandedOver (world : World) : Prop where
  registers : ∀ {queue ticket}, world.Made queue ticket → world.Registers queue ticket
  asked : ∀ {ticket}, world.Made .solo ticket →
    world.ticketStatus ticket = .requiresAcceptance →
    ((world.tickets .solo).items ticket.matchTicketId = some ticket ↔
      ticket.presumedQueue = .party)

section Calls

variable {call : Call} (reached : Reached deployment Call.ServerIssued world)
  (issued : call.ServerIssued)

include reached issued

/-- A ticket that waits for acceptance in a session that was registered before waited before. -/
theorem asked_before {ticket : MatchTicket}
    (seated : ∀ {id session},
      (call.complete deployment world).matchSessions.items id = some session →
      ticket ∈ session.tickets → world.matchSessions.items id = some session)
    (asks : (call.complete deployment world).ticketStatus ticket = .requiresAcceptance) :
    world.ticketStatus ticket = .requiresAcceptance := by
  obtain ⟨-, settled⟩ := reached.settled
  obtain ⟨-, settled'⟩ := (reached.call call issued).settled
  obtain ⟨matchId, session, stored, inside⟩ :=
    (settled'.session_seats ticket).mp (Or.inl asks)
  rcases (settled.session_seats ticket).mpr ⟨matchId, session, seated stored inside, inside⟩ with
    before | placed
  · exact before
  · have advances := (call.precedes deployment world).advances ticket
    rw [asks, placed] at advances
    rcases advances.of_placing with same | ended <;> cases ‹_›

end Calls

/-- While its manager retains its tickets, a solo ticket that has not ended stays registered. -/
theorem World.Retains.stored_iff {permits : MatchTicketRequest → Prop}
    (retains : before.Retains deployment after) (sound : before.Sound deployment permits)
    (sound' : after.Sound deployment permits) (serverIssues : ServerIssues permits)
    {ticket : MatchTicket} (made : before.Made .solo ticket)
    (live : (after.ticketStatus ticket).terminal = false) :
    (after.tickets .solo).items ticket.matchTicketId = some ticket ↔
      (before.tickets .solo).items ticket.matchTicketId = some ticket := by
  refine ⟨retains.tickets, fun stored => ?_⟩
  rcases retains.kept stored (sound.registered _ _ _ stored).2 with still | ⟨other, same, ended⟩
  · exact still
  · have started : after.ticketStatus other ≠ .none := by
      intro unstarted
      rw [unstarted] at ended
      cases ended
    obtain ⟨owner, isMade⟩ := sound'.started other started
    obtain ⟨-, rfl⟩ := sound'.eq_of_matchTicketId serverIssues isMade
      (retains.precedes.made made) same
    rw [live] at ended
    cases ended

section Calls

variable {call : Call} (reached : Reached deployment Call.ServerIssued world)
  (issued : call.ServerIssued) (handed : world.HandedOver)

include reached issued handed

/-- A call that retains tickets. -/
theorem World.HandedOver.retain
    (retains : world.Retains deployment (call.complete deployment world)) :
    (call.complete deployment world).HandedOver := by
  obtain ⟨sound, settled⟩ := reached.settled
  obtain ⟨sound', -⟩ := (reached.call call issued).settled
  have earlier : ∀ {queue ticket}, (call.complete deployment world).Made queue ticket →
      world.Made queue ticket := by
    intro queue ticket made
    rw [World.Made, retains.matchTickets] at made
    exact made
  refine ⟨fun made => Call.keepsQueued issued sound settled (earlier made) handed.registers,
    fun {ticket} made asks => ?_⟩
  have before := asked_before reached issued (fun stored _ => retains.sessions stored) asks
  rw [retains.stored_iff sound sound' (fun _ issued => issued) (earlier made) (by rw [asks]; rfl)]
  exact handed.asked (earlier made) before

/-- A submission does not touch the entries of tickets made before. -/
theorem World.HandedOver.submit {queue : QueueKind} {request : MatchTicketRequest}
    (run : call.complete deployment world =
      ((MatchmakingMvp.submit deployment queue request).run perform world).2) :
    (call.complete deployment world).HandedOver := by
  obtain ⟨sound, settled⟩ := reached.settled
  obtain ⟨sound', -⟩ := (reached.call call issued).settled
  have precedes := call.precedes deployment world
  have frame := leavesEngaged_submit deployment queue request world
  have entries := submit_cases sound queue request
  rw [← run] at frame entries
  set ticket := world.newMatchTicket request.worldNo request
  have unmade : ∀ owner, ¬ world.Made owner ticket := fun owner =>
    sound.newMatchTicket_not_made owner request.worldNo request
  have made : (call.complete deployment world).Made queue ticket := by
    rw [World.Made, frame.matchTickets]
    exact List.mem_cons_self
  have apart : ∀ {owner other}, world.Made owner other →
      other.matchTicketId ≠ ticket.matchTicketId := by
    intro owner other isMade same
    obtain ⟨-, rfl⟩ := sound'.eq_of_matchTicketId (fun _ issued => issued)
      (precedes.made isMade) made same
    exact unmade owner isMade
  have same : ∀ {other}, world.Made .solo other →
      ((call.complete deployment world).tickets .solo).items other.matchTicketId =
        (world.tickets .solo).items other.matchTicketId := by
    intro other isMade
    cases queue with
    | party => rcases entries with ⟨-, tickets⟩ | ⟨-, -, tickets⟩ <;> simp [tickets]
    | solo =>
        rcases entries with ⟨-, tickets⟩ | ⟨-, -, tickets⟩ <;>
          rw [tickets, Function.update_self]
        · rw [TicketRegistry.eraseMatchTicket, Registry.erase_items,
            Function.update_of_ne (apart isMade)]
        · exact Function.update_of_ne (apart isMade) _ _
  refine ⟨fun {owner other} isMade => ?_, fun {other} isMade asks => ?_⟩
  · rw [World.Made, frame.matchTickets] at isMade
    rcases List.mem_cons.mp isMade with new | earlier
    · obtain ⟨rfl, rfl⟩ := Prod.mk.inj new
      intro queued
      rcases entries with ⟨unqueued, -⟩ | ⟨-, -, tickets⟩
      · exact (unqueued queued).elim
      · rw [tickets, Function.update_self]
        exact Function.update_self ..
    · exact Call.keepsQueued issued sound settled earlier handed.registers
  · have before := asked_before reached issued
      (fun stored _ => by rwa [frame.matchSessions] at stored) asks
    obtain ⟨owner, earlier⟩ := sound.started other (by rw [before]; rintro ⟨⟩)
    obtain ⟨rfl, -⟩ := sound'.eq_of_serial (precedes.made earlier) isMade rfl
    rw [same earlier]
    exact handed.asked earlier before

/-- A call that hands tickets over: the solo manager keeps those that the session manager
presumes to be of the party manager. -/
theorem World.HandedOver.handOver {key : MatchmakingGroupKey} {tickets : TicketSet}
    {middle : World} (retains : world.Retains deployment middle)
    (hands : call.HandsOver deployment world key tickets middle)
    (run : call.complete deployment world =
      ((MatchSessionManager.createMatchSession key tickets).run perform middle).2) :
    (call.complete deployment world).HandedOver := by
  obtain ⟨sound, settled⟩ := reached.settled
  obtain ⟨sound', -⟩ := (reached.call call issued).settled
  obtain ⟨soundBetween, -, integrated, searching, queue, made⟩ := hands.claimed reached issued
  have releases := MatchSessionManager.releases_createMatchSession integrated searching
  have registered := MatchSessionManager.registered_createMatchSession key tickets middle
  rw [← run] at releases registered
  have earlier : ∀ {owner ticket}, (call.complete deployment world).Made owner ticket →
      world.Made owner ticket := by
    intro owner ticket isMade
    rw [World.Made, registered.matchTickets, retains.matchTickets] at isMade
    exact isMade
  refine ⟨fun isMade => Call.keepsQueued issued sound settled (earlier isMade)
    handed.registers, fun {ticket} isMade asks => ?_⟩
  have madeBetween := retains.precedes.made (earlier isMade)
  have only : ∀ other ∈ tickets.1, other.matchTicketId = ticket.matchTicketId →
      other = ticket := fun other inside same =>
    (soundBetween.eq_of_matchTicketId (fun _ issued => issued) (made other inside) madeBetween
      same).2
  by_cases member : ticket ∈ tickets.1
  · have queued := queued_of_handsOver reached issued hands ticket member _ (earlier isMade)
    have stored := (retains.stored_iff sound soundBetween (fun _ issued => issued)
      (earlier isMade) (by rw [searching ticket member]; rfl)).mpr
        (handed.registers (earlier isMade) queued)
    cases presumed : ticket.presumedQueue with
    | solo =>
        have gone := releases.gone ticket member
        rw [presumed] at gone
        simp [gone]
    | party =>
        rw [releases.kept .solo ticket.matchTicketId fun other inside mine same => by
          rw [only other inside same, presumed] at mine
          cases mine]
        simp [stored]
  · have before := asked_before reached issued
      (fun stored inside => (registered.sessions stored).elim retains.sessions
        fun own => (member (own ▸ inside)).elim) asks
    have advances : Advances (middle.ticketStatus ticket) .requiresAcceptance := by
      have later : middle.Precedes (call.complete deployment world) := by
        rw [run]
        exact Program.run_invariant perform (fun step current precedes =>
          precedes.trans (precedes_perform step current)) _ (World.Precedes.refl middle)
      rw [← asks]
      exact later.advances ticket
    have live : (middle.ticketStatus ticket).terminal = false := by
      by_contra ended
      have same := advances.of_terminal (Bool.eq_true_of_not_eq_false ended)
      rw [← same] at ended
      exact ended rfl
    rw [releases.kept .solo ticket.matchTicketId fun other inside _ same =>
        member (only other inside same ▸ inside),
      retains.stored_iff sound soundBetween (fun _ issued => issued) (earlier isMade) live]
    exact handed.asked (earlier isMade) before

/-- A run of a worker of a group that there may not be. -/
theorem World.HandedOver.workerRun {Result : Type} {queue : QueueKind} {key : MatchmakingGroupKey}
    {operation : WorkerGroup → Operation Result}
    (program : call.program deployment = onGroup deployment queue key fun group => do
      let _ ← operation group)
    (creates : ∀ group, Creates (World.Retains deployment) (operation group)) :
    (call.complete deployment world).HandedOver := by
  have ends : Creates (World.Retains deployment) (call.program deployment) := by
    rw [program, onGroup]
    cases deployment.getWorkerGroup queue key with
    | none => exact fun world => Or.inl (.refl world)
    | some group => exact (creates group).bind_pure fun _ => ()
  rcases ends world with retains | ⟨_, _, middle, retains, entered, run⟩
  · exact handed.retain reached issued retains
  · exact handed.handOver reached issued retains entered run

theorem World.HandedOver.complete : (call.complete deployment world).HandedOver := by
  have consistent := reached.ticketsConsistent
  have retain : Retaining (call.program deployment) →
      (call.complete deployment world).HandedOver := fun retaining =>
    handed.retain reached issued (retaining.retains world)
  have submits : ∀ submission request, call.submission = some (submission, request) →
      (call.complete deployment world).HandedOver := by
    intro submission request submits
    have run : call.complete deployment world =
        ((submission.operation deployment request).run perform world).2 :=
      Call.complete_submission submits
    rcases submission.retains_or_submits consistent request with retains | submitted
    · exact handed.retain reached issued (run ▸ retains)
    · exact handed.submit reached issued (run.trans submitted)
  cases call with
  | soloStartMatchmaking | partyStartMatchmaking | startMatchBackfill => exact submits _ _ rfl
  | soloStopMatchmaking playerKey apply =>
      apply handed.retain reached issued
      rw [Call.complete, Call.program, Program.run_bind]
      exact SoloMatchmakingManager.retains_stopMatchmaking consistent playerKey apply
  | soloWorkerRun key workerId order =>
      refine handed.workerRun reached issued rfl fun group => ?_
      exact SoloMatchmakingWorkerGroup.creates_doWorkerAsyncJob World.Retains.refl
        (fun _ _ _ => World.Retains.trans) group workerId order
        (fun _ => World.retains_perform rfl _) (MatchmakingManager.retains_failAll .solo)
  | partyWorkerRun key workerId countOrder order =>
      refine handed.workerRun reached issued rfl fun group => ?_
      exact PartyMatchmakingWorkerGroup.creates_doWorkerAsyncJob World.Retains.refl
        (fun _ _ _ => World.Retains.trans) group workerId countOrder order
        (fun _ _ => World.retains_perform rfl _) (MatchmakingManager.retains_failAll .party)
  | playerLogin playerKey =>
      exact handed.retain reached issued (retains_processPlayerLogin consistent playerKey)
  | tick => exact retain (retaining_atomically rfl _)
  | partyStopMatchmaking playerKey =>
      exact retain ((PartyMatchmakingManager.retaining_stopMatchmaking deployment playerKey).bind
        fun _ => trivial)
  | stopMatchBackfill matchTicketId =>
      exact retain (PartyMatchmakingManager.retaining_stopMatchBackfill deployment matchTicketId)
  | expandMatchmakingWorkerSlots key =>
      apply retain
      rw [Call.program, onGroup]
      cases deployment.getWorkerGroup .party key with
      | none => trivial
      | some group => exact retaining_atomically rfl _
  | acceptMatchSession acceptInfo =>
      exact retain (MatchSessionManager.retaining_acceptMatchSession acceptInfo)
  | onTimeOutAcceptMatchSession matchId =>
      exact retain (MatchSessionManager.retaining_onTimeOutAcceptMatchSession matchId)
  | onTimeOutPlaceMatchSession matchId =>
      exact retain (MatchSessionManager.retaining_onTimeOutPlaceMatchSession matchId)
  | onFailedMatchSession matchId =>
      exact retain (MatchSessionManager.retaining_onFailedMatchSession matchId)
  | onCompleteMatchSession info success =>
      exact retain (MatchSessionManager.retaining_onCompleteMatchSession info success)
  | sessionWorkerRun => exact retain retaining_sessionWorkerRun
  | penaltyWorkerRun => exact retain neutral_penaltyWorkerRun.retaining
  | zoneWorkerRun => exact retain neutral_zoneWorkerRun.retaining
  | playerLeave playerKey isDodge =>
      exact retain ((IntegrationZoneInstanceManager.neutral_processPlayerLeaveToIntegrationServer
        playerKey isDodge).retaining.bind fun _ => trivial)
  | playerLeaved playerKey isDodge =>
      exact retain (IntegrationZoneInstanceManager.neutral_processPlayerLeavedFromIntegrationServer
        playerKey isDodge).retaining
  | zoneUpdated key =>
      exact retain
        (IntegrationZoneInstanceManager.neutral_processZoneInstanceInfoUpdated key).retaining
  | zoneTerminated info =>
      exact retain
        (IntegrationZoneInstanceManager.neutral_processZoneInstanceTerminated info).retaining
  | integrationServerClosed sessionKey worldNo =>
      exact retain (IntegrationZoneInstanceManager.neutral_processIntegrationServerClosed
        sessionKey worldNo).retaining

end Calls

/-- Between complete calls with server-issued ids tickets are handed over as presumed. -/
theorem Reached.handedOver (reached : Reached deployment Call.ServerIssued world) :
    world.HandedOver := by
  induction reached with
  | start => exact ⟨nofun, nofun⟩
  | call before call issued ih => exact ih.complete before issued

/-! ## Responses that are recorded -/

/-- Every player of a session has an entry, which shows no acceptance before a response. -/
structure MatchSessionState.Records (session : MatchSession) (state : MatchSessionState) :
    Prop where
  entry : ∀ playerKey ∈ session.ticketPlayers, ∃ recorded,
    state.playerMatchAcceptInfos.find? playerKey = some recorded
  silent : ∀ playerKey recorded,
    state.playerMatchAcceptInfos.find? playerKey = some recorded →
    recorded.hasResponded = false → recorded.isAccept = false

theorem MatchSessionState.Records.initial (session : MatchSession) :
    MatchSessionState.Records session
      { playerMatchAcceptInfos := session.initialAcceptInfos } where
  entry playerKey inside := ⟨_, by rw [MatchSession.find?_initialAcceptInfos, if_pos inside]⟩
  silent playerKey recorded found _ := by
    rw [MatchSession.find?_initialAcceptInfos] at found
    split_ifs at found
    obtain rfl := Option.some.inj found
    rfl

theorem MatchSessionState.Records.acceptPlayerSession {session : MatchSession}
    {state : MatchSessionState} (records : state.Records session)
    (acceptInfo : PlayerMatchAcceptInfo) :
    (state.acceptPlayerSession acceptInfo).2.Records session := by
  rw [MatchSessionState.acceptPlayerSession]
  cases found : state.playerMatchAcceptInfos.find? acceptInfo.playerKey with
  | none => exact records
  | some earlier =>
      dsimp only
      split_ifs
      · exact records
      · refine ⟨fun playerKey inside => ?_, fun playerKey recorded present unanswered => ?_⟩
        · simp only [OrderedMap.find?_insertOrAssign]
          split_ifs
          · exact ⟨_, rfl⟩
          · exact records.entry playerKey inside
        · simp only [OrderedMap.find?_insertOrAssign] at present
          split_ifs at present
          · obtain rfl := Option.some.inj present
            cases unanswered
          · exact records.silent playerKey recorded present unanswered

theorem records_perform {session : MatchSession}
    (records : (world.sessionState session).Records session) (step : Section) :
    ((perform step world).sessionState session).Records session := by
  have same : ∀ {state : MatchSessionState}, state.playerMatchAcceptInfos =
      (world.sessionState session).playerMatchAcceptInfos → state.Records session :=
    fun infos => ⟨infos ▸ records.entry, infos ▸ records.silent⟩
  cases step with
  | forceSessionStatus other status =>
      apply same
      by_cases own : session = other
      · subst own
        simp [perform]
      · simp [perform, own]
  | changeSessionStatus other status =>
      apply same
      by_cases own : session = other
      · subst own
        simp [perform, World.changeSessionStatus,
          MatchSession.playerMatchAcceptInfos_changeStatus]
      · simp [perform, own]
  | acceptPlayerSession other acceptInfo =>
      by_cases own : session = other
      · subst own
        simpa [perform] using records.acceptPlayerSession acceptInfo
      · simpa [perform, own] using records
  | nextIntegrationWorldNo worldGroupNo =>
      simp only [perform]
      split_ifs <;> exact records
  | _ => exact records

theorem Reached.records {admissible : Call → Prop}
    (reached : Reached deployment admissible world) (session : MatchSession) :
    (world.sessionState session).Records session := by
  obtain ⟨_, _, execution⟩ := reached.interleaved
  exact Execution.invariant (fun world => (world.sessionState session).Records session)
    (.initial session) (fun step _ _ records => records_perform records step) execution

/-- The tickets of registered sessions share no player. -/
theorem Reached.matchSessions_exact {admissible : Call → Prop}
    (reached : Reached deployment admissible world) :
    world.matchSessions.Exact MatchSession.matchId MatchSession.ticketPlayers := by
  obtain ⟨_, _, execution⟩ := reached.interleaved
  refine Execution.invariant (fun world : World =>
    world.matchSessions.Exact MatchSession.matchId MatchSession.ticketPlayers)
    Registry.Exact.empty (fun step current _ exact => ?_) execution
  cases step with
  | insertMatchSession session => exact exact.apply (.insert session)
  | eraseMatchSession matchId => exact exact.apply (.erase matchId)
  | nextIntegrationWorldNo worldGroupNo =>
      simp only [perform]
      split_ifs <;> exact exact
  | _ => exact exact

/-! ## Cancelling and declining -/

/-- A player of a solo ticket is asked by a registered session and has not responded. -/
structure World.AsksSolo (world : World) (session : MatchSession) (ticket : MatchTicket)
    (playerKey : PlayerKey) : Prop where
  registered : world.matchSessions.items session.matchId = some session
  asks : (world.sessionState session).status = .requiresAcceptance
  made : world.Made .solo ticket
  member : ticket ∈ session.tickets
  player : playerKey ∈ ticket.players
  unanswered : ∀ recorded,
    (world.sessionState session).playerMatchAcceptInfos.find? playerKey = some recorded →
    recorded.hasResponded = false

/-- The solo manager still has, under the player, a ticket that waits for acceptance. -/
def World.FindsAsked (world : World) (playerKey : PlayerKey) : Prop :=
  ∃ ticket, ((world.tickets .solo).owner playerKey).bind (world.tickets .solo).items =
    some ticket ∧ world.ticketStatus ticket = .requiresAcceptance

/-- The effect of a decline: the session and all of its tickets failed, the session is
deregistered and the player is penalized. -/
structure World.DeclinedBy (before after : World) (session : MatchSession)
    (playerKey : PlayerKey) : Prop where
  declines : after = ((MatchSessionManager.acceptMatchSession
    { playerKey := playerKey, isAccept := false }).run perform before).2
  ended : after.Ended session .failed
  penalty : after.dodgePenalties playerKey = some (before.timeMsec + 15000)

section Declining

variable {admissible : Call → Prop} {session : MatchSession} {ticket : MatchTicket}
  {playerKey : PlayerKey} (asked : world.AsksSolo session ticket playerKey)

include asked

section Declined

variable (reached : Reached deployment admissible world)

include reached

/-- A decline by the player counts. -/
theorem World.AsksSolo.counts :
    MatchSessionManager.Counts world { playerKey := playerKey, isAccept := false } session := by
  have joins : playerKey ∈ session.ticketPlayers :=
    MatchSession.mem_ticketPlayers.mpr ⟨ticket, asked.member, asked.player⟩
  have records := reached.records session
  obtain ⟨recorded, found⟩ := records.entry playerKey joins
  have unanswered := asked.unanswered recorded found
  refine ⟨?_, ?_, asked.asks, ?_⟩
  · exact reached.matchSessions_exact.toConsistent.bind_items.mpr
      ⟨⟨_, asked.registered⟩, joins⟩
  · by_contra all
    have accepted := isAllAcceptPlayerSession_iff.mp (Bool.eq_true_of_not_eq_false all)
      playerKey recorded found
    rw [records.silent playerKey recorded found unanswered] at accepted
    cases accepted
  · simp [MatchSessionState.acceptPlayerSession, found, unanswered]

/-- A decline by the player ends the session. -/
theorem World.AsksSolo.declined :
    world.DeclinedBy ((MatchSessionManager.acceptMatchSession
      { playerKey := playerKey, isAccept := false }).run perform world).2 session playerKey := by
  have counts := asked.counts reached
  set recorded := MatchSessionManager.recorded world
    { playerKey := playerKey, isAccept := false } session with isRecorded
  have inStep : recorded.InStep :=
    reached.inStep.record (MatchSessionState.acceptPlayerSession_status _ _)
  have leaves : recorded.LeavesSessions (MatchSessionManager.penalized recorded playerKey) :=
    .of_eq rfl rfl rfl rfl
  have penalized := inStep.leaves leaves
  have run : (MatchSessionManager.acceptMatchSession { playerKey := playerKey, isAccept := false
      }).run perform world =
        ((), (MatchSessionManager.penalized recorded playerKey).ended session .failed) := by
    rw [MatchSessionManager.run_acceptMatchSession counts, if_pos rfl, ← isRecorded,
      MatchSessionManager.run_onFailedMatchSession penalized asked.registered]
  refine ⟨rfl, ?_, ?_⟩ <;> rw [run]
  · exact penalized.ended_ended asked.registered .failed
  · exact Function.update_self ..

end Declined

variable (reached : Reached deployment Call.ServerIssued world)

include reached

/-- The solo ticket waits for acceptance, and only one with a party key is presumed to be of
the party manager. -/
theorem World.AsksSolo.registered_iff :
    (world.tickets .solo).items ticket.matchTicketId = some ticket ↔
      0 < ticket.matchTicketRequest.partyKey := by
  obtain ⟨sound, settled⟩ := reached.settled
  have status : world.ticketStatus ticket = .requiresAcceptance :=
    (settled.seated.agrees _ _ asked.registered ticket asked.member).trans asked.asks
  have single : ¬ ticket.players.length > 1 := not_lt.mpr (sound.single ticket asked.made)
  rw [reached.handedOver.asked asked.made status, MatchTicket.presumedQueue,
    MatchTicket.isPartyTicket]
  simp [single]

/-- A solo ticket of the player that waits for acceptance is the one of the session. -/
theorem World.AsksSolo.only {other : MatchTicket}
    (status : world.ticketStatus other = .requiresAcceptance)
    (shared : playerKey ∈ other.players) : other = ticket := by
  obtain ⟨-, settled⟩ := reached.settled
  have exact := reached.matchSessions_exact
  obtain ⟨matchId, rival, stored, inside⟩ := (settled.session_seats other).mp (Or.inl status)
  have joins : playerKey ∈ session.ticketPlayers :=
    MatchSession.mem_ticketPlayers.mpr ⟨ticket, asked.member, asked.player⟩
  have joinsRival : playerKey ∈ rival.ticketPlayers :=
    MatchSession.mem_ticketPlayers.mpr ⟨other, inside, shared⟩
  obtain rfl := exact.toConsistent.disjoint stored asked.registered joinsRival joins
  obtain rfl := Option.some.inj (stored.symm.trans asked.registered)
  have unshared := (SessionRegistry.Indexed.of_exact exact).unshared stored
  have : Std.Symm fun left right : MatchTicket => left.players.Disjoint right.players :=
    ⟨fun _ _ apart => apart.symm⟩
  by_contra different
  exact unshared.forall inside asked.member different shared asked.player

/-- With server-issued ids, the solo manager finds a ticket of the player that waits for
acceptance exactly where the one of the session names a party. -/
theorem World.AsksSolo.findsAsked_iff :
    world.FindsAsked playerKey ↔ 0 < ticket.matchTicketRequest.partyKey := by
  have consistent := reached.ticketsConsistent .solo
  rw [← asked.registered_iff reached]
  constructor
  · rintro ⟨other, found, asks⟩
    obtain ⟨⟨id, stored⟩, shared⟩ := consistent.bind_items.mp found
    obtain rfl := asked.only reached asks shared
    obtain rfl := consistent.keyed stored
    exact stored
  · intro stored
    refine ⟨ticket, consistent.bind_items.mpr ⟨⟨_, stored⟩, asked.player⟩, ?_⟩
    exact (reached.inStep.agrees _ _ asked.registered ticket asked.member).trans asked.asks

end Declining

/-- Stopping a ticket that does not wait for acceptance leaves the sessions as they are. -/
theorem SoloMatchmakingManager.sessionState_stopMatchmaking {playerKey : PlayerKey} {apply : Bool}
    (quiet : ∀ ticket,
      ((world.tickets .solo).owner playerKey).bind (world.tickets .solo).items = some ticket →
      world.ticketStatus ticket ≠ .requiresAcceptance) :
    ((stopMatchmaking deployment playerKey apply).run perform world).2.sessionState =
      world.sessionState := by
  simp only [stopMatchmaking, Program.run_bind, MatchmakingManager.run_findMatchTicketByPlayerKey]
  cases found : ((world.tickets .solo).owner playerKey).bind (world.tickets .solo).items with
  | none => rfl
  | some ticket =>
      simp only [Program.run_bind, run_readWorld, Program.run_ite, if_neg (quiet ticket found)]
      cases served : deployment.getWorkerGroup .solo ticket.matchingGroupKey with
      | none =>
          simp only [Program.run_bind, Program.run_ite]
          split_ifs <;> rfl
      | some group =>
          simp only [Program.run_bind, Program.run_ite,
            SoloMatchmakingWorkerGroup.cancelMatchTicket]
          split_ifs <;> rfl

/-- **Cancelling during acceptance is a decline** exactly where the solo manager still has a
ticket of the player that waits for acceptance. In every state between complete calls, for every
player of a solo ticket who is asked by a registered session and has not responded. Where the
callers leave the choice of ids to the server, these are the players whose ticket names a
party. -/
theorem cancel_declines_iff {admissible : Call → Prop}
    (reached : Reached deployment admissible world) {session : MatchSession} {ticket : MatchTicket}
    {playerKey : PlayerKey} (asked : world.AsksSolo session ticket playerKey) (apply : Bool) :
    (world.DeclinedBy ((SoloMatchmakingManager.stopMatchmaking deployment playerKey apply).run
        perform world).2 session playerKey ↔ world.FindsAsked playerKey) ∧
      ((∀ call, admissible call → call.ServerIssued) →
        (world.FindsAsked playerKey ↔ 0 < ticket.matchTicketRequest.partyKey)) := by
  refine ⟨⟨fun declined => ?_, fun finds => ?_⟩,
    fun issued => asked.findsAsked_iff (reached.mono _ issued)⟩
  · by_contra forgotten
    have kept : ((SoloMatchmakingManager.stopMatchmaking deployment playerKey apply).run
        perform world).2.sessionState = world.sessionState :=
      SoloMatchmakingManager.sessionState_stopMatchmaking
        fun other found asks => forgotten ⟨other, found, asks⟩
    have failed := declined.ended.own
    rw [kept, asked.asks] at failed
    cases failed
  · rw [SoloMatchmakingManager.run_stopMatchmaking_of_declines deployment
      ⟨finds, session, asked.counts reached⟩]
    exact asked.declined reached

section Alone

/-- Player 1 queues alone and is matched by the solo worker. -/
def soloMatchCalls (request : MatchTicketRequest) : List Call :=
  [.soloStartMatchmaking request, .soloWorkerRun (0, "Dungeon") 0 (IterationOrder.asListed _)]

def soloMatchWorld (request : MatchTicketRequest) : World :=
  completeAll soleMatchDeployment (soloMatchCalls request) {}

/-- The first ticket that is made, and its session. -/
def soloMatchTicket (request : MatchTicketRequest) : MatchTicket :=
  ⟨0, { request with matchTicketId := 1000 }, 0⟩

def soloMatchSession (request : MatchTicketRequest) : MatchSession :=
  ⟨0, 1000, [some (soloMatchTicket request)], List.nodup_singleton _, 0, "Dungeon"⟩

theorem soloMatchWorld_reached {request : MatchTicketRequest}
    (issued : request.matchTicketId = -1) :
    Reached soleMatchDeployment Call.ServerIssued (soloMatchWorld request) := by
  refine Reached.completeAll _ .start fun call inside => ?_
  rcases List.mem_cons.mp inside with rfl | inside
  · intro other asks
    cases asks
    exact issued
  · rw [List.mem_singleton.mp inside]
    exact nofun

theorem soloMatchWorld_asks {request : MatchTicketRequest}
    (own : request = soleRequest 1 ∨ request = soloRequest 1) :
    (soloMatchWorld request).AsksSolo (soloMatchSession request) (soloMatchTicket request) 1 := by
  have entry : ((soloMatchWorld request).sessionState
      (soloMatchSession request)).playerMatchAcceptInfos.find? 1 = some { playerKey := 1 } := by
    rcases own with rfl | rfl <;> decide +kernel
  have made :
      (QueueKind.solo, soloMatchTicket request) ∈ (soloMatchWorld request).matchTickets := by
    rcases own with rfl | rfl <;> decide +kernel
  refine ⟨?_, ?_, made, List.mem_singleton_self _, ?_, fun recorded found => ?_⟩
  · rcases own with rfl | rfl <;> decide +kernel
  · rcases own with rfl | rfl <;> decide +kernel
  · rcases own with rfl | rfl <;> decide
  · rw [entry, Option.some.injEq] at found
    subst found
    rfl

/-- Players 1 and 2 queue alone with party keys and are matched. Before, another player was
refused with the id that player 1 chose, which took the ticket out of the manager's map. -/
def takenIdWorld : World :=
  completeAll pairDeployment [.soloStartMatchmaking { soleRequest 1 with matchTicketId := 5 },
    .soloStartMatchmaking { soleRequest 3 with matchTicketId := 5 },
    .soloStartMatchmaking (soleRequest 2), pairWorkerRun] {}

def takenIdTicket : MatchTicket := ⟨0, { soleRequest 1 with matchTicketId := 5 }, 0⟩

def takenIdRival : MatchTicket := ⟨2, { soleRequest 2 with matchTicketId := 1000 }, 0⟩

def takenIdSession : MatchSession :=
  ⟨0, 5, [some takenIdTicket, some takenIdRival], by decide, 0, "Dungeon"⟩

theorem takenIdWorld_reached : Reached pairDeployment (fun _ => True) takenIdWorld :=
  .completeAll _ .start fun _ _ => trivial

theorem takenIdWorld_asks {ticket : MatchTicket} {playerKey : PlayerKey}
    (own : ticket = takenIdTicket ∧ playerKey = 1 ∨ ticket = takenIdRival ∧ playerKey = 2) :
    takenIdWorld.AsksSolo takenIdSession ticket playerKey := by
  have entry : (takenIdWorld.sessionState takenIdSession).playerMatchAcceptInfos.find? playerKey =
      some { playerKey := playerKey } := by
    rcases own with ⟨-, rfl⟩ | ⟨-, rfl⟩ <;> decide +kernel
  have made : (QueueKind.solo, ticket) ∈ takenIdWorld.matchTickets := by
    rcases own with ⟨rfl, -⟩ | ⟨rfl, -⟩ <;> decide +kernel
  refine ⟨by decide +kernel, by decide +kernel, made, ?_, ?_, fun recorded found => ?_⟩
  · rcases own with ⟨rfl, -⟩ | ⟨rfl, -⟩ <;> decide
  · rcases own with ⟨rfl, rfl⟩ | ⟨rfl, rfl⟩ <;> decide
  · rw [entry, Option.some.injEq] at found
    subst found
    rfl

theorem cancel_declines_iff_pair :
    (¬ takenIdWorld.DeclinedBy ((SoloMatchmakingManager.stopMatchmaking pairDeployment 1 true).run
        perform takenIdWorld).2 takenIdSession 1 ∧
      takenIdWorld.DeclinedBy ((SoloMatchmakingManager.stopMatchmaking pairDeployment 2 true).run
        perform takenIdWorld).2 takenIdSession 2) ∧
      (soloMatchWorld (soleRequest 1)).FindsAsked 1 := by
  refine ⟨⟨fun declined => ?_, ?_⟩, ?_⟩
  · obtain ⟨ticket, found, -⟩ := (cancel_declines_iff takenIdWorld_reached
      (takenIdWorld_asks (Or.inl ⟨rfl, rfl⟩)) true).1.mp declined
    have forgotten : ((takenIdWorld.tickets .solo).owner 1).bind
        (takenIdWorld.tickets .solo).items = none := by decide +kernel
    cases forgotten.symm.trans found
  · refine (cancel_declines_iff takenIdWorld_reached (takenIdWorld_asks (Or.inr ⟨rfl, rfl⟩))
      true).1.mpr ⟨takenIdRival, by decide +kernel, by decide +kernel⟩
  · exact ((cancel_declines_iff (soloMatchWorld_reached rfl) (soloMatchWorld_asks (Or.inl rfl))
      true).2 fun _ => id).mpr (by decide)

/-- The solo manager has forgotten the ticket of a player without a party: cancelling is
ignored, and the session goes on waiting. -/
theorem cancel_ignored_during_acceptance :
    Reached soleMatchDeployment Call.ServerIssued (soloMatchWorld (soloRequest 1)) ∧
      (soloMatchWorld (soloRequest 1)).AsksSolo (soloMatchSession (soloRequest 1))
        (soloMatchTicket (soloRequest 1)) 1 ∧
      ¬ (soloMatchWorld (soloRequest 1)).DeclinedBy
        ((SoloMatchmakingManager.stopMatchmaking soleMatchDeployment 1 true).run perform
          (soloMatchWorld (soloRequest 1))).2 (soloMatchSession (soloRequest 1)) 1 := by
  refine ⟨soloMatchWorld_reached rfl, soloMatchWorld_asks (Or.inr rfl), fun declined => ?_⟩
  have waits : (((SoloMatchmakingManager.stopMatchmaking soleMatchDeployment 1 true).run perform
      (soloMatchWorld (soloRequest 1))).2.sessionState
        (soloMatchSession (soloRequest 1))).status = .requiresAcceptance := by decide +kernel
  cases waits.symm.trans declined.ended.own

end Alone

end MatchmakingMvp
