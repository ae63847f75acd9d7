import MatchmakingMvp.System.SingleEngagement
import MatchmakingMvp.Tickets.Cancellation

/-! # What the solo manager keeps

Outside of creation, a ticket leaves the map of the solo manager only once a ticket of its
id has ended (`MatchmakingMvp.World.Retains`). Complete calls other than submissions and
handovers are of this kind: most perform no section that adds a ticket or a session or
erases a solo ticket, and the solo manager cancels or fails a ticket before it erases it.
-/

namespace MatchmakingMvp

open Foundation

variable {deployment : Deployment} {before middle after world : World}

/-- No ticket is made and no ticket or session registered, and the solo manager keeps its
tickets, where a group serves them, as long as they have not ended. -/
structure World.Retains (deployment : Deployment) (before after : World) : Prop where
  precedes : before.Precedes after
  matchTickets : after.matchTickets = before.matchTickets
  sessions : ∀ {id session}, after.matchSessions.items id = some session →
    before.matchSessions.items id = some session
  tickets : ∀ {queue id ticket}, (after.tickets queue).items id = some ticket →
    (before.tickets queue).items id = some ticket
  kept : ∀ {id ticket}, (before.tickets .solo).items id = some ticket →
    (∃ group, deployment.getWorkerGroup .solo ticket.matchingGroupKey = some group) →
    (after.tickets .solo).items id = some ticket ∨ ∃ other : MatchTicket,
      other.matchTicketId = id ∧ (after.ticketStatus other).terminal = true

namespace World.Retains

theorem refl (world : World) : world.Retains deployment world :=
  ⟨.refl world, rfl, id, id, fun present _ => Or.inl present⟩

theorem trans (first : before.Retains deployment middle)
    (second : middle.Retains deployment after) : before.Retains deployment after where
  precedes := first.precedes.trans second.precedes
  matchTickets := second.matchTickets.trans first.matchTickets
  sessions present := first.sessions (second.sessions present)
  tickets present := first.tickets (second.tickets present)
  kept present served := by
    rcases first.kept present served with still | ⟨other, same, ended⟩
    · exact second.kept still served
    · refine Or.inr ⟨other, same, ?_⟩
      rw [(second.precedes.advances other).of_terminal ended]
      exact ended

end World.Retains

/-- A section that makes and registers nothing and erases no solo ticket. -/
def Section.retaining : Section → Bool
  | .newMatchTicket _ _ _ | .insertMatchTicket _ _ | .insertMatchSession _
  | .eraseMatchTicket .solo _ => false
  | _ => true

theorem World.retains_perform {step : Section} (retaining : step.retaining = true)
    (world : World) : world.Retains deployment (perform step world) := by
  have precedes := precedes_perform step world
  cases step with
  | newMatchTicket | insertMatchTicket | insertMatchSession => cases retaining
  | eraseMatchTicket queue matchTicketId =>
      cases queue with
      | solo => cases retaining
      | party =>
          refine ⟨precedes, rfl, id, fun {queue id ticket} present => ?_,
            fun present _ => Or.inl ?_⟩
          · cases queue with
            | solo => simpa [perform] using present
            | party =>
                simp only [perform, World.withTickets_tickets, Function.update_self] at present
                exact (Registry.stored_of_erase _ _ present).2
          · simpa [perform] using present
  | eraseMatchSession matchId =>
      exact ⟨precedes, rfl, fun present => (Registry.stored_of_erase _ _ present).2, id,
        fun present _ => Or.inl present⟩
  | nextIntegrationWorldNo worldGroupNo =>
      simp only [perform] at precedes ⊢
      split_ifs at precedes ⊢ <;>
        exact ⟨precedes, rfl, id, id, fun present _ => Or.inl present⟩
  | _ => exact ⟨precedes, rfl, id, id, fun present _ => Or.inl present⟩

/-- The operation performs such sections only. -/
abbrev Retaining {Result : Type} (operation : Operation Result) : Prop :=
  operation.Everywhere fun step => step.retaining = true

theorem Retaining.retains {Result : Type} {operation : Operation Result}
    (retaining : Retaining operation) (world : World) :
    world.Retains deployment (operation.run perform world).2 :=
  retaining.run_invariant perform
    (fun _ current retaining before => before.trans (World.retains_perform retaining current))
    (.refl world)

theorem Neutral.retaining {Result : Type} {operation : Operation Result}
    (neutral : Neutral operation) : Retaining operation := by
  refine neutral.mono fun step neutral => ?_
  cases step with
  | newMatchTicket | insertMatchTicket | insertMatchSession | eraseMatchTicket => cases neutral
  | _ => rfl

theorem retaining_atomically {Result : Type} {step : Section} (retaining : step.retaining = true)
    (reading : World → Result) : Retaining (Program.atomically step reading) :=
  ⟨retaining, fun _ => trivial⟩

theorem retaining_readWorld {Result : Type} (reading : World → Result) :
    Retaining (readWorld reading) := retaining_atomically rfl reading

/-! ## Sessions -/

namespace MatchSessionManager

theorem retaining_findMatchSessionByPlayerKey (playerKey : PlayerKey) :
    Retaining (findMatchSessionByPlayerKey playerKey) := by
  apply (retaining_readWorld _).bind
  intro owner
  cases owner with
  | none => trivial
  | some matchId => exact retaining_readWorld _

/-- Close a session if it can change to a status. -/
theorem retaining_conclude (session : MatchSession) (status : MatchTicketStatus)
    (matchId : MatchId) : Retaining (do
      if (← changeStatus session status) = false then
        return ()
      let _ ← eraseMatchSession matchId : Operation Unit) := by
  apply (retaining_atomically rfl _).bind
  intro changed
  split_ifs
  · trivial
  · exact (retaining_atomically rfl _).bind fun _ => trivial

theorem retaining_onFailedMatchSession (matchId : MatchId) :
    Retaining (onFailedMatchSession matchId) := by
  apply (retaining_readWorld _).bind
  intro found
  cases found with
  | none => trivial
  | some session => exact retaining_conclude session .failed matchId

theorem retaining_onTimeOutAcceptMatchSession (matchId : MatchId) :
    Retaining (onTimeOutAcceptMatchSession matchId) := by
  apply (retaining_readWorld _).bind
  intro found
  cases found with
  | none => trivial
  | some session =>
      apply (retaining_readWorld _).bind
      intro status
      split_ifs
      · trivial
      · exact retaining_conclude session .timedOut matchId

theorem retaining_onTimeOutPlaceMatchSession (matchId : MatchId) :
    Retaining (onTimeOutPlaceMatchSession matchId) := by
  apply (retaining_readWorld _).bind
  intro found
  cases found with
  | none => trivial
  | some session =>
      apply (retaining_readWorld _).bind
      intro status
      split_ifs
      · trivial
      · exact retaining_conclude session .timedOut matchId

theorem retaining_placeMatchSession (matchId : MatchId) :
    Retaining (placeMatchSession matchId) := by
  apply (retaining_readWorld _).bind
  intro found
  cases found with
  | none => trivial
  | some session =>
      apply (retaining_readWorld _).bind
      intro status
      split_ifs
      · trivial
      apply (retaining_atomically rfl _).bind
      intro changed
      split_ifs
      · exact (retaining_onFailedMatchSession session.matchId).bind fun _ => trivial
      · exact (retaining_readWorld _).bind fun _ => (retaining_atomically rfl _).bind fun _ =>
          (retaining_readWorld _).bind fun _ => retaining_atomically rfl _

theorem retaining_acceptMatchSession (acceptInfo : PlayerMatchAcceptInfo) :
    Retaining (acceptMatchSession acceptInfo) := by
  apply (retaining_findMatchSessionByPlayerKey _).bind
  intro found
  cases found with
  | none => trivial
  | some session =>
      apply (retaining_readWorld _).bind
      intro complete
      refine Program.Everywhere.ite (Program.everywhere_pure _) ?_
      apply (retaining_readWorld _).bind
      intro status
      refine Program.Everywhere.ite (Program.everywhere_pure _) ?_
      apply (retaining_atomically rfl _).bind
      intro first
      refine Program.Everywhere.ite (Program.everywhere_pure _) ?_
      have declined : Retaining (do
          MatchPenaltyManager.addDodgePenalty acceptInfo.playerKey ((← timeMsec) + 15000)
          onFailedMatchSession session.matchId
          return () : Operation Unit) :=
        (retaining_readWorld _).bind fun _ =>
          (MatchPenaltyManager.neutral_addDodgePenalty _ _).retaining.bind fun _ =>
            (retaining_onFailedMatchSession session.matchId).bind fun _ => trivial
      apply Program.Everywhere.ite declined
      apply (retaining_readWorld _).bind
      intro all
      exact Program.Everywhere.ite (retaining_placeMatchSession session.matchId) trivial

theorem retaining_onCompleteMatchSession (info : IntegrationZoneInstanceInfo) (success : Bool) :
    Retaining (onCompleteMatchSession info success) := by
  have fails := retaining_onFailedMatchSession info.matchId
  rw [onCompleteMatchSession]
  split_ifs
  · exact fails.bind fun _ => trivial
  apply (retaining_readWorld _).bind
  intro found
  cases found with
  | none => exact fails
  | some session =>
      apply (IntegrationZoneInstanceManager.neutral_insert _).retaining.bind
      intro inserted
      cases inserted with
      | none => exact fails
      | some zone =>
          apply (retaining_atomically rfl _).bind
          intro changed
          split_ifs
          · exact (retaining_atomically rfl _).bind fun _ => fails.bind fun _ => trivial
          · exact (retaining_atomically rfl _).bind fun _ => trivial

end MatchSessionManager

theorem retaining_sessionWorkerRun : Retaining sessionWorkerRun := by
  apply (retaining_atomically rfl _).bind
  intro job
  cases job with
  | none => trivial
  | some job =>
      cases job with
      | timeOutAccept matchId =>
          exact MatchSessionManager.retaining_onTimeOutAcceptMatchSession matchId
      | accept playerKey => exact MatchSessionManager.retaining_acceptMatchSession _
      | timeOutPlace matchId =>
          exact MatchSessionManager.retaining_onTimeOutPlaceMatchSession matchId
      | complete info => exact MatchSessionManager.retaining_onCompleteMatchSession info true

/-! ## Tickets -/

namespace MatchmakingManager

variable (queue : QueueKind)

theorem retaining_findMatchTicketByPlayerKey (playerKey : PlayerKey) :
    Retaining (findMatchTicketByPlayerKey queue playerKey) := by
  apply (retaining_readWorld _).bind
  intro owner
  cases owner with
  | none => trivial
  | some matchTicketId => exact retaining_readWorld _

end MatchmakingManager

namespace PartyMatchmakingManager

theorem retaining_cancelFound (deployment : Deployment) (ticket : MatchTicket) :
    Retaining (cancelFound deployment ticket) := by
  have forget : ∀ cancelled : Bool, Retaining (do
      if cancelled = false then
        return false
      let _ ← MatchmakingManager.eraseMatchTicket .party ticket.matchTicketId
      return true : Operation Bool) := by
    intro cancelled
    split_ifs
    · trivial
    · exact (retaining_atomically rfl _).bind fun _ => trivial
  rw [cancelFound]
  cases deployment.getWorkerGroup .party ticket.matchingGroupKey with
  | none => exact (retaining_atomically rfl _).bind forget
  | some group => exact (retaining_atomically rfl _).bind forget

theorem retaining_stopMatchmaking (deployment : Deployment) (playerKey : PlayerKey) :
    Retaining (stopMatchmaking deployment playerKey) := by
  apply (MatchmakingManager.retaining_findMatchTicketByPlayerKey .party playerKey).bind
  intro found
  cases found with
  | none => trivial
  | some ticket => exact (retaining_cancelFound deployment ticket).bind fun _ => trivial

theorem retaining_stopMatchBackfill (deployment : Deployment) (matchTicketId : MatchTicketId) :
    Retaining (stopMatchBackfill deployment matchTicketId) := by
  apply (retaining_readWorld _).bind
  intro found
  cases found with
  | none => trivial
  | some ticket => exact (retaining_cancelFound deployment ticket).bind fun _ => trivial

theorem retaining_cleanupPrevMatchmaking (deployment : Deployment) (playerKey : PlayerKey) :
    Retaining (cleanupPrevMatchmaking deployment playerKey) := by
  have leave := (IntegrationZoneInstanceManager.neutral_processPlayerLeaveToIntegrationServer
    playerKey false).retaining
  apply (MatchmakingManager.retaining_findMatchTicketByPlayerKey .party playerKey).bind
  intro found
  dsimp only
  split_ifs
  · exact (retaining_stopMatchmaking deployment playerKey).bind fun _ =>
      leave.bind fun _ => trivial
  · exact leave.bind fun _ => trivial

end PartyMatchmakingManager

/-! ## The solo manager -/

theorem World.TicketsConsistent.run {Result : Type} (consistent : world.TicketsConsistent)
    (operation : Operation Result) :
    (operation.run MatchmakingMvp.perform world).2.TicketsConsistent :=
  Program.run_invariant MatchmakingMvp.perform (fun step _ consistent => consistent.perform step)
    operation consistent

/-- The solo manager may erase an id once a ticket with it has ended, and an entry that no
group serves. -/
theorem World.retains_eraseMatchTicket {matchTicketId : MatchTicketId}
    (ended : ∀ ticket, (world.tickets .solo).items matchTicketId = some ticket →
      (∃ group, deployment.getWorkerGroup .solo ticket.matchingGroupKey = some group) →
      ∃ other : MatchTicket, other.matchTicketId = matchTicketId ∧
        (world.ticketStatus other).terminal = true) :
    world.Retains deployment (perform (.eraseMatchTicket .solo matchTicketId) world) := by
  refine ⟨precedes_perform _ world, rfl, id, fun {queue id ticket} present => ?_,
    fun {id ticket} present served => ?_⟩
  · cases queue with
    | solo =>
        simp only [perform, World.withTickets_tickets, Function.update_self] at present
        exact (Registry.stored_of_erase _ _ present).2
    | party => simpa [perform] using present
  · by_cases same : id = matchTicketId
    · subst same
      exact Or.inr (ended ticket present served)
    · rw [World.items_eraseMatchTicket_of_ne same]
      exact Or.inl present

namespace MatchmakingManager

theorem retains_onFailedMatchmaking (queue : QueueKind) (ticket : MatchTicket) (world : World) :
    world.Retains deployment ((onFailedMatchmaking queue ticket).run perform world).2 := by
  have fails : world.Retains deployment (perform (.changeTicketStatus ticket .failed) world) :=
    World.retains_perform rfl world
  simp only [onFailedMatchmaking, Program.run_bind, run_changeTicketStatus, Program.run_ite,
    run_eraseMatchTicket, Program.run_pure]
  split_ifs with stuck
  · exact fails
  · refine fails.trans ?_
    cases queue with
    | party =>
        have retaining : (Section.eraseMatchTicket .party ticket.matchTicketId).retaining = true :=
          rfl
        exact World.retains_perform retaining _
    | solo =>
        refine World.retains_eraseMatchTicket fun _ _ _ => ⟨ticket, rfl, ?_⟩
        cases can : canChangeStatus (world.ticketStatus ticket) .failed with
        | true =>
            simp only [perform, World.withTicketStatus_ticketStatus,
              MatchTicket.changeStatus_of_can can, Function.update_self]
            rfl
        | false => simp [MatchTicket.changeStatus_of_cannot can] at stuck

theorem retains_failAll (queue : QueueKind) (tickets : List MatchTicket) (world : World) :
    world.Retains deployment
      ((forAll tickets (onFailedMatchmaking queue)).run perform world).2 := by
  induction tickets generalizing world with
  | nil => exact .refl world
  | cons ticket rest ih =>
      rw [run_forAll_cons]
      exact (retains_onFailedMatchmaking queue ticket world).trans (ih _)

end MatchmakingManager

/-- A cancelled ticket has ended. -/
theorem SoloMatchmakingWorkerGroup.retains_cancelMatchTicket (group : WorkerGroup)
    (ticket : MatchTicket) (world : World) :
    let cancelled := (cancelMatchTicket group ticket).run perform world
    world.Retains deployment cancelled.2 ∧
      (cancelled.1 = true → (cancelled.2.ticketStatus ticket).terminal = true) := by
  simp only [cancelMatchTicket, Program.run_ite, Program.run_atomically, Program.run_pure]
  split_ifs
  · set step := Section.soloCancel group (getWorkerIndex group.workerCount ticket.matchTicketId)
      ticket
    have cancels : step.cancels ticket = true := decide_eq_true rfl
    refine ⟨World.retains_perform (rfl : step.retaining = true) world, fun succeeded => ?_⟩
    rcases cancel_cases cancels world with ⟨-, -, ended⟩ | ⟨-, failed, -⟩
    · rw [ended]
      rfl
    · cases failed.symm.trans succeeded
  · exact ⟨.refl world, by rintro ⟨⟩⟩

namespace SoloMatchmakingManager

theorem retains_stopMatchmaking (consistent : world.TicketsConsistent) (playerKey : PlayerKey)
    (apply : Bool) : world.Retains deployment
      ((stopMatchmaking deployment playerKey apply).run perform world).2 := by
  simp only [stopMatchmaking, Program.run_bind, MatchmakingManager.run_findMatchTicketByPlayerKey]
  cases found : ((world.tickets .solo).owner playerKey).bind (world.tickets .solo).items with
  | none => exact .refl world
  | some ticket =>
      obtain ⟨id, -, stored⟩ := Option.bind_eq_some_iff.mp found
      obtain rfl := (consistent .solo).keyed stored
      have forgets : ∀ middle, world.Retains deployment middle →
          (∀ other, (middle.tickets .solo).items ticket.matchTicketId = some other →
            (∃ group, deployment.getWorkerGroup .solo other.matchingGroupKey = some group) →
            ∃ other : MatchTicket, other.matchTicketId = ticket.matchTicketId ∧
              (middle.ticketStatus other).terminal = true) →
          world.Retains deployment ((do
            let _ ← MatchmakingManager.eraseMatchTicket .solo ticket.matchTicketId
            if apply then
              MatchPenaltyManager.addDodgePenalty playerKey ((← timeMsec) + 15000)
            return some ticket : Operation (Option MatchTicket)).run perform middle).2 := by
        intro middle before ended
        rw [Program.run_bind, MatchmakingManager.run_eraseMatchTicket]
        refine (before.trans (World.retains_eraseMatchTicket ended)).trans
          (Retaining.retains ?_ _)
        split_ifs
        · exact (retaining_readWorld _).bind fun _ =>
            (MatchPenaltyManager.neutral_addDodgePenalty _ _).retaining.bind fun _ => trivial
        · trivial
      simp only [Program.run_bind, run_readWorld, Program.run_ite]
      by_cases asks : world.ticketStatus ticket = .requiresAcceptance
      · rw [if_pos asks]
        exact (MatchSessionManager.retaining_acceptMatchSession _).retains world
      rw [if_neg asks]
      by_cases stuck : canChangeStatus (world.ticketStatus ticket) .cancelled = false
      · rw [if_pos stuck]
        exact .refl world
      rw [if_neg stuck]
      cases served : deployment.getWorkerGroup .solo ticket.matchingGroupKey with
      | none =>
          refine forgets world (.refl world) fun other present exists' => ?_
          obtain ⟨group, exists'⟩ := exists'
          rw [stored, Option.some.injEq] at present
          subst present
          rw [served] at exists'
          cases exists'
      | some group =>
          obtain ⟨retains, ended⟩ :=
            @SoloMatchmakingWorkerGroup.retains_cancelMatchTicket deployment group ticket world
          dsimp only
          rw [Program.run_bind]
          by_cases refused : ((SoloMatchmakingWorkerGroup.cancelMatchTicket group ticket).run
              perform world).1 = false
          · rw [if_pos refused]
            exact retains
          · rw [if_neg refused]
            exact forgets _ retains fun _ _ _ =>
              ⟨ticket, rfl, ended (Bool.eq_true_of_not_eq_false refused)⟩

theorem retains_cleanupPrevMatchmaking (consistent : world.TicketsConsistent)
    (playerKey : PlayerKey) : world.Retains deployment
      ((cleanupPrevMatchmaking deployment playerKey).run perform world).2 := by
  rw [cleanupPrevMatchmaking, Program.run_bind]
  refine (retains_stopMatchmaking consistent playerKey false).trans (Retaining.retains ?_ _)
  exact (IntegrationZoneInstanceManager.neutral_processPlayerLeaveToIntegrationServer playerKey
    false).retaining.bind fun _ => trivial

end SoloMatchmakingManager

theorem retains_processPlayerLogin (consistent : world.TicketsConsistent)
    (playerKey : PlayerKey) : world.Retains deployment
      ((processPlayerLogin deployment playerKey).run perform world).2 := by
  have stopped : world.Retains deployment
      ((PartyMatchmakingManager.stopMatchmaking deployment playerKey).run perform world).2 :=
    (PartyMatchmakingManager.retaining_stopMatchmaking deployment playerKey).retains world
  rw [processPlayerLogin, Program.run_bind, Program.run_bind]
  refine (stopped.trans (SoloMatchmakingManager.retains_stopMatchmaking (consistent.run _)
    playerKey false)).trans (Retaining.retains ?_ _)
  exact (IntegrationZoneInstanceManager.neutral_findByPlayerKey playerKey).retaining.bind
    fun _ => trivial

/-! ## Submissions -/

/-- Cleaning up for each player. -/
theorem retains_anyOf {cleanup : PlayerKey → Operation Bool}
    (each : ∀ {world : World}, world.TicketsConsistent → ∀ playerKey,
      world.Retains deployment ((cleanup playerKey).run perform world).2)
    (consistent : world.TicketsConsistent) (players : List PlayerKey) :
    world.Retains deployment ((anyOf players cleanup).run perform world).2 := by
  induction players generalizing world with
  | nil => exact .refl world
  | cons playerKey rest ih =>
      simp only [anyOf, Program.run_bind, Program.run_pure]
      exact (each consistent playerKey).trans (ih (consistent.run _))

/-- What both managers do before they submit a request: they clean up and check for
penalties. -/
theorem retains_or_submits {cleanup : PlayerKey → Operation Bool} {request : MatchTicketRequest}
    {queue : QueueKind}
    (each : ∀ {world : World}, world.TicketsConsistent → ∀ playerKey,
      world.Retains deployment ((cleanup playerKey).run perform world).2)
    (clean : ∀ playerKey, ((cleanup playerKey).run perform world).1 = false →
      ((cleanup playerKey).run perform world).2 = world)
    (consistent : world.TicketsConsistent) :
    let started := ((do
      if ← anyOf request.players.elements cleanup then
        return none
      if ← MatchPenaltyManager.hasDodgePenalty request then
        return none
      submit deployment queue request : Operation (Option MatchTicket)).run perform world).2
    world.Retains deployment started ∨
      started = ((submit deployment queue request).run perform world).2 := by
  intro started
  have cleaned := retains_anyOf each consistent request.players.elements
  simp only [started, Program.run_bind, Program.run_ite, Program.run_pure,
    MatchPenaltyManager.run_hasDodgePenalty]
  split_ifs with busy penalized
  · exact Or.inl cleaned
  · exact Or.inl cleaned
  · rw [run_anyOf_of_false (fun playerKey _ => clean playerKey)
      (Bool.eq_false_of_not_eq_true busy)]
    exact Or.inr rfl

/-- A submission ends without a ticket, or its cleanup changes nothing and the request is
submitted. -/
theorem Submission.retains_or_submits (consistent : world.TicketsConsistent)
    (submission : Submission) (request : MatchTicketRequest) :
    let started := ((submission.operation deployment request).run perform world).2
    world.Retains deployment started ∨
      started = ((submit deployment submission.queue request).run perform world).2 := by
  intro started
  cases submission with
  | soloStartMatchmaking =>
      simp only [started, operation, soloStartMatchmaking_eq, Program.run_bind, run_readWorld]
      split_ifs
      · exact Or.inl (.refl world)
      · exact Or.inl (.refl world)
      · exact MatchmakingMvp.retains_or_submits
          SoloMatchmakingManager.retains_cleanupPrevMatchmaking
          (fun _ idle => (SoloMatchmakingManager.run_cleanup_of_false idle).1) consistent
  | partyStartMatchmaking =>
      simp only [started, operation, partyStartMatchmaking_eq, Program.run_bind, run_readWorld]
      split_ifs
      · exact Or.inl (.refl world)
      · exact MatchmakingMvp.retains_or_submits
          (fun _ playerKey => (PartyMatchmakingManager.retaining_cleanupPrevMatchmaking deployment
            playerKey).retains _)
          (fun _ idle => (PartyMatchmakingManager.run_cleanup_of_false idle).1) consistent
  | startMatchBackfill => exact Or.inr (congrArg Prod.snd (run_startMatchBackfill request))

end MatchmakingMvp
