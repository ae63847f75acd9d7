import MatchmakingMvp.Integration.ZoneIndex
import MatchmakingMvp.Tickets.Cleanup

/-! # Operations that bring nobody in

Most operations add no ticket to a manager, no session, no player to a zone and no
scheduled completion (`MatchmakingMvp.Recedes`). That is seen section by section, except
where a player leaves a zone, which takes several sections.
-/

namespace MatchmakingMvp

open Foundation

/-- Everything that is registered or scheduled afterwards was so before. -/
structure World.Recedes (before after : World) : Prop extends before.ZonesRecede after where
  matchTickets : after.matchTickets = before.matchTickets
  tickets : ∀ {queue id ticket}, (after.tickets queue).items id = some ticket →
    (before.tickets queue).items id = some ticket
  sessions : ∀ {id session}, after.matchSessions.items id = some session →
    before.matchSessions.items id = some session
  completions : ∀ {dueTimeMsec info}, (dueTimeMsec, .complete info) ∈ after.sessionJobs →
    (dueTimeMsec, .complete info) ∈ before.sessionJobs

/-- One retreat after another. -/
theorem World.Recedes.trans {before middle after : World} (first : before.Recedes middle)
    (second : middle.Recedes after) : before.Recedes after where
  toZonesRecede := first.toZonesRecede.trans second.toZonesRecede
  matchTickets := second.matchTickets.trans first.matchTickets
  tickets present := first.tickets (second.tickets present)
  sessions present := first.sessions (second.sessions present)
  completions pending := first.completions (second.completions pending)

/-- Zone sections that keep the index exact. -/
theorem World.ZonesRecede.recedes {before after : World} (recede : before.ZonesRecede after)
    (matchTickets : after.matchTickets = before.matchTickets)
    (tickets : after.tickets = before.tickets)
    (matchSessions : after.matchSessions = before.matchSessions)
    (sessionJobs : after.sessionJobs = before.sessionJobs) : before.Recedes after where
  toZonesRecede := recede
  matchTickets := matchTickets
  tickets := by
    rw [tickets]
    exact id
  sessions := by
    rw [matchSessions]
    exact id
  completions := by
    rw [sessionJobs]
    exact id

/-- A step that leaves the three maps alone. -/
theorem World.ZonesIndexed.recedes_of_eq {before after : World} (indexed : before.ZonesIndexed)
    (zones : after.zones = before.zones) (players : after.playerSessions = before.playerSessions)
    (count : after.zoneInstanceCount = before.zoneInstanceCount)
    (matchTickets : after.matchTickets = before.matchTickets)
    (tickets : after.tickets = before.tickets)
    (matchSessions : after.matchSessions = before.matchSessions)
    (sessionJobs : after.sessionJobs = before.sessionJobs) : before.Recedes after :=
  (indexed.recede_of_eq zones players count).recedes matchTickets tickets matchSessions sessionJobs

/-- A section that by itself brings nobody in and leaves the zone index exact. -/
def Section.receding : Section → Bool
  | .newMatchTicket _ _ _ | .insertMatchTicket _ _ | .insertMatchSession _
  | .addSessionJob _ (.complete _) | .newZoneInstance _ | .insertZoneInstance _
  | .removePlayerSession _ _ | .eraseZonePlayer _ => false
  | _ => true

/-- What each section without an insertion does to the maps. -/
theorem World.ZonesIndexed.recedes_perform {world : World} (indexed : world.ZonesIndexed)
    {step : Section} (receding : step.receding = true) :
    world.Recedes (perform step world) := by
  cases step with
  | eraseMatchTicket queue matchTicketId =>
      refine ⟨indexed.recede_of_eq rfl rfl rfl, rfl, fun {other id ticket} present => ?_, id, id⟩
      by_cases own : other = queue
      · subst own
        simp only [perform, World.withTickets_tickets, Function.update_self] at present
        exact (Registry.stored_of_erase _ _ present).2
      · simpa [perform, own] using present
  | eraseMatchSession matchId =>
      exact ⟨indexed.recede_of_eq rfl rfl rfl, rfl, id,
        fun present => (Registry.stored_of_erase _ _ present).2, id⟩
  | addSessionJob executeTimeMsec job =>
      refine ⟨indexed.recede_of_eq rfl rfl rfl, rfl, id, id, fun pending => ?_⟩
      rcases mem_insertMulti.mp pending with added | earlier
      · cases added
        cases receding
      · exact earlier
  | takeSessionJob =>
      refine ⟨indexed.recede_of_eq rfl rfl rfl, rfl, id, id, fun pending => ?_⟩
      simp only [perform, AsyncJobQueue.takeJob] at pending
      split at pending
      · cases pending
      next later =>
        split_ifs at pending
        · exact pending
        · rw [later]
          exact List.mem_cons_of_mem _ pending
  | eraseZoneInstance key => exact (indexed.erase key).recedes rfl rfl rfl rfl
  | nextIntegrationWorldNo worldGroupNo =>
      simp only [perform]
      split_ifs
      · exact indexed.recedes_of_eq rfl rfl rfl rfl rfl rfl rfl
      · exact indexed.recedes_of_eq rfl rfl rfl rfl rfl rfl rfl
  | newMatchTicket | insertMatchTicket | insertMatchSession | newZoneInstance
  | insertZoneInstance | removePlayerSession | eraseZonePlayer => cases receding
  | _ => exact indexed.recedes_of_eq rfl rfl rfl rfl rfl rfl rfl

/-- A complete run of the operation brings nobody in. -/
def Recedes {Result : Type} (operation : Operation Result) : Prop :=
  ∀ world : World, world.ZonesIndexed → world.Recedes (operation.run perform world).2

section Composition

variable {First Second Element : Type}

/-- An operation that does nothing. -/
theorem recedes_pure (result : First) : Recedes (pure result : Operation First) :=
  fun _ indexed => indexed.recedes_of_eq rfl rfl rfl rfl rfl rfl rfl

/-- An operation of one section without an insertion. -/
theorem recedes_atomically {step : Section} (receding : step.receding = true)
    (reading : World → First) : Recedes (Program.atomically step reading) :=
  fun _ indexed => indexed.recedes_perform receding

/-- A reading changes nothing. -/
theorem recedes_readWorld (reading : World → First) : Recedes (readWorld reading) :=
  recedes_atomically rfl reading

/-- One receding operation after another. -/
theorem Recedes.bind {operation : Operation First} {continuation : First → Operation Second}
    (first : Recedes operation) (second : ∀ result, Recedes (continuation result)) :
    Recedes (operation >>= continuation) := by
  intro world indexed
  rw [Program.run_bind]
  have before := first world indexed
  exact before.trans (second _ _ before.zones)

/-- Both branches recede. -/
theorem Recedes.ite {condition : Prop} [Decidable condition] {operation other : Operation First}
    (first : Recedes operation) (second : Recedes other) :
    Recedes (if condition then operation else other) := by
  split_ifs
  · exact first
  · exact second

/-- A loop of receding operations, by induction over its elements. -/
theorem recedes_forAll {operation : Element → Operation Unit} {elements : List Element}
    (each : ∀ element, Recedes (operation element)) : Recedes (forAll elements operation) := by
  induction elements with
  | nil => exact recedes_pure ()
  | cons element rest ih => exact (each element).bind fun _ => ih

/-- A loop whose results are joined. -/
theorem recedes_anyOf {operation : Element → Operation Bool} {elements : List Element}
    (each : ∀ element, Recedes (operation element)) : Recedes (anyOf elements operation) := by
  induction elements with
  | nil => exact recedes_pure false
  | cons element rest ih =>
      exact (each element).bind fun _ => ih.bind fun _ => recedes_pure _

end Composition

/-! ## Penalties and zones -/

namespace MatchPenaltyManager

/-- Penalties are outside the three maps. -/
theorem recedes_addDodgePenalty (playerKey : PlayerKey) (penaltyExpireTimeMsec : Int) :
    Recedes (addDodgePenalty playerKey penaltyExpireTimeMsec) :=
  (recedes_atomically rfl _).bind fun _ => recedes_atomically rfl _

/-- The deferred job of a penalty clears it at most. -/
theorem recedes_expireDodgePenalty (playerKey : PlayerKey) :
    Recedes (expireDodgePenalty playerKey) := by
  apply (recedes_readWorld _).bind
  intro found
  cases found with
  | none => exact recedes_pure ()
  | some penaltyExpireTimeMsec =>
      apply (recedes_readWorld _).bind
      intro now
      split_ifs
      · exact recedes_atomically rfl _
      · exact recedes_pure ()

end MatchPenaltyManager

namespace IntegrationZoneInstanceManager

/-- The look for a player's zone changes nothing. -/
theorem recedes_findByPlayerKey (playerKey : PlayerKey) : Recedes (findByPlayerKey playerKey) := by
  apply (recedes_readWorld _).bind
  intro found
  cases found with
  | none => exact recedes_pure none
  | some key => exact recedes_readWorld _

/-- A zone is removed under its key, and its players with it. -/
theorem recedes_erase (key : IntegrationZoneInstanceKey) : Recedes (erase key) :=
  recedes_atomically rfl _

/-- A player is taken out of its zone, of the index, and perhaps with the zone. -/
theorem recedes_eraseByPlayerKey (playerKey : PlayerKey) :
    Recedes (eraseByPlayerKey playerKey) := by
  intro world indexed
  have recede := recede_eraseByPlayerKey indexed playerKey
  rw [eraseByPlayerKey, Program.run_bind, run_findByPlayerKey] at recede ⊢
  cases named : (world.zones.findMapByPlayerKey playerKey).bind
      world.zones.instanceMap.find? with
  | none => exact recedes_pure none world indexed
  | some zone =>
      simp only [named, Program.run_bind, Program.run_atomically, run_readWorld, Program.run_ite,
        Program.run_pure] at recede ⊢
      split_ifs at recede ⊢
      · exact recede.recedes rfl rfl rfl rfl
      · exact recede.recedes rfl rfl rfl rfl

/-- A job is scheduled. -/
theorem recedes_processIntegrationServerClosed (sessionKey worldNo : Int) :
    Recedes (processIntegrationServerClosed sessionKey worldNo) :=
  (recedes_readWorld _).bind fun _ => recedes_atomically rfl _

/-- Zones of the server are removed one by one. -/
theorem recedes_processIntegrationServerClosedAsync (sessionKey worldNo : Int) :
    Recedes (processIntegrationServerClosedAsync sessionKey worldNo) := by
  apply (recedes_readWorld _).bind
  intro zones
  apply recedes_forAll
  intro zone
  split_ifs
  · exact recedes_pure ()
  · exact recedes_pure ()
  · exact (recedes_erase _).bind fun _ => recedes_pure ()
  · exact recedes_pure ()

/-- The zone is removed, or its job is scheduled again. -/
theorem recedes_processZoneInstanceExpireAsync (key : IntegrationZoneInstanceKey) :
    Recedes (processZoneInstanceExpireAsync key) := by
  apply (recedes_readWorld _).bind
  intro found
  cases found with
  | none => exact recedes_pure ()
  | some zone =>
      apply (recedes_readWorld _).bind
      intro expireTimeMsec
      apply (recedes_readWorld _).bind
      intro now
      split_ifs
      · exact (recedes_readWorld _).bind fun _ => recedes_atomically rfl _
      · exact (recedes_erase key).bind fun _ => recedes_pure ()

/-- A job is scheduled if there is a zone. -/
theorem recedes_processPlayerLeaveToIntegrationServer (playerKey : PlayerKey) (isDodge : Bool) :
    Recedes (processPlayerLeaveToIntegrationServer playerKey isDodge) := by
  apply (recedes_findByPlayerKey playerKey).bind
  intro found
  cases found with
  | none => exact recedes_pure false
  | some zone =>
      exact (recedes_readWorld _).bind fun _ => (recedes_atomically rfl _).bind fun _ =>
        recedes_pure true

/-- A player leaves its zone. -/
theorem recedes_processPlayerLeavedFromIntegrationServer (playerKey : PlayerKey)
    (isDodge : Bool) : Recedes (processPlayerLeavedFromIntegrationServer playerKey isDodge) := by
  apply (recedes_eraseByPlayerKey playerKey).bind
  intro left
  cases left with
  | none => exact recedes_pure ()
  | some zone =>
      have read : ∀ _ : Unit, Recedes (do
          let _ ← MatchPenaltyManager.findDodgePenalty playerKey : Operation Unit) :=
        fun _ => (recedes_readWorld _).bind fun _ => recedes_pure ()
      dsimp only
      split_ifs
      · exact (recedes_readWorld _).bind fun _ =>
          (MatchPenaltyManager.recedes_addDodgePenalty _ _).bind read
      · exact read ()

/-- A zone lives longer, and no player is added. -/
theorem recedes_processZoneInstanceInfoUpdated (key : IntegrationZoneInstanceKey) :
    Recedes (processZoneInstanceInfoUpdatedFromIntegrationServer key) := by
  apply (recedes_readWorld _).bind
  intro found
  cases found with
  | none => exact recedes_pure ()
  | some zone => exact recedes_atomically rfl _

/-- The players leave one by one, and the zone is removed. -/
theorem recedes_processZoneInstanceTerminated (info : IntegrationZoneInstanceInfo) :
    Recedes (processZoneInstanceTerminatedFromIntegrationServer info) := by
  apply (recedes_readWorld _).bind
  intro found
  cases found with
  | none => exact recedes_pure ()
  | some zone =>
      apply (recedes_forAll fun playerKey =>
        recedes_processPlayerLeavedFromIntegrationServer playerKey _).bind
      intro _
      exact (recedes_erase _).bind fun _ => recedes_pure ()

end IntegrationZoneInstanceManager

/-- The worker of the penalties runs at most one job. -/
theorem recedes_penaltyWorkerRun : Recedes penaltyWorkerRun := by
  apply (recedes_atomically rfl _).bind
  intro job
  cases job with
  | none => exact recedes_pure ()
  | some playerKey => exact MatchPenaltyManager.recedes_expireDodgePenalty playerKey

/-- The worker of the zones runs at most one job, and none of them inserts. -/
theorem recedes_zoneWorkerRun : Recedes zoneWorkerRun := by
  apply (recedes_atomically rfl _).bind
  intro job
  cases job with
  | none => exact recedes_pure ()
  | some job =>
      cases job with
      | serverClosed sessionKey worldNo =>
          exact IntegrationZoneInstanceManager.recedes_processIntegrationServerClosedAsync _ _
      | expire key => exact IntegrationZoneInstanceManager.recedes_processZoneInstanceExpireAsync _
      | playerLeaved playerKey isDodge =>
          exact IntegrationZoneInstanceManager.recedes_processPlayerLeavedFromIntegrationServer _ _

/-! ## Sessions -/

namespace MatchSessionManager

/-- Close a session if it can change to a terminal status. -/
theorem recedes_conclude (session : MatchSession) (status : MatchTicketStatus) (matchId : MatchId) :
    Recedes (do
      if (← changeStatus session status) = false then
        return ()
      let _ ← eraseMatchSession matchId : Operation Unit) := by
  apply (recedes_atomically rfl _).bind
  intro changed
  split_ifs
  · exact recedes_pure ()
  · exact (recedes_atomically rfl _).bind fun _ => recedes_pure ()

/-- A failed session is deregistered. -/
theorem recedes_onFailedMatchSession (matchId : MatchId) :
    Recedes (onFailedMatchSession matchId) := by
  apply (recedes_readWorld _).bind
  intro found
  cases found with
  | none => exact recedes_pure ()
  | some session => exact recedes_conclude session .failed matchId

/-- A session that times out is deregistered. -/
theorem recedes_onTimeOutAcceptMatchSession (matchId : MatchId) :
    Recedes (onTimeOutAcceptMatchSession matchId) := by
  apply (recedes_readWorld _).bind
  intro found
  cases found with
  | none => exact recedes_pure ()
  | some session =>
      apply (recedes_readWorld _).bind
      intro status
      split_ifs
      · exact recedes_pure ()
      · exact recedes_conclude session .timedOut matchId

/-- A placement that times out is deregistered. -/
theorem recedes_onTimeOutPlaceMatchSession (matchId : MatchId) :
    Recedes (onTimeOutPlaceMatchSession matchId) := by
  apply (recedes_readWorld _).bind
  intro found
  cases found with
  | none => exact recedes_pure ()
  | some session =>
      apply (recedes_readWorld _).bind
      intro status
      split_ifs
      · exact recedes_pure ()
      · exact recedes_conclude session .timedOut matchId

/-- A response is recorded, which no map holds. -/
theorem recedes_recorded {world : World} (indexed : world.ZonesIndexed)
    (acceptInfo : PlayerMatchAcceptInfo) (session : MatchSession) :
    world.Recedes (recorded world acceptInfo session) :=
  indexed.recedes_of_eq rfl rfl rfl rfl rfl rfl rfl

/-- The penalty of a decline, and the failure of its session. -/
theorem recedes_penalized {world : World} (indexed : world.ZonesIndexed) (playerKey : PlayerKey) :
    world.Recedes (penalized world playerKey) :=
  indexed.recedes_of_eq rfl rfl rfl rfl rfl rfl rfl

/-- A response brings nobody in unless it completes the responses of a session, which is
placed then. -/
theorem acceptMatchSession_cases {world : World} (indexed : world.ZonesIndexed)
    (acceptInfo : PlayerMatchAcceptInfo) :
    world.Recedes ((acceptMatchSession acceptInfo).run perform world).2 ∨
      ∃ session, Counts world acceptInfo session ∧ acceptInfo.isAccept = true ∧
        (acceptMatchSession acceptInfo).run perform world =
          (placeMatchSession session.matchId).run perform (recorded world acceptInfo session) := by
  by_cases counted : ∃ session, Counts world acceptInfo session
  · obtain ⟨session, counts⟩ := counted
    rw [run_acceptMatchSession counts]
    have before := recedes_recorded indexed acceptInfo session
    cases accepts : acceptInfo.isAccept with
    | false =>
        rw [if_pos rfl]
        have punished := recedes_penalized before.zones acceptInfo.playerKey
        exact Or.inl (before.trans (punished.trans
          (recedes_onFailedMatchSession session.matchId _ punished.zones)))
    | true =>
        rw [if_neg (by decide)]
        split_ifs
        · exact Or.inr ⟨session, counts, rfl, rfl⟩
        · exact Or.inl before
  · rw [run_acceptMatchSession_of_ignored (not_exists.mp counted)]
    exact Or.inl (indexed.recedes_of_eq rfl rfl rfl rfl rfl rfl rfl)

/-- A decline deregisters a session at most. -/
theorem recedes_decline (playerKey : PlayerKey) :
    Recedes (acceptMatchSession { playerKey := playerKey, isAccept := false }) := by
  intro world indexed
  rcases acceptMatchSession_cases indexed { playerKey := playerKey, isAccept := false } with
    recedes | ⟨_, _, accepts, _⟩
  · exact recedes
  · cases accepts

end MatchSessionManager

/-! ## Tickets -/

namespace MatchmakingManager

variable (queue : QueueKind)

/-- The look for a player's ticket changes nothing. -/
theorem recedes_findMatchTicketByPlayerKey (playerKey : PlayerKey) :
    Recedes (findMatchTicketByPlayerKey queue playerKey) := by
  apply (recedes_readWorld _).bind
  intro owner
  cases owner with
  | none => exact recedes_pure none
  | some matchTicketId => exact recedes_readWorld _

/-- A failed ticket is forgotten. -/
theorem recedes_onFailedMatchmaking (ticket : MatchTicket) :
    Recedes (onFailedMatchmaking queue ticket) := by
  apply (recedes_atomically rfl _).bind
  intro changed
  split_ifs
  · exact recedes_pure ()
  · exact (recedes_atomically rfl _).bind fun _ => recedes_pure ()

end MatchmakingManager

section Managers

variable (deployment : Deployment)

namespace SoloMatchmakingManager

/-- A solo ticket is cancelled and forgotten, or its session declined. -/
theorem recedes_stopMatchmaking (playerKey : PlayerKey) (applyDodgePenalty : Bool) :
    Recedes (stopMatchmaking deployment playerKey applyDodgePenalty) := by
  apply (MatchmakingManager.recedes_findMatchTicketByPlayerKey _ playerKey).bind
  intro found
  cases found with
  | none => exact recedes_pure none
  | some ticket =>
      have forget : Recedes (do
          let _ ← MatchmakingManager.eraseMatchTicket .solo ticket.matchTicketId
          if applyDodgePenalty then
            MatchPenaltyManager.addDodgePenalty playerKey ((← timeMsec) + 15000)
          return some ticket : Operation (Option MatchTicket)) := by
        apply (recedes_atomically rfl _).bind
        intro _
        cases applyDodgePenalty with
        | false => exact recedes_pure _
        | true =>
            exact (recedes_readWorld _).bind fun _ =>
              (MatchPenaltyManager.recedes_addDodgePenalty _ _).bind fun _ => recedes_pure _
      apply (recedes_readWorld _).bind
      intro status
      apply Recedes.ite
      · exact (MatchSessionManager.recedes_decline playerKey).bind fun _ => recedes_pure _
      apply (recedes_readWorld _).bind
      intro status
      apply Recedes.ite
      · exact recedes_pure _
      cases deployment.getWorkerGroup .solo ticket.matchingGroupKey with
      | none => exact forget
      | some group =>
          have cancel : Recedes (SoloMatchmakingWorkerGroup.cancelMatchTicket group ticket) := by
            rw [SoloMatchmakingWorkerGroup.cancelMatchTicket]
            split_ifs
            · exact recedes_atomically rfl _
            · exact recedes_pure false
          apply cancel.bind
          intro cancelled
          apply Recedes.ite
          · exact recedes_pure _
          · exact forget

/-- A player gives up its solo ticket and its zone. -/
theorem recedes_cleanupPrevMatchmaking (playerKey : PlayerKey) :
    Recedes (cleanupPrevMatchmaking deployment playerKey) :=
  (recedes_stopMatchmaking deployment playerKey false).bind fun _ =>
    (IntegrationZoneInstanceManager.recedes_processPlayerLeaveToIntegrationServer playerKey
      false).bind fun _ => recedes_pure _

end SoloMatchmakingManager

namespace PartyMatchmakingManager

/-- A party ticket is cancelled and forgotten. -/
theorem recedes_cancelFound (ticket : MatchTicket) : Recedes (cancelFound deployment ticket) := by
  have forget : ∀ cancelled : Bool, Recedes (do
      if cancelled = false then
        return false
      let _ ← MatchmakingManager.eraseMatchTicket .party ticket.matchTicketId
      return true : Operation Bool) := by
    intro cancelled
    split_ifs
    · exact recedes_pure false
    · exact (recedes_atomically rfl _).bind fun _ => recedes_pure true
  rw [cancelFound]
  cases deployment.getWorkerGroup .party ticket.matchingGroupKey with
  | none => exact (recedes_atomically rfl _).bind forget
  | some group => exact (recedes_atomically rfl _).bind forget

/-- A party gives up its ticket. -/
theorem recedes_stopMatchmaking (playerKey : PlayerKey) :
    Recedes (stopMatchmaking deployment playerKey) := by
  apply (MatchmakingManager.recedes_findMatchTicketByPlayerKey _ playerKey).bind
  intro found
  cases found with
  | none => exact recedes_pure none
  | some ticket => exact (recedes_cancelFound deployment ticket).bind fun _ => recedes_pure _

/-- A backfill ticket is given up. -/
theorem recedes_stopMatchBackfill (matchTicketId : MatchTicketId) :
    Recedes (stopMatchBackfill deployment matchTicketId) := by
  apply (recedes_readWorld _).bind
  intro found
  cases found with
  | none => exact recedes_pure ()
  | some ticket => exact (recedes_cancelFound deployment ticket).bind fun _ => recedes_pure ()

/-- A player gives up its party's ticket and its zone. -/
theorem recedes_cleanupPrevMatchmaking (playerKey : PlayerKey) :
    Recedes (cleanupPrevMatchmaking deployment playerKey) := by
  have leave : ∀ stopped : Option MatchTicket, Recedes (do
      let left ← IntegrationZoneInstanceManager.processPlayerLeaveToIntegrationServer playerKey
        false
      return stopped.isSome || left : Operation Bool) := fun _ =>
    (IntegrationZoneInstanceManager.recedes_processPlayerLeaveToIntegrationServer playerKey
      false).bind fun _ => recedes_pure _
  apply (MatchmakingManager.recedes_findMatchTicketByPlayerKey _ playerKey).bind
  intro found
  cases found with
  | none => exact leave none
  | some ticket => exact (recedes_stopMatchmaking deployment playerKey).bind leave

end PartyMatchmakingManager

/-- A login gives up both tickets of the player. -/
theorem recedes_processPlayerLogin (playerKey : PlayerKey) :
    Recedes (processPlayerLogin deployment playerKey) :=
  (PartyMatchmakingManager.recedes_stopMatchmaking deployment playerKey).bind fun _ =>
    (SoloMatchmakingManager.recedes_stopMatchmaking deployment playerKey false).bind fun _ =>
      (IntegrationZoneInstanceManager.recedes_findByPlayerKey playerKey).bind fun _ =>
        recedes_pure ()

end Managers

end MatchmakingMvp
