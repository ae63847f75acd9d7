import MatchmakingMvp.Session.Lifecycle

/-! # What cleanup punishes

Before a submission and at a login the managers stop what a player still does in
a queue, and the zone manager schedules a leave job for the zone the player is in.
None of this is meant as a dodge. The solo manager, however, takes the request to
stop a ticket that waits for acceptance as a decline, whoever asks. Cleanup
therefore spares all players and sessions exactly where the player's decline does
not count (`MatchmakingMvp.cleanup_spares_iff`).
-/

namespace MatchmakingMvp

open Foundation

/-- No dodge penalty is added or extended, and no session fails. Adding a penalty
again for the same moment shows in the jobs that end penalties. -/
structure World.Spares (before after : World) : Prop where
  penalties : after.dodgePenalties = before.dodgePenalties
  penaltyJobs : after.penaltyJobs = before.penaltyJobs
  sessions : ∀ session, (after.sessionState session).status = .failed →
    (before.sessionState session).status = .failed

theorem World.Spares.refl (world : World) : world.Spares world := ⟨rfl, rfl, fun _ => id⟩

theorem World.Spares.trans {before middle after : World} (first : before.Spares middle)
    (second : middle.Spares after) : before.Spares after where
  penalties := second.penalties.trans first.penalties
  penaltyJobs := second.penaltyJobs.trans first.penaltyJobs
  sessions session failed := first.sessions session (second.sessions session failed)

/-- A section that spares everyone wherever it is performed. -/
def Section.Spares (step : Section) : Prop := ∀ world : World, world.Spares (perform step world)

theorem World.spares_run {Result : Type} {operation : Operation Result}
    (everywhere : operation.Everywhere Section.Spares) (world : World) :
    world.Spares (operation.run perform world).2 :=
  everywhere.run_invariant perform (fun _ _ spares before => before.trans (spares _)) (.refl world)

theorem Section.spares_read : Section.read.Spares := World.Spares.refl

/-! ## Leave jobs -/

namespace IntegrationZoneInstanceManager

theorem findByPlayerKey_unchanged (playerKey : PlayerKey) (world : World) :
    ((findByPlayerKey playerKey).run perform world).2 = world := by
  rw [findByPlayerKey, Program.run_bind, run_readWorld]
  cases world.zones.findMapByPlayerKey playerKey <;> rfl

theorem spares_findByPlayerKey (playerKey : PlayerKey) :
    (findByPlayerKey playerKey).Everywhere Section.Spares := by
  apply Program.Everywhere.bind
  · exact (Program.everywhere_atomically _ _).mpr Section.spares_read
  · intro found
    cases found with
    | none => trivial
    | some key => exact (Program.everywhere_atomically _ _).mpr Section.spares_read

theorem spares_eraseByPlayerKey (playerKey : PlayerKey) :
    (eraseByPlayerKey playerKey).Everywhere Section.Spares := by
  have atomic : ∀ {Result : Type} {step : Section} (reading : World → Result), step.Spares →
      (Program.atomically step reading).Everywhere Section.Spares :=
    fun _ spares => (Program.everywhere_atomically _ _).mpr spares
  apply (spares_findByPlayerKey playerKey).bind
  intro found
  cases found with
  | none => trivial
  | some zone =>
      apply (atomic _ fun _ => ⟨rfl, rfl, fun _ => id⟩).bind
      intro _
      apply (atomic _ Section.spares_read).bind
      intro empty
      have forget : ∀ _ : Unit, (do
          Program.atomically (.eraseZonePlayer playerKey) fun _ => ()
          return some zone : Operation (Option IntegrationZoneInstance)).Everywhere
          Section.Spares :=
        fun _ => (atomic _ fun _ => ⟨rfl, rfl, fun _ => id⟩).bind fun _ => trivial
      split_ifs
      · exact (atomic _ fun _ => ⟨rfl, rfl, fun _ => id⟩).bind fun _ => forget ()
      · exact forget ()

/-- Leaving a zone without a dodge. -/
theorem spares_processPlayerLeavedFromIntegrationServer (playerKey : PlayerKey) :
    (processPlayerLeavedFromIntegrationServer playerKey false).Everywhere Section.Spares := by
  apply (spares_eraseByPlayerKey playerKey).bind
  intro left
  cases left with
  | none => trivial
  | some zone =>
      apply Program.Everywhere.bind
      · exact (Program.everywhere_atomically _ _).mpr Section.spares_read
      · intro _
        trivial

end IntegrationZoneInstanceManager

/-- An operation spares everyone, and so does every job it schedules, whenever that
job is executed. -/
structure World.SparesWithJobs (before after : World) : Prop extends before.Spares after where
  jobs : ∀ entry ∈ after.zoneJobs, entry ∈ before.zoneJobs ∨
    ∀ later : World, later.Spares (entry.2.operation.run perform later).2

theorem World.Spares.withJobs {before after : World} (spares : before.Spares after)
    (same : after.zoneJobs = before.zoneJobs) : before.SparesWithJobs after :=
  ⟨spares, fun _ inside => Or.inl (same ▸ inside)⟩

theorem World.SparesWithJobs.trans {before middle after : World}
    (first : before.SparesWithJobs middle) (second : middle.SparesWithJobs after) :
    before.SparesWithJobs after where
  toSpares := first.toSpares.trans second.toSpares
  jobs entry inside := (second.jobs entry inside).elim (first.jobs entry) Or.inr

/-- Sending a player out of a zone schedules a job that spares everyone. -/
theorem IntegrationZoneInstanceManager.sparesWithJobs_leave (playerKey : PlayerKey)
    (world : World) : world.SparesWithJobs
      ((processPlayerLeaveToIntegrationServer playerKey false).run perform world).2 := by
  rw [processPlayerLeaveToIntegrationServer, Program.run_bind, findByPlayerKey_unchanged]
  cases ((findByPlayerKey playerKey).run perform world).1 with
  | none => exact (World.Spares.refl world).withJobs rfl
  | some zone =>
      refine ⟨⟨rfl, rfl, fun _ => id⟩, fun entry inside => ?_⟩
      rcases mem_insertMulti.mp inside with rfl | earlier
      · exact Or.inr fun later =>
          World.spares_run (spares_processPlayerLeavedFromIntegrationServer playerKey) later
      · exact Or.inl earlier

/-! ## Stopping -/

/-- The player's solo ticket waits for acceptance, and a decline by the player
would count. -/
def World.Declines (world : World) (playerKey : PlayerKey) : Prop :=
  (∃ ticket,
    ((world.tickets .solo).owner playerKey).bind (world.tickets .solo).items = some ticket ∧
      world.ticketStatus ticket = .requiresAcceptance) ∧
    ∃ session,
      MatchSessionManager.Counts world { playerKey := playerKey, isAccept := false } session

section Stopping

variable {deployment : Deployment} {world : World} {playerKey : PlayerKey}

/-- A decline that counts adds a penalty. -/
theorem MatchSessionManager.penaltyJobs_decline {acceptInfo : PlayerMatchAcceptInfo}
    {session : MatchSession} (counts : Counts world acceptInfo session)
    (declines : acceptInfo.isAccept = false) :
    ((acceptMatchSession acceptInfo).run perform world).2.penaltyJobs =
      world.penaltyJobs.enqueueJobRequest (world.timeMsec + 15000) acceptInfo.playerKey := by
  rw [run_acceptMatchSession counts, if_pos declines, onFailedMatchSession, Program.run_bind,
    run_findMatchSession]
  cases (penalized (recorded world acceptInfo session) acceptInfo.playerKey).matchSessions.items
      session.matchId with
  | none => rfl
  | some other =>
      simp only [Program.run_bind, Program.run_ite, Program.run_pure]
      split_ifs <;> rfl

theorem SoloMatchmakingManager.run_stopMatchmaking_of_declines (deployment : Deployment)
    (declines : world.Declines playerKey) (apply : Bool) :
    ((stopMatchmaking deployment playerKey apply).run perform world).2 =
      ((MatchSessionManager.acceptMatchSession
        { playerKey := playerKey, isAccept := false }).run perform world).2 := by
  obtain ⟨⟨ticket, found, asks⟩, -⟩ := declines
  simp only [stopMatchmaking, Program.run_bind, MatchmakingManager.run_findMatchTicketByPlayerKey,
    found, run_readWorld, asks, if_true, Program.run_pure]

/-- Stopping without a penalty spares everyone unless it declines. -/
theorem SoloMatchmakingManager.sparesWithJobs_stopMatchmaking (quiet : ¬ world.Declines playerKey) :
    world.SparesWithJobs
      ((stopMatchmaking deployment playerKey false).run perform world).2 := by
  simp only [stopMatchmaking, Program.run_bind, MatchmakingManager.run_findMatchTicketByPlayerKey]
  cases found : ((world.tickets .solo).owner playerKey).bind (world.tickets .solo).items with
  | none => exact (World.Spares.refl world).withJobs rfl
  | some ticket =>
      simp only [Program.run_bind, run_readWorld, Program.run_ite]
      by_cases asks : world.ticketStatus ticket = .requiresAcceptance
      · have ignored := MatchSessionManager.run_acceptMatchSession_of_ignored fun session counts =>
          quiet ⟨⟨ticket, found, asks⟩, session, counts⟩
        rw [if_pos asks, ignored]
        exact (World.Spares.refl world).withJobs rfl
      · rw [if_neg asks]
        cases served : deployment.getWorkerGroup .solo ticket.matchingGroupKey with
        | none =>
            simp only [Program.run_bind, Bool.false_eq_true, if_false]
            split_ifs <;> exact World.Spares.withJobs ⟨rfl, rfl, fun _ => id⟩ rfl
        | some group =>
            simp only [Program.run_bind, Program.run_ite, Bool.false_eq_true, if_false,
              SoloMatchmakingWorkerGroup.cancelMatchTicket]
            split_ifs <;> exact World.Spares.withJobs ⟨rfl, rfl, fun _ => id⟩ rfl

/-- A state in which no decline counts that did not count before. -/
structure World.NoNewDecline (before after : World) : Prop extends before.Spares after where
  zoneJobs : after.zoneJobs = before.zoneJobs
  tickets : after.tickets .solo = before.tickets .solo
  matchSessions : after.matchSessions = before.matchSessions
  sessionState : after.sessionState = before.sessionState
  asks : ∀ ticket, after.ticketStatus ticket = .requiresAcceptance →
    before.ticketStatus ticket = .requiresAcceptance

theorem World.NoNewDecline.declines {before after : World} (same : before.NoNewDecline after)
    (declines : after.Declines playerKey) : before.Declines playerKey := by
  obtain ⟨⟨ticket, found, asks⟩, session, member, pending, open', first⟩ := declines
  rw [same.tickets] at found
  rw [same.matchSessions] at member
  rw [same.sessionState] at pending open' first
  exact ⟨⟨ticket, found, same.asks ticket asks⟩, session, member, pending, open', first⟩

/-- A cancelled ticket does not wait for acceptance. -/
theorem MatchTicket.changeStatus_cancelled_asks {ticket other : MatchTicket}
    {statuses : TicketStatuses}
    (asks : (ticket.changeStatus .cancelled statuses).2 other = .requiresAcceptance) :
    statuses other = .requiresAcceptance := by
  by_cases own : other = ticket
  · subst own
    cases can : canChangeStatus (statuses other) .cancelled with
    | true =>
        rw [changeStatus_of_can can] at asks
        cases (Function.update_self ..).symm.trans asks
    | false => rwa [changeStatus_of_cannot can] at asks
  · rwa [changeStatus_of_ne own] at asks

/-- The party manager only cancels. -/
theorem PartyMatchmakingManager.noNewDecline_stopMatchmaking (deployment : Deployment)
    (playerKey : PlayerKey) (world : World) :
    world.NoNewDecline ((stopMatchmaking deployment playerKey).run perform world).2 := by
  simp only [stopMatchmaking, Program.run_bind, MatchmakingManager.run_findMatchTicketByPlayerKey]
  cases found : ((world.tickets .party).owner playerKey).bind (world.tickets .party).items with
  | none => exact ⟨.refl world, rfl, rfl, rfl, rfl, fun _ => id⟩
  | some ticket =>
      simp only [cancelFound, Program.run_bind]
      cases served : deployment.getWorkerGroup .party ticket.matchingGroupKey with
      | none =>
          simp only [Program.run_bind, run_changeTicketStatus, Program.run_ite]
          split_ifs <;> exact ⟨⟨rfl, rfl, fun _ => id⟩, rfl, rfl, rfl, rfl,
            fun _ => MatchTicket.changeStatus_cancelled_asks⟩
      | some group =>
          have statuses : (perform (.partyCancel group ticket) world).ticketStatus =
              (ticket.changeStatus .cancelled world.ticketStatus).2 :=
            PartyMatchmakingWorkerGroup.cancelMatchTicket_statuses
          have cancels : ∀ other,
              (perform (.partyCancel group ticket) world).ticketStatus other =
                .requiresAcceptance → world.ticketStatus other = .requiresAcceptance := by
            intro other asks
            rw [statuses] at asks
            exact MatchTicket.changeStatus_cancelled_asks asks
          simp only [Program.run_bind, PartyMatchmakingWorkerGroup.cancel,
            Program.run_atomically, Program.run_ite]
          split_ifs <;> exact ⟨⟨rfl, rfl, fun _ => id⟩, rfl, rfl, rfl, rfl, cancels⟩

/-- A cleanup by the party manager spares everyone. -/
theorem PartyMatchmakingManager.sparesWithJobs_cleanup (deployment : Deployment)
    (playerKey : PlayerKey) (world : World) : world.SparesWithJobs
      ((cleanupPrevMatchmaking deployment playerKey).run perform world).2 := by
  have leave := IntegrationZoneInstanceManager.sparesWithJobs_leave playerKey
  simp only [cleanupPrevMatchmaking, Program.run_bind,
    MatchmakingManager.run_findMatchTicketByPlayerKey]
  cases ((world.tickets .party).owner playerKey).bind (world.tickets .party).items with
  | none =>
      simp only [Option.isSome_none, Bool.false_eq_true, if_false, Program.run_bind,
        Program.run_pure]
      exact leave world
  | some ticket =>
      have stopped := noNewDecline_stopMatchmaking deployment playerKey world
      simp only [Option.isSome_some, if_true, Program.run_bind, Program.run_pure]
      exact (stopped.toSpares.withJobs stopped.zoneJobs).trans (leave _)

end Stopping

/-! ## Cleanup -/

/-- What the cleanups of both managers and a login must leave. -/
structure World.CleanupSpares (deployment : Deployment) (world : World) (playerKey : PlayerKey) :
    Prop where
  solo : world.SparesWithJobs
    ((SoloMatchmakingManager.cleanupPrevMatchmaking deployment playerKey).run perform world).2
  party : world.SparesWithJobs
    ((PartyMatchmakingManager.cleanupPrevMatchmaking deployment playerKey).run perform world).2
  login : world.SparesWithJobs ((processPlayerLogin deployment playerKey).run perform world).2

/-- **Cleanup punishes nobody** exactly where no decline of the player counts. -/
theorem cleanup_spares_iff (deployment : Deployment) (world : World) (playerKey : PlayerKey) :
    world.CleanupSpares deployment playerKey ↔ ¬ world.Declines playerKey := by
  constructor
  · intro spares declines
    obtain ⟨-, session, counts⟩ := id declines
    have stopped :=
      SoloMatchmakingManager.run_stopMatchmaking_of_declines deployment declines false
    have penalized := MatchSessionManager.penaltyJobs_decline counts rfl
    have leaves := (IntegrationZoneInstanceManager.sparesWithJobs_leave playerKey
      ((SoloMatchmakingManager.stopMatchmaking deployment playerKey false).run perform
        world).2).penaltyJobs
    have same := spares.solo.penaltyJobs
    simp only [SoloMatchmakingManager.cleanupPrevMatchmaking, Program.run_bind,
      Program.run_pure] at same
    rw [leaves, stopped, penalized] at same
    have longer := (insertMulti_perm (world.timeMsec + 15000 : Int) playerKey
      world.penaltyJobs).length_eq
    rw [show insertMulti _ _ world.penaltyJobs = world.penaltyJobs from same] at longer
    simp at longer
  · intro quiet
    refine ⟨?_, PartyMatchmakingManager.sparesWithJobs_cleanup deployment playerKey world, ?_⟩
    · simp only [SoloMatchmakingManager.cleanupPrevMatchmaking, Program.run_bind,
        Program.run_pure]
      exact (SoloMatchmakingManager.sparesWithJobs_stopMatchmaking quiet).trans
        (IntegrationZoneInstanceManager.sparesWithJobs_leave playerKey _)
    · have stopped :=
        PartyMatchmakingManager.noNewDecline_stopMatchmaking deployment playerKey world
      have still := fun declines => quiet (stopped.declines declines)
      simp only [processPlayerLogin, Program.run_bind, Program.run_pure,
        IntegrationZoneInstanceManager.findByPlayerKey_unchanged]
      exact (stopped.toSpares.withJobs stopped.zoneJobs).trans
        (SoloMatchmakingManager.sparesWithJobs_stopMatchmaking still)

/-- A worker has claimed the ticket of player 1 and asked for acceptance, and has
yet to take the ticket over from the solo manager. -/
def midCreationRun : List (Executed Section World) × Pool Section World :=
  playCalls soleMatchDeployment
    [.soloStartMatchmaking (soloRequest 1),
      .soloWorkerRun (0, "Dungeon") 0 (IterationOrder.asListed _)]
    (List.replicate 12 0 ++ List.replicate 7 1)

/-- Cleanup in the middle of the creation penalizes player 1 and ends the session. -/
theorem cleanup_punishes_mid_creation :
    let world := midCreationRun.2.state
    let after := ((SoloMatchmakingManager.cleanupPrevMatchmaking soleMatchDeployment 1).run
      perform world).2
    Interleaved soleMatchDeployment Call.ServerIssued (fun _ _ => True)
        midCreationRun.1 midCreationRun.2 ∧
      ¬ world.CleanupSpares soleMatchDeployment 1 ∧
      world.dodgePenalties 1 = none ∧ after.dodgePenalties 1 = some 15000 ∧
      (world.matchSessions.items 1000).isSome = true ∧ after.matchSessions.items 1000 = none := by
  refine ⟨Interleaved.play _ (by decide) _, fun spares => ?_, by decide +kernel,
    by decide +kernel, by decide +kernel, by decide +kernel⟩
  have kept := congrFun spares.solo.penalties 1
  revert kept
  decide +kernel

end MatchmakingMvp
