import MatchmakingMvp.System.Calls

/-! # Complete runs of the shared operations

What the operations used by every manager do when they run alone. -/

namespace MatchmakingMvp

open Foundation

section Loops

variable {Element : Type} {operation : Element → Operation Unit}

@[simp] theorem forAll_nil : forAll [] operation = pure () := (rfl)

@[simp] theorem run_forAll_cons (element : Element) (rest : List Element) (world : World) :
    (forAll (element :: rest) operation).run perform world =
      (forAll rest operation).run perform ((operation element).run perform world).2 := by
  rw [forAll, Program.run_bind]

theorem everywhere_forAll {predicate : Section → Prop} {elements : List Element}
    (everywhere : ∀ element ∈ elements, (operation element).Everywhere predicate) :
    (forAll elements operation).Everywhere predicate := by
  induction elements with
  | nil => trivial
  | cons element rest ih =>
      exact (everywhere element List.mem_cons_self).bind fun _ =>
        ih fun other inside => everywhere other (List.mem_cons_of_mem _ inside)

/-- Operations that change nothing where they return false change nothing together
where none of them returns true. -/
theorem run_anyOf_of_false {operation : Element → Operation Bool}
    {elements : List Element} {world : World}
    (unchanged : ∀ element ∈ elements, ((operation element).run perform world).1 = false →
      ((operation element).run perform world).2 = world)
    (none : ((anyOf elements operation).run perform world).1 = false) :
    ((anyOf elements operation).run perform world).2 = world := by
  induction elements with
  | nil => rfl
  | cons element rest ih =>
      simp only [anyOf, Program.run_bind, Program.run_pure, Bool.or_eq_false_iff] at none ⊢
      have same := unchanged element List.mem_cons_self none.1
      rw [same] at none ⊢
      exact ih (fun other inside => unchanged other (List.mem_cons_of_mem _ inside)) none.2

/-- Where none of them returns true, each returns false from the start. -/
theorem false_of_anyOf_false {operation : Element → Operation Bool}
    {elements : List Element} {world : World}
    (unchanged : ∀ element ∈ elements, ((operation element).run perform world).1 = false →
      ((operation element).run perform world).2 = world)
    (none : ((anyOf elements operation).run perform world).1 = false) :
    ∀ element ∈ elements, ((operation element).run perform world).1 = false := by
  induction elements with
  | nil => exact nofun
  | cons element rest ih =>
      simp only [anyOf, Program.run_bind, Program.run_pure, Bool.or_eq_false_iff] at none
      have same := unchanged element List.mem_cons_self none.1
      rw [same] at none
      intro other inside
      rcases List.mem_cons.mp inside with rfl | later
      · exact none.1
      · exact ih (fun other inside => unchanged other (List.mem_cons_of_mem _ inside)) none.2
          other later

end Loops

@[simp] theorem run_readWorld {Result : Type} (reading : World → Result) (world : World) :
    (readWorld reading).run perform world = (reading world, world) := (rfl)

@[simp] theorem run_timeMsec (world : World) :
    timeMsec.run perform world = ((world.timeMsec : Int), world) := (rfl)

@[simp] theorem run_changeTicketStatus (ticket : MatchTicket) (status : MatchTicketStatus)
    (world : World) :
    (changeTicketStatus ticket status).run perform world =
      ((ticket.changeStatus status world.ticketStatus).1,
        world.withTicketStatus (ticket.changeStatus status world.ticketStatus).2) := (rfl)

namespace MatchmakingManager

variable (queue : QueueKind)

@[simp] theorem run_insertMatchTicket (ticket : MatchTicket) (world : World) :
    (insertMatchTicket queue ticket).run perform world =
      (((world.tickets queue).insertMatchTicket ticket).1,
        world.withTickets queue ((world.tickets queue).insertMatchTicket ticket).2) := (rfl)

@[simp] theorem run_eraseMatchTicket (matchTicketId : MatchTicketId) (world : World) :
    (eraseMatchTicket queue matchTicketId).run perform world =
      (((world.tickets queue).eraseMatchTicket matchTicketId).1,
        world.withTickets queue ((world.tickets queue).eraseMatchTicket matchTicketId).2) := (rfl)

@[simp] theorem run_findMatchTicketByPlayerKey (playerKey : PlayerKey) (world : World) :
    (findMatchTicketByPlayerKey queue playerKey).run perform world =
      (((world.tickets queue).owner playerKey).bind (world.tickets queue).items, world) := by
  rw [findMatchTicketByPlayerKey, Program.run_bind, run_readWorld]
  cases (world.tickets queue).owner playerKey <;> rfl

@[simp] theorem run_onFailedMatchmaking_ticketStatus (ticket : MatchTicket) (world : World) :
    ((onFailedMatchmaking queue ticket).run perform world).2.ticketStatus =
      (ticket.changeStatus .failed world.ticketStatus).2 := by
  simp only [onFailedMatchmaking, Program.run_bind, run_changeTicketStatus, Program.run_ite]
  split_ifs <;> rfl

end MatchmakingManager

namespace MatchSessionManager

/-- Notifying the managers about distinct tickets in search fails all of them. -/
theorem notifyAll_fails {tickets : List MatchTicket} {world : World} (nodup : tickets.Nodup)
    (searching : ∀ ticket ∈ tickets, world.ticketStatus ticket = .searching) :
    ((forAll tickets notifyMatchmakingFailure).run perform world).2.ticketStatus =
      moveAll tickets .failed world.ticketStatus := by
  induction tickets generalizing world with
  | nil => simp
  | cons head rest ih =>
      obtain ⟨outside, distinct⟩ := List.nodup_cons.mp nodup
      have failed : ((notifyMatchmakingFailure head).run perform world).2.ticketStatus =
          Function.update world.ticketStatus head .failed := by
        rw [notifyMatchmakingFailure, MatchmakingManager.run_onFailedMatchmaking_ticketStatus,
          MatchTicket.changeStatus_of_can]
        rw [searching head List.mem_cons_self]
        rfl
      rw [run_forAll_cons, ih distinct, failed]
      · funext ticket
        by_cases same : ticket = head
        · subst same
          simp [moveAll, outside]
        · simp [moveAll, same]
      · intro ticket inside
        rw [failed, Function.update_of_ne (ne_of_mem_of_not_mem inside outside)]
        exact searching ticket (List.mem_cons_of_mem _ inside)

/-- The sections of a failure notice. -/
theorem everywhere_onFailedMatchmaking {predicate : Section → Prop} {queue : QueueKind}
    {ticket : MatchTicket} (change : predicate (.changeTicketStatus ticket .failed))
    (erase : ∀ queue id, predicate (.eraseMatchTicket queue id)) :
    (MatchmakingManager.onFailedMatchmaking queue ticket).Everywhere predicate := by
  refine Program.Everywhere.bind ((Program.everywhere_atomically _ _).mpr change)
    fun changed => ?_
  split_ifs
  · trivial
  · exact Program.Everywhere.bind ((Program.everywhere_atomically _ _).mpr (erase _ _))
      fun _ => trivial

theorem everywhere_notify {predicate : Section → Prop} {ticket : MatchTicket}
    (change : predicate (.changeTicketStatus ticket .failed))
    (erase : ∀ queue id, predicate (.eraseMatchTicket queue id)) :
    (notifyMatchmakingFailure ticket).Everywhere predicate :=
  everywhere_onFailedMatchmaking change erase

end MatchSessionManager

/-! ## The sections of a creation -/

/-- The sections that creating a session performs. -/
def Section.creates : Section → Bool
  | .read | .enterCreateMatchSession _ _ | .nextIntegrationWorldNo _ | .newMatchSession _ _ _ _
  | .forceSessionStatus _ _ | .changeSessionStatus _ _ | .insertMatchSession _
  | .eraseMatchSession _ | .eraseMatchTicket _ _ | .changeTicketStatus _ .failed
  | .addSessionJob _ _ => true
  | _ => false

namespace MatchSessionManager

/-- A creation registers no session but with the tickets it was given. -/
theorem everywhere_createMatchSession {predicate : Section → Prop} {key : MatchmakingGroupKey}
    {tickets : TicketSet}
    (performs : ∀ step : Section, step.creates = true →
      (∀ session, step = .insertMatchSession session → session.tickets = tickets.1) →
      predicate step) :
    (createMatchSession key tickets).Everywhere predicate := by
  have atomic : ∀ {Result : Type} {step : Section} (reading : World → Result),
      predicate step → (Program.atomically step reading).Everywhere predicate :=
    fun _ holds => (Program.everywhere_atomically _ _).mpr holds
  have notified : (forAll tickets.1 notifyMatchmakingFailure).Everywhere predicate :=
    everywhere_forAll fun _ _ => everywhere_notify (performs _ rfl nofun)
      fun _ _ => performs _ rfl nofun
  have expired : (forAll tickets.1 expireMatchmakingOwnership).Everywhere predicate :=
    everywhere_forAll fun _ _ => .bind (atomic _ (performs _ rfl nofun)) fun _ => trivial
  have failed : ∀ matchId, (onFailedMatchSession matchId).Everywhere predicate := by
    intro matchId
    refine .bind (atomic _ (performs _ rfl nofun)) fun found => ?_
    cases found with
    | none => trivial
    | some session =>
        refine .bind (atomic _ (performs _ rfl nofun)) fun changed => ?_
        exact .ite trivial (.bind (atomic _ (performs _ rfl nofun)) fun _ => trivial)
  have accepts : ∀ order players, (scheduleAutoAccepts order players).Everywhere predicate := by
    intro order players
    induction players generalizing order with
    | nil => trivial
    | cons playerKey rest ih =>
        exact .bind (atomic _ (performs _ rfl nofun)) fun _ =>
          .bind (atomic _ (performs _ rfl nofun)) fun _ => ih _
  refine .bind (atomic _ (performs _ rfl nofun)) fun _ => ?_
  cases tickets.1.head? with
  | none => trivial
  | some ticket =>
      refine .bind (atomic _ (performs _ rfl nofun)) fun next => ?_
      cases next with
      | none => trivial
      | some integrationWorldNo =>
          refine Program.Everywhere.ite (notified.bind fun _ => trivial) ?_
          refine ⟨performs _ rfl nofun, fun world => ⟨performs _ rfl nofun, fun _ => ⟨?_, ?_⟩⟩⟩
          · refine performs _ rfl fun session same => ?_
            cases same
            exact world.newMatchSession_tickets ..
          · intro later
            refine Program.Everywhere.ite (.bind (atomic _ (performs _ rfl nofun)) fun _ =>
              notified.bind fun _ => trivial) ?_
            refine .bind (atomic _ (performs _ rfl nofun)) fun changed => ?_
            refine Program.Everywhere.ite ((failed _).bind fun _ => trivial) ?_
            exact expired.bind fun _ => .bind (atomic _ (performs _ rfl nofun)) fun _ =>
              .bind (atomic _ (performs _ rfl nofun)) fun _ => accepts _ _

end MatchSessionManager

/-! ## What comes before a submission -/

section Checks

variable {deployment : Deployment} {world : World}

theorem MatchPenaltyManager.run_hasDodgePenalty (request : MatchTicketRequest) :
    ((MatchPenaltyManager.hasDodgePenalty request).run perform world).2 = world := by
  simp only [hasDodgePenalty, Program.run_bind, run_timeMsec]
  induction request.players.elements with
  | nil => rfl
  | cons playerKey rest ih =>
      simp only [hasDodgePenaltyAt, findDodgePenalty, Program.run_bind, run_readWorld]
      cases world.dodgePenalties playerKey with
      | none => exact ih
      | some penaltyExpireTimeMsec =>
          simp only [Program.run_ite]
          split_ifs
          · rfl
          · exact ih

/-- A player who has nothing to leave is in no zone. -/
theorem IntegrationZoneInstanceManager.unfound_of_leave {playerKey : PlayerKey} {isDodge : Bool}
    (stays : ((processPlayerLeaveToIntegrationServer playerKey isDodge).run perform world).1 =
      false) :
    (world.zones.findMapByPlayerKey playerKey).bind world.zones.find = none := by
  simp only [processPlayerLeaveToIntegrationServer, findByPlayerKey, Program.run_bind,
    run_readWorld] at stays
  cases indexed : world.zones.findMapByPlayerKey playerKey with
  | none => rfl
  | some key =>
      simp only [indexed, find, run_readWorld] at stays
      cases found : world.zones.find key with
      | none => exact found
      | some zone => simp [found, Program.run_bind] at stays

theorem IntegrationZoneInstanceManager.run_leave_of_false {playerKey : PlayerKey} {isDodge : Bool}
    (stays : ((processPlayerLeaveToIntegrationServer playerKey isDodge).run perform world).1 =
      false) :
    ((processPlayerLeaveToIntegrationServer playerKey isDodge).run perform world).2 = world := by
  have unfound := unfound_of_leave stays
  simp only [processPlayerLeaveToIntegrationServer, findByPlayerKey, Program.run_bind,
    run_readWorld]
  cases indexed : world.zones.findMapByPlayerKey playerKey with
  | none => rfl
  | some key =>
      rw [indexed, Option.bind_some] at unfound
      simp [find, unfound]

theorem SoloMatchmakingManager.run_stopMatchmaking_of_none {playerKey : PlayerKey} {apply : Bool}
    (idle : ((stopMatchmaking deployment playerKey apply).run perform world).1 = none) :
    ((stopMatchmaking deployment playerKey apply).run perform world).2 = world := by
  simp only [stopMatchmaking, Program.run_bind, MatchmakingManager.run_findMatchTicketByPlayerKey]
    at idle ⊢
  cases found : ((world.tickets .solo).owner playerKey).bind (world.tickets .solo).items with
  | none => rfl
  | some ticket =>
      rw [found] at idle
      cases served : deployment.getWorkerGroup .solo ticket.matchingGroupKey with
      | none =>
          simp only [served, Program.run_bind, Program.run_ite, Program.run_pure,
            run_readWorld] at idle
          split_ifs at idle
      | some group =>
          simp only [served, Program.run_bind, Program.run_ite, Program.run_pure,
            run_readWorld] at idle
          split_ifs at idle

/-- Where there is nothing to clean up, the player is in no zone and nothing changes. -/
theorem SoloMatchmakingManager.run_cleanup_of_false {playerKey : PlayerKey}
    (clean : ((cleanupPrevMatchmaking deployment playerKey).run perform world).1 = false) :
    ((cleanupPrevMatchmaking deployment playerKey).run perform world).2 = world ∧
      (world.zones.findMapByPlayerKey playerKey).bind world.zones.find = none := by
  simp only [cleanupPrevMatchmaking, Program.run_bind, Program.run_pure, Bool.or_eq_false_iff,
    Option.isSome_eq_false_iff, Option.isNone_iff_eq_none] at clean ⊢
  have idle := run_stopMatchmaking_of_none clean.1
  rw [idle] at clean ⊢
  exact ⟨IntegrationZoneInstanceManager.run_leave_of_false clean.2,
    IntegrationZoneInstanceManager.unfound_of_leave clean.2⟩

theorem PartyMatchmakingManager.run_cleanup_of_false {playerKey : PlayerKey}
    (clean : ((cleanupPrevMatchmaking deployment playerKey).run perform world).1 = false) :
    ((cleanupPrevMatchmaking deployment playerKey).run perform world).2 = world ∧
      (world.zones.findMapByPlayerKey playerKey).bind world.zones.find = none := by
  simp only [cleanupPrevMatchmaking, Program.run_bind,
    MatchmakingManager.run_findMatchTicketByPlayerKey] at clean ⊢
  cases found : ((world.tickets .party).owner playerKey).bind (world.tickets .party).items with
  | none =>
      simp only [found, Option.isSome_none, Bool.false_eq_true, if_false, Program.run_bind,
        Program.run_pure] at clean ⊢
      exact ⟨IntegrationZoneInstanceManager.run_leave_of_false clean,
        IntegrationZoneInstanceManager.unfound_of_leave clean⟩
  | some ticket =>
      simp only [found, stopMatchmaking, Program.run_bind, Program.run_pure, Option.isSome_some,
        if_true, MatchmakingManager.run_findMatchTicketByPlayerKey] at clean
      simp at clean

end Checks

/-! ## Zone jobs -/

/-- The callback of a zone job. -/
def ZoneJob.operation : ZoneJob → Operation Unit
  | .serverClosed sessionKey worldNo =>
      IntegrationZoneInstanceManager.processIntegrationServerClosedAsync sessionKey worldNo
  | .expire key => IntegrationZoneInstanceManager.processZoneInstanceExpireAsync key
  | .playerLeaved playerKey isDodge =>
      IntegrationZoneInstanceManager.processPlayerLeavedFromIntegrationServer playerKey isDodge

/-- The worker runs the job it takes. -/
theorem run_zoneWorkerRun_of_taken {world : World} {job : ZoneJob}
    (taken : (world.zoneJobs.takeJob world.timeMsec).1 = some job) :
    zoneWorkerRun.run perform world = job.operation.run perform (perform .takeZoneJob world) := by
  rw [zoneWorkerRun, Program.run_bind, Program.run_atomically, taken]
  cases job <;> rfl

theorem run_zoneWorkerRun_of_idle {world : World}
    (idle : (world.zoneJobs.takeJob world.timeMsec).1 = none) :
    zoneWorkerRun.run perform world = ((), perform .takeZoneJob world) := by
  rw [zoneWorkerRun, Program.run_bind, Program.run_atomically, idle]
  rfl

end MatchmakingMvp
