import MatchmakingMvp.System.Engagement

/-! # What a submission that enqueues its ticket has passed

A submission ends before it makes a ticket, or fails the ticket it made and forgets it, or
the request has passed every check of its manager and the ticket is registered and queued
(`MatchmakingMvp.Submission.outcome`). In no case does it concern the sessions, the zones or
the scheduled jobs of the sessions.
-/

namespace MatchmakingMvp

open Foundation

/-- A worker group of the deployment admits the request. -/
def Deployment.Serves (deployment : Deployment) (queue : QueueKind)
    (request : MatchTicketRequest) : Prop :=
  ∃ group, deployment.getWorkerGroup queue (request.worldNo, request.matchZoneId) = some group ∧
    group.matchmakingRule.combination.contains request.players.elements.length = true

/-- What a manager checks before it makes a ticket: it runs, a solo request names one player,
no player is in a zone and none is penalized. Backfills are not checked. -/
def Submission.Checked (world : World) (request : MatchTicketRequest) : Submission → Prop
  | .startMatchBackfill => True
  | submission => world.isRunning submission.queue = true ∧
      (submission.queue = .solo → request.players.elements.length ≤ 1) ∧
      (∀ playerKey ∈ request.players.elements, world.zones.findMapByPlayerKey playerKey = none) ∧
      ((MatchPenaltyManager.hasDodgePenalty request).run perform world).1 = false

/-- The request passes the checks, and the manager has no ticket of its players. -/
structure Submission.Passes (deployment : Deployment) (world : World) (submission : Submission)
    (request : MatchTicketRequest) : Prop where
  checked : submission.Checked world request
  served : deployment.Serves submission.queue request
  unowned : ∀ playerKey ∈ request.players.elements,
    (world.tickets submission.queue).owner playerKey = none

/-- The tickets made, the sessions, their jobs and the zones are the same. -/
structure World.LeavesEngaged (before after : World) : Prop where
  matchTickets : after.matchTickets = before.matchTickets
  matchSessions : after.matchSessions = before.matchSessions
  sessionJobs : after.sessionJobs = before.sessionJobs
  zones : after.zones = before.zones
  playerSessions : after.playerSessions = before.playerSessions
  zoneInstanceCount : after.zoneInstanceCount = before.zoneInstanceCount

/-- A section that registers, moves or enqueues a ticket. -/
def Section.submits : Section → Bool
  | .changeTicketStatus _ _ | .setBaseWorkerIndex _ _
  | .insertMatchTicket _ _ | .eraseMatchTicket _ _ | .soloEnqueue _ _ _ _
  | .partyEnqueue _ _ _ _ => true
  | _ => false

theorem World.LeavesEngaged.perform {before world : World} (leaves : before.LeavesEngaged world)
    {step : Section} (submits : step.submits = true) :
    before.LeavesEngaged (perform step world) := by
  obtain ⟨matchTickets, matchSessions, sessionJobs, zones, playerSessions, count⟩ := leaves
  cases step with
  | changeTicketStatus | setBaseWorkerIndex | insertMatchTicket
  | eraseMatchTicket | soloEnqueue | partyEnqueue =>
      exact ⟨matchTickets, matchSessions, sessionJobs, zones, playerSessions, count⟩
  | _ => cases submits

/-- The operation performs such sections only. -/
abbrev Submits {Result : Type} (operation : Operation Result) : Prop :=
  operation.Everywhere fun step => step.submits = true

theorem submits_atomically {Result : Type} {step : Section} (submits : step.submits = true)
    (reading : World → Result) : Submits (Program.atomically step reading) :=
  ⟨submits, fun _ => trivial⟩

section Frame

variable {deployment : Deployment}

theorem WorkerGroup.submits_enqueueJobRequest (group : WorkerGroup) (queue : QueueKind)
    (ticket : MatchTicket) :
    Submits (group.enqueueJobRequest queue ticket.matchmakingRequest) := by
  cases queue with
  | solo =>
      simp only [enqueueJobRequest, SoloMatchmakingWorkerGroup.enqueueJobRequest,
        MatchTicket.matchmakingRequest_matchTicketPtr]
      split_ifs
      · trivial
      · apply (submits_atomically rfl _).bind
        intro queued
        split_ifs
        · trivial
        · exact (submits_atomically rfl _).bind fun _ => trivial
      · apply (submits_atomically rfl _).bind
        intro queued
        split_ifs
        · trivial
        · exact (submits_atomically rfl _).bind fun _ => submits_atomically rfl _
  | party =>
      simp only [enqueueJobRequest, PartyMatchmakingWorkerGroup.enqueueJobRequest,
        MatchTicket.matchmakingRequest_matchTicketPtr]
      split_ifs
      · trivial
      · exact (submits_atomically rfl _).bind fun _ => submits_atomically rfl _

theorem submits_enqueueWorkerJobRequest (queue : QueueKind) (ticket : MatchTicket) :
    Submits (enqueueWorkerJobRequest deployment queue ticket) := by
  rw [enqueueWorkerJobRequest_eq]
  cases deployment.getWorkerGroup queue ticket.matchingGroupKey with
  | none => trivial
  | some group =>
      apply (submits_atomically rfl _).bind
      intro inserted
      split_ifs
      · trivial
      apply (group.submits_enqueueJobRequest queue ticket).bind
      intro enqueued
      split_ifs
      · exact (submits_atomically rfl _).bind fun _ => trivial
      · trivial

/-- Once its ticket is made, a submission concerns tickets only. -/
theorem leavesEngaged_submit (deployment : Deployment) (queue : QueueKind)
    (request : MatchTicketRequest) (world : World) :
    (perform (.newMatchTicket queue request.worldNo request) world).LeavesEngaged
      ((submit deployment queue request).run perform world).2 := by
  have submits : ∀ ticket, Submits (do
      if (← enqueueWorkerJobRequest deployment queue ticket) = false then
        let _ ← changeTicketStatus ticket .failed
        let _ ← MatchmakingManager.eraseMatchTicket queue ticket.matchTicketId
        return some ticket
      return some ticket : Operation (Option MatchTicket)) := by
    intro ticket
    apply (submits_enqueueWorkerJobRequest queue ticket).bind
    intro enqueued
    split_ifs
    · exact (submits_atomically rfl _).bind fun _ =>
        (submits_atomically rfl _).bind fun _ => trivial
    · trivial
  exact (submits _).run_invariant perform (fun _ _ submits leaves => leaves.perform submits)
    ⟨rfl, rfl, rfl, rfl, rfl, rfl⟩

theorem served_of_enqueued {queue : QueueKind} {ticket : MatchTicket} {world : World}
    (enqueued : ((enqueueWorkerJobRequest deployment queue ticket).run perform world).1 = true) :
    ∃ group, deployment.getWorkerGroup queue ticket.matchingGroupKey = some group ∧
      group.matchmakingRule.combination.contains ticket.players.length = true := by
  rw [enqueueWorkerJobRequest_eq] at enqueued
  cases served : deployment.getWorkerGroup queue ticket.matchingGroupKey with
  | none =>
      rw [served] at enqueued
      cases enqueued
  | some group =>
      refine ⟨group, rfl, ?_⟩
      by_contra refused
      have refuses := Bool.eq_false_of_not_eq_true refused
      have rejects : ∀ world,
          ((group.enqueueJobRequest queue ticket.matchmakingRequest).run perform world).1 =
            false := by
        intro world
        cases queue with
        | solo =>
            simp [WorkerGroup.enqueueJobRequest, SoloMatchmakingWorkerGroup.enqueueJobRequest,
              refuses]
        | party =>
            simp [WorkerGroup.enqueueJobRequest, PartyMatchmakingWorkerGroup.enqueueJobRequest,
              refuses]
      simp only [served, Program.run_bind, Program.run_ite, Program.run_pure, rejects,
        if_true] at enqueued
      split_ifs at enqueued

end Frame

/-! ## Checks -/

section Checks

variable {deployment : Deployment} {permits : MatchTicketRequest → Prop} {world : World}

theorem World.ZonesIndexed.unhosted (indexed : world.ZonesIndexed) {playerKey : PlayerKey}
    (unfound : (world.zones.findMapByPlayerKey playerKey).bind world.zones.find = none) :
    world.zones.findMapByPlayerKey playerKey = none := by
  cases named : world.zones.findMapByPlayerKey playerKey with
  | none => rfl
  | some key =>
      obtain ⟨zone, stored, -⟩ := indexed.indexed.mp named
      rw [named, Option.bind_some, IntegrationZones.find, stored] at unfound
      cases unfound

theorem MatchPenaltyManager.recedes_hasDodgePenalty (request : MatchTicketRequest) :
    Recedes (hasDodgePenalty request) := by
  intro world indexed
  rw [run_hasDodgePenalty]
  exact recedes_pure () world indexed

/-- Where no player needs to be cleaned up, the cleanup changes nothing and every player is
clean. -/
theorem clean_of_anyOf {cleanup : PlayerKey → Operation Bool} {Clean : PlayerKey → Prop}
    {players : List PlayerKey}
    (clean : ∀ playerKey, ((cleanup playerKey).run perform world).1 = false →
      ((cleanup playerKey).run perform world).2 = world ∧ Clean playerKey)
    (none : ((anyOf players cleanup).run perform world).1 = false) :
    ((anyOf players cleanup).run perform world).2 = world ∧
      ∀ playerKey ∈ players, Clean playerKey := by
  have unchanged : ∀ playerKey ∈ players, ((cleanup playerKey).run perform world).1 = false →
      ((cleanup playerKey).run perform world).2 = world :=
    fun playerKey _ stays => (clean playerKey stays).1
  exact ⟨run_anyOf_of_false unchanged none, fun playerKey inside =>
    (clean playerKey (false_of_anyOf_false unchanged none playerKey inside)).2⟩

theorem soloStartMatchmaking_cases (indexed : world.ZonesIndexed) (request : MatchTicketRequest) :
    let started := (SoloMatchmakingManager.startMatchmaking deployment request).run perform world
    world.Recedes started.2 ∨ Submission.soloStartMatchmaking.Checked world request ∧
      started = (submit deployment .solo request).run perform world := by
  intro started
  have cleanup : Recedes (anyOf request.players.elements
      (SoloMatchmakingManager.cleanupPrevMatchmaking deployment)) :=
    recedes_anyOf (SoloMatchmakingManager.recedes_cleanupPrevMatchmaking deployment)
  have cleaned := cleanup world indexed
  simp only [started, soloStartMatchmaking_eq, Program.run_bind, Program.run_ite,
    Program.run_pure, run_readWorld]
  split_ifs with stopped party busy penalized
  · exact Or.inl (recedes_pure () world indexed)
  · exact Or.inl (recedes_pure () world indexed)
  · exact Or.inl cleaned
  · exact Or.inl
      (cleaned.trans (MatchPenaltyManager.recedes_hasDodgePenalty request _ cleaned.zones))
  · obtain ⟨same, clean⟩ := clean_of_anyOf (fun playerKey =>
      SoloMatchmakingManager.run_cleanup_of_false) (Bool.eq_false_of_not_eq_true busy)
    rw [same] at penalized ⊢
    rw [MatchPenaltyManager.run_hasDodgePenalty]
    exact Or.inr ⟨⟨Bool.eq_true_of_not_eq_false stopped, fun _ => not_lt.mp party,
      fun playerKey inside => indexed.unhosted (clean playerKey inside),
      Bool.eq_false_of_not_eq_true penalized⟩, rfl⟩

theorem partyStartMatchmaking_cases (indexed : world.ZonesIndexed) (request : MatchTicketRequest) :
    let started := (PartyMatchmakingManager.startMatchmaking deployment request).run perform world
    world.Recedes started.2 ∨ Submission.partyStartMatchmaking.Checked world request ∧
      started = (submit deployment .party request).run perform world := by
  intro started
  have cleanup : Recedes (anyOf request.players.elements
      (PartyMatchmakingManager.cleanupPrevMatchmaking deployment)) :=
    recedes_anyOf (PartyMatchmakingManager.recedes_cleanupPrevMatchmaking deployment)
  have cleaned := cleanup world indexed
  simp only [started, partyStartMatchmaking_eq, Program.run_bind, Program.run_ite,
    Program.run_pure, run_readWorld]
  split_ifs with stopped busy penalized
  · exact Or.inl (recedes_pure () world indexed)
  · exact Or.inl cleaned
  · exact Or.inl
      (cleaned.trans (MatchPenaltyManager.recedes_hasDodgePenalty request _ cleaned.zones))
  · obtain ⟨same, clean⟩ := clean_of_anyOf (fun playerKey =>
      PartyMatchmakingManager.run_cleanup_of_false) (Bool.eq_false_of_not_eq_true busy)
    rw [same] at penalized ⊢
    rw [MatchPenaltyManager.run_hasDodgePenalty]
    exact Or.inr ⟨⟨Bool.eq_true_of_not_eq_false stopped, nofun,
      fun playerKey inside => indexed.unhosted (clean playerKey inside),
      Bool.eq_false_of_not_eq_true penalized⟩, rfl⟩

/-- A submission brings nobody in, or its request passes the checks and is submitted. -/
theorem Submission.cases (indexed : world.ZonesIndexed) (submission : Submission)
    (request : MatchTicketRequest) :
    let started := (submission.operation deployment request).run perform world
    world.Recedes started.2 ∨ submission.Checked world request ∧
      started = (submit deployment submission.queue request).run perform world := by
  cases submission with
  | soloStartMatchmaking => exact soloStartMatchmaking_cases indexed request
  | partyStartMatchmaking => exact partyStartMatchmaking_cases indexed request
  | startMatchBackfill => exact Or.inr ⟨trivial, run_startMatchBackfill request⟩

theorem World.newMatchTicket_matchingGroupKey (world : World) (matchWorldGroupId : Int)
    (request : MatchTicketRequest) :
    (world.newMatchTicket matchWorldGroupId request).matchingGroupKey =
      (matchWorldGroupId, request.matchZoneId) := by
  simp only [newMatchTicket, MatchTicket.matchingGroupKey, normalizeRequest]
  split_ifs <;> rfl

theorem World.newMatchTicket_players (world : World) (matchWorldGroupId : Int)
    (request : MatchTicketRequest) :
    (world.newMatchTicket matchWorldGroupId request).players = request.players.elements :=
  congrArg OrderedSet.elements (world.normalizeRequest_players request)

/-- A manager's map with one more ticket. -/
theorem stored_of_extend {tickets : QueueKind → TicketRegistry} {queue owner : QueueKind}
    {ticket other : MatchTicket} {id : MatchTicketId}
    (stored : (Function.update tickets queue ((tickets queue).extend MatchTicket.matchTicketId
      MatchTicket.players ticket) owner).items id = some other) :
    (owner = queue ∧ id = ticket.matchTicketId ∧ other = ticket) ∨
      (tickets owner).items id = some other := by
  by_cases own : owner = queue
  · subst own
    rw [Function.update_self] at stored
    by_cases same : id = ticket.matchTicketId
    · subst same
      simp only [Registry.extend, Function.update_self, Option.some.injEq] at stored
      exact Or.inl ⟨rfl, rfl, stored.symm⟩
    · simp only [Registry.extend, Function.update_of_ne same] at stored
      exact Or.inr stored
  · rw [Function.update_of_ne own] at stored
    exact Or.inr stored

/-- A ticket that was submitted is not queued and its id was erased from the manager's map, or
its request was admitted and its ticket was added to the map. -/
theorem submit_cases (sound : world.Sound deployment permits) (queue : QueueKind)
    (request : MatchTicketRequest) :
    let ticket := world.newMatchTicket request.worldNo request
    let after := ((submit deployment queue request).run perform world).2
    (after.ticketStatus ticket ≠ .queued ∧ after.tickets = Function.update world.tickets queue
        ((world.tickets queue).eraseMatchTicket ticket.matchTicketId).2) ∨
      deployment.Serves queue request ∧
        (world.tickets queue).Fresh MatchTicket.matchTicketId MatchTicket.players ticket ∧
        after.tickets = Function.update world.tickets queue
          ((world.tickets queue).extend MatchTicket.matchTicketId MatchTicket.players ticket) := by
  intro ticket after
  have unqueued : (perform (.newMatchTicket queue request.worldNo request)
      world).ticketStatus ticket = .none := sound.newMatchTicket_status _ request
  have settled : after = _ := congrArg Prod.snd (run_submit queue request world)
  clear_value after
  subst settled
  rcases run_enqueueWorkerJobRequest deployment queue unqueued with
    ⟨-, run⟩ | ⟨group, accepted, handed, served, fresh, given, run⟩
  · rw [run]
    exact Or.inl ⟨(World.settle_refused queue ticket).2.1,
      (World.settle_refused queue ticket).2.2.1⟩
  · have tickets : handed.tickets = Function.update world.tickets queue
        ((world.tickets queue).extend MatchTicket.matchTicketId MatchTicket.players ticket) :=
      given.tickets
    cases accepted with
    | true =>
        obtain ⟨group, served, admitted⟩ := served_of_enqueued (congrArg Prod.fst run)
        rw [run]
        refine Or.inr ⟨⟨group, ?_, ?_⟩, fresh, tickets⟩
        · rw [← served]
          exact congrArg _ (world.newMatchTicket_matchingGroupKey _ request).symm
        · rw [← world.newMatchTicket_players request.worldNo request]
          exact admitted
    | false =>
        rw [run]
        refine Or.inl ⟨(World.settle_refused queue ticket).2.1, ?_⟩
        have erased : ((handed.tickets queue).eraseMatchTicket ticket.matchTicketId).2 =
            world.tickets queue := by
          rw [tickets, Function.update_self]
          exact Registry.erase_insert_of_fresh _ _ fresh
        simp only [Bool.false_eq_true, if_false]
        rw [(World.settle_refused queue ticket).2.2.1, erased]
        funext owner
        by_cases own : owner = queue
        · subst own
          simp only [Function.update_self, World.withTickets_tickets]
        · simp only [Function.update_of_ne own, World.withTickets_tickets, tickets]

end Checks

end MatchmakingMvp
