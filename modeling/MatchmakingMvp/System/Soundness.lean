import MatchmakingMvp.System.Protocol

/-! # What holds of every state

Whatever ticket ids the callers choose and however the threads interleave, the
managers index only tickets they made, the workers store only requests of such
tickets, a list in progress never outgrows its match, and the tickets of
registered sessions have left their queues (`MatchmakingMvp.World.Sound`). Every
section keeps this (`MatchmakingMvp.Issues.sound`).
-/

namespace MatchmakingMvp

open Foundation

variable (deployment : Deployment) (permits : MatchTicketRequest → Prop)

/-- A request of a ticket carried to the worker group with a key. -/
def World.Entry (world : World) (queue : QueueKind) (key : MatchmakingGroupKey)
    (request : MatchmakingRequest) : Prop :=
  ∃ group ticket, group.workerGroupKey = key ∧ request = ticket.matchmakingRequest ∧
    Carried deployment world queue group ticket

/-- Callers leave the choice of ticket ids to the server. -/
def ServerIssues : Prop := ∀ request, permits request → request.matchTicketId = -1

/-- The facts about tickets, requests and sessions that every section keeps. -/
structure World.Sound (world : World) : Prop where
  serials : world.matchTickets.map (·.2.serial) = (List.range world.matchTickets.length).reverse
  single : ∀ ticket, world.Made .solo ticket → ticket.players.length ≤ 1
  nonneg : 0 ≤ world.nextMatchTicketId ∧
    ∀ queue ticket, world.Made queue ticket → 0 ≤ ticket.matchTicketId
  issued : ServerIssues permits →
    world.nextMatchTicketId = 1000 + world.matchTickets.length ∧
      ∀ queue ticket, world.Made queue ticket → ticket.matchTicketId = 1000 + ticket.serial
  started : ∀ ticket, world.ticketStatus ticket ≠ .none → ∃ queue, world.Made queue ticket
  served : ∀ queue ticket, world.Made queue ticket → world.ticketStatus ticket = .queued →
    ∃ group, deployment.getWorkerGroup queue ticket.matchingGroupKey = some group
  registered : ∀ queue id ticket, (world.tickets queue).items id = some ticket →
    world.Made queue ticket ∧
      ∃ group, deployment.getWorkerGroup queue ticket.matchingGroupKey = some group
  solo : ∀ key index, (world.soloWorkers key index).Every (world.Entry deployment .solo key)
  party : ∀ key, (world.partyGroups key).Every (world.Entry deployment .party key)
  filed : ∀ key index, ((world.partyGroups key).workers index).Filed
  progressing : ∀ group : WorkerGroup,
    deployment.getWorkerGroup .solo group.workerGroupKey = some group → ∀ index,
    ((world.soloWorkers group.workerGroupKey index).sendProgressingList.size : Int) ≤
      max 0 group.matchmakingRule.matchPlayerCount
  seated : ∀ id session, world.matchSessions.items id = some session →
    ∀ ticket ∈ session.tickets, (world.ticketStatus ticket).engaged = true
  slots : ∀ request, world.workerSlot request ≠ {} →
    ∃ queue ticket, world.Made queue ticket ∧ request = ticket.matchmakingRequest

variable {deployment permits} {step : Section} {world : World} {stage stage' : Stage}

/-! ## The tickets made -/

namespace World.Sound

variable {queue other : QueueKind} {ticket rival : MatchTicket}

theorem serial_lt (sound : world.Sound deployment permits) (made : world.Made queue ticket) :
    ticket.serial < world.matchTickets.length := by
  have listed : ticket.serial ∈ world.matchTickets.map (·.2.serial) :=
    List.mem_map_of_mem (f := fun entry : QueueKind × MatchTicket => entry.2.serial) made
  rw [sound.serials, List.mem_reverse, List.mem_range] at listed
  exact listed

/-- A serial number is given to one ticket of one manager. -/
theorem eq_of_serial (sound : world.Sound deployment permits) (made : world.Made queue ticket)
    (rivalMade : world.Made other rival) (same : ticket.serial = rival.serial) :
    queue = other ∧ ticket = rival := by
  have nodup : (world.matchTickets.map (·.2.serial)).Nodup := by
    rw [sound.serials]
    exact List.nodup_reverse.mpr List.nodup_range
  have equal := List.inj_on_of_nodup_map nodup made rivalMade same
  exact Prod.mk.injEq _ _ _ _ ▸ equal

theorem party_ne_solo (sound : world.Sound deployment permits) (party : world.Made .party ticket)
    (solo : world.Made .solo rival) : ticket ≠ rival := by
  rintro rfl
  cases (sound.eq_of_serial party solo rfl).1

/-- With server-issued ids, an id is given to one ticket of one manager. -/
theorem eq_of_matchTicketId (sound : world.Sound deployment permits)
    (serverIssues : ServerIssues permits) (made : world.Made queue ticket)
    (rivalMade : world.Made other rival) (same : ticket.matchTicketId = rival.matchTicketId) :
    queue = other ∧ ticket = rival := by
  have issued := (sound.issued serverIssues).2
  refine sound.eq_of_serial made rivalMade ?_
  have equal := (issued _ _ made).symm.trans (same.trans (issued _ _ rivalMade))
  exact Int.ofNat_inj.mp (Int.add_left_cancel equal)

theorem newMatchTicket_not_made (sound : world.Sound deployment permits) (queue : QueueKind)
    (matchWorldGroupId : Int) (request : MatchTicketRequest) :
    ¬ world.Made queue (world.newMatchTicket matchWorldGroupId request) :=
  fun made => absurd (sound.serial_lt made) (lt_irrefl _)

/-- A ticket not made yet has no status. -/
theorem status_of_not_made (sound : world.Sound deployment permits)
    (unmade : ∀ queue, ¬ world.Made queue ticket) : world.ticketStatus ticket = .none := by
  by_contra started
  obtain ⟨queue, made⟩ := sound.started ticket started
  exact unmade queue made

theorem newMatchTicket_status (sound : world.Sound deployment permits) (matchWorldGroupId : Int)
    (request : MatchTicketRequest) :
    world.ticketStatus (world.newMatchTicket matchWorldGroupId request) = .none :=
  sound.status_of_not_made fun queue =>
    sound.newMatchTicket_not_made queue matchWorldGroupId request

end World.Sound

theorem World.Entry.mono {before after : World} (precedes : before.Precedes after)
    {queue : QueueKind} {key : MatchmakingGroupKey} {request : MatchmakingRequest}
    (entry : before.Entry deployment queue key request) :
    after.Entry deployment queue key request := by
  obtain ⟨group, ticket, keyed, rfl, carried⟩ := entry
  exact ⟨group, ticket, keyed, rfl, carried.mono precedes⟩

/-- Only making a ticket changes the list of tickets made. -/
theorem Issues.matchTickets_eq (issues : Issues deployment permits step world stage stage') :
    (∃ queue request, step = .newMatchTicket queue request.worldNo request ∧ permits request ∧
      (queue = .solo → request.players.elements.length ≤ 1)) ∨
    (perform step world).matchTickets = world.matchTickets ∧
      (perform step world).nextMatchTicketId = world.nextMatchTicketId := by
  cases issues with
  | make permitted single => exact Or.inl ⟨_, _, rfl, permitted, single⟩
  | neutral neutral =>
      have same := sameMatchmaking_of_neutral neutral world
      exact Or.inr ⟨same.matchTickets, same.nextMatchTicketId⟩
  | _ => exact Or.inr ⟨rfl, rfl⟩

theorem World.normalizeRequest_matchTicketId (world : World) (request : MatchTicketRequest) :
    (world.normalizeRequest request).matchTicketId =
      if request.matchTicketId < 0 then world.nextMatchTicketId else request.matchTicketId := by
  rw [normalizeRequest]
  split_ifs <;> rfl

theorem World.normalizeRequest_players (world : World) (request : MatchTicketRequest) :
    (world.normalizeRequest request).players = request.players := by
  rw [normalizeRequest]
  split_ifs <;> rfl

theorem made_newMatchTicket_iff {queue other : QueueKind} {matchWorldGroupId : Int}
    {request : MatchTicketRequest} {ticket : MatchTicket} :
    (perform (.newMatchTicket queue matchWorldGroupId request) world).Made other ticket ↔
      (other = queue ∧ ticket = world.newMatchTicket matchWorldGroupId request) ∨
        world.Made other ticket := by
  simp [World.Made, perform]

/-- The tickets made stay numbered in the order they were made. -/
private theorem Issues.tickets_sound (issues : Issues deployment permits step world stage stage')
    (sound : world.Sound deployment permits) :
    (perform step world).matchTickets.map (·.2.serial) =
        (List.range (perform step world).matchTickets.length).reverse ∧
      (∀ ticket, (perform step world).Made .solo ticket → ticket.players.length ≤ 1) ∧
      (0 ≤ (perform step world).nextMatchTicketId ∧
        ∀ queue ticket, (perform step world).Made queue ticket → 0 ≤ ticket.matchTicketId) ∧
      (ServerIssues permits →
        (perform step world).nextMatchTicketId = 1000 + (perform step world).matchTickets.length ∧
        ∀ queue ticket, (perform step world).Made queue ticket →
          ticket.matchTicketId = 1000 + ticket.serial) := by
  rcases issues.matchTickets_eq with ⟨queue, request, rfl, permitted, single⟩ | ⟨same, next⟩
  · refine ⟨?_, fun ticket made => ?_, ⟨?_, fun other ticket made => ?_⟩,
      fun serverIssues => ⟨?_, fun other ticket made => ?_⟩⟩
    · simp only [perform, List.map_cons, List.length_cons, List.range_succ, List.reverse_append,
        sound.serials]
      rfl
    · rcases made_newMatchTicket_iff.mp made with ⟨rfl, rfl⟩ | earlier
      · rw [MatchTicket.players, World.newMatchTicket, World.normalizeRequest_players]
        exact single rfl
      · exact sound.single ticket earlier
    · have nonneg : (0 : Int) ≤ world.nextMatchTicketId := sound.nonneg.1
      simp only [perform]
      split_ifs
      · exact nonneg.trans (Int.le_add_one (le_refl _))
      · exact nonneg
    · rcases made_newMatchTicket_iff.mp made with ⟨rfl, rfl⟩ | earlier
      · rw [MatchTicket.matchTicketId, World.newMatchTicket, World.normalizeRequest_matchTicketId]
        split_ifs with chosen
        · exact sound.nonneg.1
        · exact not_lt.mp chosen
      · exact sound.nonneg.2 _ _ earlier
    · simp only [perform, serverIssues request permitted, List.length_cons,
        (sound.issued serverIssues).1, Int.natCast_add, Int.natCast_one]
      exact Int.add_assoc _ _ _
    · rcases made_newMatchTicket_iff.mp made with ⟨rfl, rfl⟩ | earlier
      · rw [MatchTicket.matchTicketId, World.newMatchTicket, World.normalizeRequest_matchTicketId,
          serverIssues request permitted, if_pos (by decide), (sound.issued serverIssues).1]
      · exact (sound.issued serverIssues).2 _ _ earlier
  · have made : ∀ {queue ticket}, (perform step world).Made queue ticket →
        world.Made queue ticket := by
      intro queue ticket made
      rwa [World.Made, same] at made
    refine ⟨?_, fun ticket after => sound.single ticket (made after),
      ⟨?_, fun queue ticket after => sound.nonneg.2 _ _ (made after)⟩,
      fun serverIssues => ⟨?_, fun queue ticket after =>
        (sound.issued serverIssues).2 _ _ (made after)⟩⟩
    · rw [same, sound.serials]
    · rw [next]
      exact sound.nonneg.1
    · rw [next, same]
      exact (sound.issued serverIssues).1

/-- Only tickets that were made are given a first status, and only a group queues
its tickets. -/
private theorem Issues.made_of_starts (issues : Issues deployment permits step world stage stage')
    {ticket : MatchTicket} (before : world.ticketStatus ticket = .none)
    (after : (perform step world).ticketStatus ticket ≠ .none) :
    ∃ queue, world.Made queue ticket ∧ ((perform step world).ticketStatus ticket = .queued →
      ∃ group, deployment.getWorkerGroup queue ticket.matchingGroupKey = some group) := by
  have only : ∀ {other queue} status, world.Made queue other →
      (status = .queued →
        ∃ group, deployment.getWorkerGroup queue other.matchingGroupKey = some group) →
      (perform step world).ticketStatus ticket =
        (other.changeStatus status world.ticketStatus).2 ticket →
      ∃ queue, world.Made queue ticket ∧ ((perform step world).ticketStatus ticket = .queued →
        ∃ group, deployment.getWorkerGroup queue ticket.matchingGroupKey = some group) := by
    intro other queue status made served changed
    by_cases same : ticket = other
    · subst same
      refine ⟨queue, made, fun queued => served ?_⟩
      rw [changed] at queued
      cases can : canChangeStatus (world.ticketStatus ticket) status with
      | true =>
          rw [MatchTicket.changeStatus_of_can can] at queued
          exact (Function.update_self ..).symm.trans queued
      | false =>
          rw [MatchTicket.changeStatus_of_cannot can] at queued
          cases before.symm.trans queued
    · rw [changed, MatchTicket.changeStatus_of_ne same] at after
      exact (after before).elim
  have joint : ∀ {session : MatchSession} {status},
      (∀ ticket ∈ session.tickets, (world.ticketStatus ticket).engaged = true) →
      (world.changeSessionStatus session status).2.2 ticket = .none := by
    intro session status engaged
    rw [World.changeSessionStatus]
    by_cases changeable : session.Changeable status (world.sessionState session)
        world.ticketStatus
    · rw [MatchSession.changeStatus_of_changeable changeable]
      refine (moveAll_of_not_mem fun inside => ?_).trans before
      have moved := engaged ticket inside
      rw [before] at moved
      cases moved
    · rw [MatchSession.changeStatus_of_not_changeable changeable]
      exact before
  cases issues with
  | neutral neutral =>
      rw [(sameMatchmaking_of_neutral neutral world).ticketStatus] at after
      exact (after before).elim
  | queue made served => exact only .queued made (fun _ => ⟨_, served⟩) rfl
  | abandon made => exact only .failed made nofun rfl
  | fail made => exact only .failed made nofun rfl
  | soloCancel made =>
      exact only .cancelled made nofun
        (congrFun SoloMatchmakingWorker.cancel_statuses ticket)
  | partyCancel made =>
      exact only .cancelled made nofun
        (congrFun PartyMatchmakingWorkerGroup.cancelMatchTicket_statuses ticket)
  | @partyEnqueue _ other group index carried =>
      have statuses : (perform (.partyEnqueue group index other.matchmakingRequest other)
          world).ticketStatus = _ := PartyMatchmakingWorkerGroup.enqueueSection_statuses
      split_ifs at statuses
      · exact only .queued carried.made (fun _ => ⟨_, carried.served⟩) (congrFun statuses ticket)
      · exact (after ((congrFun statuses ticket).trans before)).elim
  | soloWait | soloClaim | soloReject =>
      simp only [perform, World.soloRun, World.withTicketStatus_ticketStatus] at after
      rcases SoloMatchmakingWorker.doWorkerAsyncJob_apply ticket with same | moved
      · exact (after (same.trans before)).elim
      · rw [before] at moved
        cases moved.1
  | partyRefuse | partyClaim =>
      simp only [perform, World.partyCommit, World.withTicketStatus_ticketStatus] at after
      rcases PartyMatchmakingWorkerGroup.tryCommit_apply ticket with same | moved
      · exact (after (same.trans before)).elim
      · rw [before] at moved
        cases moved.1
  | require engaged => exact (after (joint engaged)).elim
  | change engaged => exact (after (joint engaged)).elim
  | _ => exact (after before).elim

private theorem Issues.started_sound (issues : Issues deployment permits step world stage stage')
    (sound : world.Sound deployment permits) {ticket : MatchTicket}
    (after : (perform step world).ticketStatus ticket ≠ .none) :
    ∃ queue, (perform step world).Made queue ticket := by
  by_cases before : world.ticketStatus ticket = .none
  · obtain ⟨queue, made, -⟩ := issues.made_of_starts before after
    exact ⟨queue, perform_made made⟩
  · obtain ⟨queue, made⟩ := sound.started ticket before
    exact ⟨queue, perform_made made⟩

private theorem Issues.served_sound (issues : Issues deployment permits step world stage stage')
    (sound : world.Sound deployment permits) {queue : QueueKind} {ticket : MatchTicket}
    (made : (perform step world).Made queue ticket)
    (queued : (perform step world).ticketStatus ticket = .queued) :
    ∃ group, deployment.getWorkerGroup queue ticket.matchingGroupKey = some group := by
  have same : ∀ {owner}, world.Made owner ticket → owner = queue := by
    intro owner earlier
    rcases issues.matchTickets_eq with ⟨_, request, rfl, -, -⟩ | ⟨kept, -⟩
    · rcases made_newMatchTicket_iff.mp made with ⟨rfl, rfl⟩ | before
      · exact (sound.newMatchTicket_not_made _ _ _ earlier).elim
      · exact (sound.eq_of_serial earlier before rfl).1
    · rw [World.Made, kept] at made
      exact (sound.eq_of_serial earlier made rfl).1
  have advances := (precedes_perform step world).advances ticket
  rw [queued] at advances
  rcases advances.queued_of with before | before
  · obtain ⟨owner, earlier, served⟩ := issues.made_of_starts before (by rw [queued]; exact nofun)
    exact same earlier ▸ served queued
  · obtain ⟨owner, earlier⟩ := sound.started ticket (by rw [before]; exact nofun)
    exact same earlier ▸ sound.served owner ticket earlier before

/-! ## Registries -/

/-- What a manager's map may hold after a section. -/
private theorem Issues.registered_sound
    (issues : Issues deployment permits step world stage stage')
    (sound : world.Sound deployment permits) {queue : QueueKind} {id : MatchTicketId}
    {ticket : MatchTicket} (found : ((perform step world).tickets queue).items id = some ticket) :
    (perform step world).Made queue ticket ∧
      ∃ group, deployment.getWorkerGroup queue ticket.matchingGroupKey = some group := by
  suffices world.Made queue ticket ∧
      ∃ group, deployment.getWorkerGroup queue ticket.matchingGroupKey = some group from
    ⟨perform_made this.1, this.2⟩
  have erased : ∀ {owner : QueueKind} {erasedId : MatchTicketId},
      ((world.withTickets owner ((world.tickets owner).eraseMatchTicket erasedId).2).tickets
        queue).items id = some ticket → (world.tickets queue).items id = some ticket := by
    intro owner erasedId found
    by_cases same : queue = owner
    · subst same
      simp only [World.withTickets_tickets, Function.update_self] at found
      exact (Registry.stored_of_erase _ _ found).2
    · simpa only [World.withTickets_tickets, Function.update_of_ne same] using found
  cases issues with
  | @register _ owner newcomer base group made served =>
      by_cases same : queue = owner
      · subst same
        simp only [perform, World.withTickets_tickets, Function.update_self] at found
        rcases Registry.eq_or_stored_of_insert _ _ found with ⟨-, rfl⟩ | earlier
        · exact ⟨made, group, served⟩
        · exact sound.registered queue id ticket earlier
      · simp only [perform, World.withTickets_tickets, Function.update_of_ne same] at found
        exact sound.registered queue id ticket found
  | unregister => exact sound.registered queue id ticket (erased found)
  | forget => exact sound.registered queue id ticket (erased found)
  | neutral neutral =>
      rw [(sameMatchmaking_of_neutral neutral world).tickets] at found
      exact sound.registered queue id ticket found
  | _ => exact sound.registered queue id ticket found

/-- The tickets of a registered session have left their queues. -/
private theorem Issues.seated_sound (issues : Issues deployment permits step world stage stage')
    (sound : world.Sound deployment permits) {id : MatchId} {session : MatchSession}
    (found : (perform step world).matchSessions.items id = some session) {ticket : MatchTicket}
    (inside : ticket ∈ session.tickets) :
    ((perform step world).ticketStatus ticket).engaged = true := by
  suffices (world.ticketStatus ticket).engaged = true from
    (precedes_perform step world).engaged this
  cases issues with
  | insert served nonempty fills made engaged =>
      rcases Registry.eq_or_stored_of_insert _ _ found with ⟨-, rfl⟩ | earlier
      · exact engaged ticket inside
      · exact sound.seated id session earlier ticket inside
  | reject rejected =>
      rcases Registry.eq_or_stored_of_insert _ _ found with ⟨-, rfl⟩ | earlier
      · simp only [perform, World.withMatchSessions_matchSessions] at found
        rw [SessionRegistry.insertMatchSession, Registry.insert_of_not_fresh] at found
        · exact sound.seated id session found ticket inside
        · intro fresh
          rw [SessionRegistry.insertMatchSession, Registry.insert_of_fresh _ _ fresh] at rejected
          cases rejected
      · exact sound.seated id session earlier ticket inside
  | unseat => exact sound.seated id session (Registry.stored_of_erase _ _ found).2 ticket inside
  | close => exact sound.seated id session (Registry.stored_of_erase _ _ found).2 ticket inside
  | neutral neutral =>
      rw [(sameMatchmaking_of_neutral neutral world).matchSessions] at found
      exact sound.seated id session found ticket inside
  | _ => exact sound.seated id session found ticket inside

/-! ## Workers -/

theorem World.withSoloWorker_every {property : MatchmakingRequest → Prop} {group : WorkerGroup}
    {index : Int} {worker : SoloMatchmakingWorker} {key : MatchmakingGroupKey}
    (every : ∀ index, (world.soloWorkers key index).Every property)
    (holds : group.workerGroupKey = key → worker.Every property) (other : Int) :
    ((world.withSoloWorker group index worker).soloWorkers key other).Every property := by
  rw [World.withSoloWorker_soloWorkers]
  by_cases sameKey : key = group.workerGroupKey
  · subst sameKey
    rw [Function.update_self]
    by_cases same : other = index
    · subst same
      rw [Function.update_self]
      exact holds rfl
    · rw [Function.update_of_ne same]
      exact every other
  · rw [Function.update_of_ne sameKey]
    exact every other

theorem World.withPartyGroup_every {property : MatchmakingRequest → Prop} {group : WorkerGroup}
    {state : PartyMatchmakingWorkerGroup} {key : MatchmakingGroupKey}
    (every : (world.partyGroups key).Every property)
    (holds : group.workerGroupKey = key → state.Every property) :
    ((world.withPartyGroup group state).partyGroups key).Every property := by
  rw [World.withPartyGroup_partyGroups]
  by_cases same : key = group.workerGroupKey
  · subst same
    rw [Function.update_self]
    exact holds rfl
  · rw [Function.update_of_ne same]
    exact every

private theorem Issues.solo_sound (issues : Issues deployment permits step world stage stage')
    (sound : world.Sound deployment permits) (key : MatchmakingGroupKey) (index : Int) :
    ((perform step world).soloWorkers key index).Every
      ((perform step world).Entry deployment .solo key) := by
  suffices ((perform step world).soloWorkers key index).Every (world.Entry deployment .solo key)
    from this.mono fun _ => World.Entry.mono (precedes_perform step world)
  cases issues with
  | @soloEnqueue _ ticket _ group base carried =>
      refine World.withSoloWorker_every (sound.solo key) (fun same => ?_) index
      have holds : world.Entry deployment .solo key ticket.matchmakingRequest :=
        ⟨group, ticket, same, rfl, carried⟩
      have enqueued := (sound.solo key base).enqueueJobRequest holds world.ticketStatus
      rw [World.soloEnqueue, World.soloWorker, same]
      generalize SoloMatchmakingWorker.enqueueJobRequest _ _ _ = result at enqueued ⊢
      obtain ⟨accepted, worker⟩ := result
      cases accepted with
      | true => exact enqueued
      | false => exact enqueued.erase ticket
  | @soloCancel _ _ ticket group base =>
      refine World.withSoloWorker_every (sound.solo key) (fun same => ?_) index
      subst same
      exact (sound.solo _ base).cancel ticket world.ticketStatus
  | @soloWait _ _ group base | @soloClaim _ _ group base | @soloReject _ _ group base =>
      refine World.withSoloWorker_every (sound.solo key) (fun same => ?_) index
      subst same
      exact (sound.solo _ base).doWorkerAsyncJob group.matchmakingRule world.ticketStatus
  | neutral neutral =>
      rw [(sameMatchmaking_of_neutral neutral world).soloWorkers]
      exact sound.solo key index
  | _ => exact sound.solo key index

private theorem Issues.party_sound (issues : Issues deployment permits step world stage stage')
    (sound : world.Sound deployment permits) (key : MatchmakingGroupKey) :
    ((perform step world).partyGroups key).Every
      ((perform step world).Entry deployment .party key) := by
  suffices ((perform step world).partyGroups key).Every (world.Entry deployment .party key)
    from this.mono fun _ => World.Entry.mono (precedes_perform step world)
  cases issues with
  | @partyEnqueue _ ticket group base carried =>
      refine World.withPartyGroup_every (sound.party key) fun same => ?_
      subst same
      exact (sound.party _).enqueueSection ⟨group, ticket, rfl, rfl, carried⟩
  | @partyCancel _ _ ticket group =>
      refine World.withPartyGroup_every (sound.party key) fun same => ?_
      subst same
      exact (sound.party _).cancelMatchTicket ticket world.ticketStatus
  | @partyExpand _ _ group =>
      refine World.withPartyGroup_every (sound.party key) fun same => ?_
      subst same
      exact (sound.party _).expandMatchmakingWorkerSlot _ _ _
  | partyRefuse | partyClaim =>
      refine World.withPartyGroup_every (sound.party key) fun same => ?_
      subst same
      exact (sound.party _).tryCommitMatchmakingRequests _ _ _
  | neutral neutral =>
      rw [(sameMatchmaking_of_neutral neutral world).partyGroups]
      exact sound.party key
  | _ => exact sound.party key

/-- Whatever a group is asked to do, the buckets of its workers stay in order. -/
theorem World.filed_perform (filed : ∀ key index, ((world.partyGroups key).workers index).Filed)
    (step : Section) (key : MatchmakingGroupKey) (index : Int) :
    (((perform step world).partyGroups key).workers index).Filed := by
  have upholds : ∀ key, (world.partyGroups key).Upholds PartyMatchmakingWorker.Filed
      fun _ => True := fun key => ⟨filed key, fun _ _ => trivial⟩
  have maintained := PartyMatchmakingWorker.filed_maintained
  have within : ∀ {group : WorkerGroup} {state : PartyMatchmakingWorkerGroup},
      state.Upholds PartyMatchmakingWorker.Filed (fun _ => True) →
      (((world.withPartyGroup group state).partyGroups key).workers index).Filed := by
    intro group state holds
    rw [World.withPartyGroup_partyGroups]
    by_cases same : key = group.workerGroupKey
    · subst same
      rw [Function.update_self]
      exact holds.workers index
    · rw [Function.update_of_ne same]
      exact filed key index
  cases step with
  | partyEnqueue group => exact within ((upholds _).enqueueSection maintained trivial trivial)
  | partyCancel group => exact within ((upholds _).cancelMatchTicket maintained trivial)
  | partyCommit group =>
      exact within ((upholds _).tryCommitMatchmakingRequests maintained fun _ _ _ _ => trivial)
  | partyExpand group => exact within ((upholds _).expandMatchmakingWorkerSlot maintained _)
  | nextIntegrationWorldNo =>
      simp only [perform]
      split_ifs <;> exact filed key index
  | _ => exact filed key index

/-- An entry stored for a group is carried to that group. -/
theorem World.Entry.of_served {queue : QueueKind} {group : WorkerGroup}
    {request : MatchmakingRequest}
    (served : deployment.getWorkerGroup queue group.workerGroupKey = some group)
    (entry : world.Entry deployment queue group.workerGroupKey request) :
    ∃ ticket, request = ticket.matchmakingRequest ∧
      ticket.matchingGroupKey = group.workerGroupKey ∧
      Carried deployment world queue group ticket := by
  obtain ⟨other, ticket, keyed, rfl, carried⟩ := entry
  have same : ticket.matchingGroupKey = group.workerGroupKey := by
    rw [← keyed, Deployment.getWorkerGroup_key carried.served]
  have equal : other = group := by
    have found := carried.served
    rw [same, served, Option.some.injEq] at found
    exact found.symm
  exact ⟨ticket, rfl, same, equal ▸ carried⟩

/-- A group whose rule admits no party stores no requests. -/
theorem World.Sound.waitingQueue_of_nonpos (sound : world.Sound deployment permits)
    {group : WorkerGroup}
    (served : deployment.getWorkerGroup .solo group.workerGroupKey = some group)
    (nonpos : group.matchmakingRule.matchPlayerCount ≤ 0) (index : Int) :
    (world.soloWorkers group.workerGroupKey index).waitingQueue = OrderedMap.empty := by
  apply OrderedMap.ext_find?
  intro id
  rw [OrderedMap.find?_empty]
  by_contra present
  obtain ⟨request, found⟩ := Option.ne_none_iff_exists'.mp present
  obtain ⟨ticket, -, -, carried⟩ :=
    ((sound.solo _ index).waiting id request found).of_served served
  exact absurd (matchPlayerCount_pos_of_contains carried.admitted) (not_lt.mpr nonpos)

theorem SoloMatchmakingWorker.size_enqueueJobRequest_progressing
    (worker : SoloMatchmakingWorker) (statuses : TicketStatuses) (request : MatchmakingRequest) :
    (worker.enqueueJobRequest statuses request).2.sendProgressingList =
      worker.sendProgressingList := by
  rw [enqueueJobRequest]
  split
  · rfl
  · split_ifs <;> rfl

section Progressing

variable {group other : WorkerGroup} {base index : Int} (sound : world.Sound deployment permits)
  (served : deployment.getWorkerGroup .solo group.workerGroupKey = some group)

include sound served

/-- A solo worker whose list in progress stays within a match. -/
private theorem World.Sound.progressing_withSoloWorker {worker : SoloMatchmakingWorker}
    (holds : other.workerGroupKey = group.workerGroupKey →
      (worker.sendProgressingList.size : Int) ≤ max 0 group.matchmakingRule.matchPlayerCount) :
    (((world.withSoloWorker other base worker).soloWorkers group.workerGroupKey
      index).sendProgressingList.size : Int) ≤ max 0 group.matchmakingRule.matchPlayerCount := by
  rw [World.withSoloWorker_soloWorkers]
  by_cases sameKey : group.workerGroupKey = other.workerGroupKey
  · rw [sameKey, Function.update_self]
    by_cases same : index = base
    · rw [same, Function.update_self]
      exact holds sameKey.symm
    · rw [Function.update_of_ne same, ← sameKey]
      exact sound.progressing group served index
  · rw [Function.update_of_ne sameKey]
    exact sound.progressing group served index

/-- A run fills the list in progress up to a match, or empties it. -/
private theorem World.Sound.progressing_soloRun
    (otherServed : deployment.getWorkerGroup .solo other.workerGroupKey = some other)
    (sameKey : other.workerGroupKey = group.workerGroupKey) :
    ((world.soloRun other base).2.1.sendProgressingList.size : Int) ≤
      max 0 group.matchmakingRule.matchPlayerCount := by
  have same : other = group := by
    rw [sameKey, served, Option.some.injEq] at otherServed
    exact otherServed.symm
  subst same
  have filled := SoloMatchmakingWorker.size_filled_le (sound.progressing other served base)
    fun nonpos => sound.waitingQueue_of_nonpos served nonpos base
  rcases SoloMatchmakingWorker.doWorkerAsyncJob_cases other.matchmakingRule
    (world.soloWorker other base) world.ticketStatus with
    ⟨-, run⟩ | ⟨-, ⟨-, run⟩ | ⟨-, run⟩⟩
  · rw [World.soloRun, run]
    exact filled
  · rw [World.soloRun, run]
    exact le_max_left _ _
  · rw [World.soloRun, run]
    exact le_max_left _ _

end Progressing

private theorem Issues.progressing_sound
    (issues : Issues deployment permits step world stage stage')
    (sound : world.Sound deployment permits) {group : WorkerGroup}
    (served : deployment.getWorkerGroup .solo group.workerGroupKey = some group) (index : Int) :
    (((perform step world).soloWorkers group.workerGroupKey index).sendProgressingList.size :
      Int) ≤ max 0 group.matchmakingRule.matchPlayerCount := by
  have shrunk : ∀ (worker : SoloMatchmakingWorker) (ticket : MatchTicket),
      ((worker.erase ticket).sendProgressingList.size : Int) ≤ worker.sendProgressingList.size :=
    fun worker ticket => Int.ofNat_le.mpr (OrderedMap.size_erase_le _ _)
  cases issues with
  | @soloEnqueue _ ticket _ other base =>
      refine sound.progressing_withSoloWorker served fun same => ?_
      have within := sound.progressing group served base
      rw [World.soloEnqueue]
      have kept := SoloMatchmakingWorker.size_enqueueJobRequest_progressing
        (world.soloWorker other base) world.ticketStatus ticket.matchmakingRequest
      rw [World.soloWorker, same] at kept ⊢
      generalize SoloMatchmakingWorker.enqueueJobRequest _ _ _ = result at kept ⊢
      obtain ⟨accepted, worker⟩ := result
      cases accepted with
      | true => rwa [kept]
      | false =>
          refine (shrunk worker ticket).trans ?_
          rwa [kept]
  | @soloCancel _ _ ticket other base =>
      refine sound.progressing_withSoloWorker served fun same => ?_
      have within := sound.progressing group served base
      rw [← same] at within
      change ((world.soloCancel other base ticket).2.1.sendProgressingList.size : Int) ≤ _
      rw [World.soloCancel]
      cases can : canChangeStatus (world.ticketStatus ticket) .cancelled with
      | true =>
          rw [SoloMatchmakingWorker.cancel_of_can can]
          exact (shrunk _ ticket).trans within
      | false =>
          rw [SoloMatchmakingWorker.cancel_of_cannot can]
          exact within
  | soloWait otherServed | soloClaim otherServed | soloReject otherServed =>
      exact sound.progressing_withSoloWorker served (sound.progressing_soloRun served otherServed)
  | neutral neutral =>
      rw [(sameMatchmaking_of_neutral neutral world).soloWorkers]
      exact sound.progressing group served index
  | _ => exact sound.progressing group served index

private theorem Issues.slots_sound (issues : Issues deployment permits step world stage stage')
    (sound : world.Sound deployment permits) {request : MatchmakingRequest}
    (moved : (perform step world).workerSlot request ≠ {}) :
    ∃ queue ticket, (perform step world).Made queue ticket ∧
      request = ticket.matchmakingRequest := by
  suffices ∃ queue ticket, world.Made queue ticket ∧ request = ticket.matchmakingRequest by
    obtain ⟨queue, ticket, made, same⟩ := this
    exact ⟨queue, ticket, perform_made made, same⟩
  cases issues with
  | @assign _ queue ticket base group made =>
      by_cases same : request = ticket.matchmakingRequest
      · exact ⟨queue, ticket, made, same⟩
      · simp only [perform, Function.update_of_ne same] at moved
        exact sound.slots request moved
  | @partyExpand _ _ group =>
      by_cases scheduled : ∃ entry ∈ (world.partyGroup group).matchmakingRequestSlotExpandTimeMap,
          entry.2 = request
      · obtain ⟨entry, inside, rfl⟩ := scheduled
        obtain ⟨_, ticket, -, same, carried⟩ := (sound.party _).expanding entry inside
        exact ⟨.party, ticket, carried.made, same⟩
      · push Not at scheduled
        have kept : (world.partyExpand group).2 request = world.workerSlot request :=
          PartyMatchmakingWorkerGroup.expandMatchmakingWorkerSlot_slots scheduled
        exact sound.slots request (kept ▸ moved)
  | neutral neutral =>
      rw [(sameMatchmaking_of_neutral neutral world).workerSlot] at moved
      exact sound.slots request moved
  | _ => exact sound.slots request moved

/-- **Every section keeps the state sound.** -/
theorem Issues.sound (issues : Issues deployment permits step world stage stage')
    (sound : world.Sound deployment permits) :
    (perform step world).Sound deployment permits := by
  obtain ⟨serials, single, nonneg, issued⟩ := issues.tickets_sound sound
  exact {
    serials, single, nonneg, issued
    started := fun _ => issues.started_sound sound
    served := fun _ _ => issues.served_sound sound
    registered := fun _ _ _ => issues.registered_sound sound
    solo := issues.solo_sound sound
    party := issues.party_sound sound
    filed := World.filed_perform sound.filed step
    progressing := fun _ => issues.progressing_sound sound
    seated := fun _ _ found _ => issues.seated_sound sound found
    slots := fun _ => issues.slots_sound sound }

theorem World.Sound.initial : ({} : World).Sound deployment permits where
  serials := rfl
  single := nofun
  nonneg := ⟨by decide, nofun⟩
  issued := fun _ => ⟨rfl, nofun⟩
  started := fun _ started => (started rfl).elim
  served := nofun
  registered := nofun
  solo := fun _ _ => SoloMatchmakingWorker.Every.default
  party := fun _ => PartyMatchmakingWorkerGroup.Every.default
  filed := fun _ _ => PartyMatchmakingWorker.Filed.default
  progressing := fun _ _ _ => le_max_left _ _
  seated := nofun
  slots := fun _ moved => (moved rfl).elim

end MatchmakingMvp
