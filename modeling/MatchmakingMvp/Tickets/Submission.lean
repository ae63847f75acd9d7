import MatchmakingMvp.Session.RejectedCreation
import MatchmakingMvp.System.CallAdherence
import MatchmakingMvp.Worker.Holding

/-! # Refused submissions

A submission that cannot be enqueued is undone by ticket id, up to three times:
in the worker that refused it and twice in the manager's map. The undo is exact
for everybody else when nobody else holds the id
(`MatchmakingMvp.refused_submission_isolated_iff`).
-/

namespace MatchmakingMvp

open Foundation

/-! ## What a submission may not touch -/

/-- The ticket's own entries of a queue are the same. -/
def SameEntries (ticket : MatchTicket) (before after : WaitingQueue) : Prop :=
  ∀ id request, request.matchTicketPtr = some ticket →
    (after.find? id = some request ↔ before.find? id = some request)

/-- Everything that concerns another ticket is the same: its status, its entries
in the managers' maps, the index of players, and its presence in every queue,
bucket and count of a worker. -/
structure OthersKept (newcomer : MatchTicket) (before after : World) : Prop where
  status : ∀ other, other ≠ newcomer → after.ticketStatus other = before.ticketStatus other
  entry : ∀ queue id other, other ≠ newcomer →
    ((after.tickets queue).items id = some other ↔ (before.tickets queue).items id = some other)
  index : ∀ queue playerKey, (after.tickets queue).owner playerKey =
    (before.tickets queue).owner playerKey
  soloQueues : ∀ key index other, other ≠ newcomer →
    SameEntries other (before.soloWorkers key index).waitingQueue
        (after.soloWorkers key index).waitingQueue ∧
      SameEntries other (before.soloWorkers key index).sendProgressingList
        (after.soloWorkers key index).sendProgressingList
  partyQueues : ∀ key index other, other ≠ newcomer →
    SameEntries other ((before.partyGroups key).workers index).waitingQueue
        ((after.partyGroups key).workers index).waitingQueue ∧
      ∀ playerCount, SameEntries other
        (((before.partyGroups key).workers index).bucket playerCount)
        (((after.partyGroups key).workers index).bucket playerCount)
  counts : ∀ key index playerCount, ((after.partyGroups key).workers index).queuedCount
    playerCount = ((before.partyGroups key).workers index).queuedCount playerCount

/-- A worker group admits the ticket, but its base worker holds a request under the
ticket's id. -/
def Clashes (queue : QueueKind) (world : World) (group : WorkerGroup) (ticket : MatchTicket) :
    Prop :=
  let index := getWorkerIndex group.workerCount ticket.matchTicketId
  group.matchmakingRule.combination.contains ticket.players.length = true ∧
    hasWorker group.workerCount index = true ∧
    match queue with
    | .solo => (world.soloWorker group index).waitingQueue.contains ticket.matchTicketId = true
    | .party =>
        ((world.partyGroup group).workers index).waitingQueue.contains ticket.matchTicketId =
            true ∨
          (((world.partyGroup group).workers index).bucket ticket.players.length).contains
            ticket.matchTicketId = true

/-- A request of the base worker is lost. -/
def Displaces (queue : QueueKind) (before after : World) (group : WorkerGroup)
    (ticket : MatchTicket) : Prop :=
  let index := getWorkerIndex group.workerCount ticket.matchTicketId
  match queue with
  | .solo => ∃ request,
      (before.soloWorker group index).waitingQueue.find? ticket.matchTicketId = some request ∧
        (after.soloWorker group index).waitingQueue.find? ticket.matchTicketId = none
  | .party => ∃ request,
      (((before.partyGroup group).workers index).waitingQueue.find? ticket.matchTicketId =
          some request ∧
        ((after.partyGroup group).workers index).waitingQueue.find? ticket.matchTicketId = none) ∨
      ((((before.partyGroup group).workers index).bucket ticket.players.length).find?
          ticket.matchTicketId = some request ∧
        (((after.partyGroup group).workers index).bucket ticket.players.length).find?
          ticket.matchTicketId = none)

/-- The effect of handing a ticket to a worker group. -/
structure Handed (queue : QueueKind) (group : WorkerGroup) (ticket : MatchTicket)
    (before : World) (accepted : Bool) (after : World) : Prop where
  tickets : after.tickets = before.tickets
  status : ∀ other, other ≠ ticket → after.ticketStatus other = before.ticketStatus other
  queued : accepted = true → after.ticketStatus ticket = .queued
  kept : accepted = false → ¬ Clashes queue before group ticket →
    after.soloWorkers = before.soloWorkers ∧
      ∀ key, (after.partyGroups key).workers = (before.partyGroups key).workers
  displaces : Clashes queue before group ticket →
    accepted = false ∧ Displaces queue before after group ticket

section Groups

variable {group : WorkerGroup} {ticket : MatchTicket} {world : World}

theorem SoloMatchmakingWorkerGroup.handed (unqueued : world.ticketStatus ticket = .none) :
    Handed .solo group ticket world
      ((enqueueJobRequest group ticket.matchmakingRequest).run perform world).1
      ((enqueueJobRequest group ticket.matchmakingRequest).run perform world).2 := by
  have can : canChangeStatus (world.ticketStatus ticket) .queued = true := by rw [unqueued]; rfl
  simp only [enqueueJobRequest, MatchTicket.matchmakingRequest_matchTicketPtr,
    MatchTicket.matchmakingRequest_playerCount, Program.run_ite, Program.run_bind,
    run_changeTicketStatus, MatchTicket.changeStatus_of_can can, Program.run_atomically,
    Program.run_pure, Bool.true_eq_false, if_false]
  by_cases admitted : group.matchmakingRule.combination.contains ticket.players.length = false
  · rw [if_pos admitted]
    exact ⟨rfl, fun _ _ => rfl, by rintro ⟨⟩, fun _ _ => ⟨rfl, fun _ => rfl⟩,
      fun clashes => absurd (clashes.1.symm.trans admitted) (by decide)⟩
  rw [if_neg admitted]
  by_cases present :
      hasWorker group.workerCount (getWorkerIndex group.workerCount ticket.matchTicketId) = false
  · rw [if_pos present]
    exact ⟨rfl, fun other different => Function.update_of_ne different _ _, by rintro ⟨⟩,
      fun _ _ => ⟨rfl, fun _ => rfl⟩,
      fun clashes => absurd (clashes.2.1.symm.trans present) (by decide)⟩
  rw [if_neg present]
  generalize made : perform (.setBaseWorkerIndex _ _) _ = assigned
  have statuses : assigned.ticketStatus = Function.update world.ticketStatus ticket .queued := by
    rw [← made]
    rfl
  have kept : assigned.tickets = world.tickets ∧ assigned.soloWorkers = world.soloWorkers ∧
      assigned.partyGroups = world.partyGroups := by
    rw [← made]
    exact ⟨rfl, rfl, rfl⟩
  have worker : ∀ index, assigned.soloWorker group index = world.soloWorker group index :=
    fun index => congrFun (congrFun kept.2.1 _) index
  have queued : assigned.ticketStatus ticket = .queued := by
    rw [statuses, Function.update_self]
  have others : ∀ other, other ≠ ticket →
      assigned.ticketStatus other = world.ticketStatus other := fun other different => by
    rw [statuses, Function.update_of_ne different]
  simp only [perform, World.soloEnqueue_of_queued group _ queued, worker]
  split_ifs with taken
  · refine ⟨kept.1, others, by rintro ⟨⟩, fun _ free => ?_, fun clashes => ⟨rfl, ?_⟩⟩
    · exact (free ⟨Bool.eq_true_of_not_eq_false admitted, Bool.eq_true_of_not_eq_false present,
        taken⟩).elim
    · obtain ⟨request, found⟩ := OrderedMap.contains_iff.mp taken
      refine ⟨request, found, ?_⟩
      simp [World.soloWorker, SoloMatchmakingWorker.erase]
  · exact ⟨kept.1, others, fun _ => queued, by rintro ⟨⟩, fun clashes => absurd clashes.2.2 taken⟩

/-- A party group erases the id of a ticket its worker refuses. -/
theorem World.partyEnqueue_cases (world : World) (group : WorkerGroup) (ticket : MatchTicket)
    (index : Int) :
    hasWorker group.workerCount index = false ∧
        world.partyEnqueue group index ticket.matchmakingRequest ticket =
          (false, (world.partyGroup group).scheduleExpansion group.workerCount world.timeSec
            ticket.matchmakingRequest, world.ticketStatus) ∨
      hasWorker group.workerCount index = true ∧
        let enqueued := ((world.partyGroup group).workers index).enqueueJobRequest
          ticket.matchmakingRequest
        let scheduled := (world.partyGroup group).scheduleExpansion group.workerCount
          world.timeSec ticket.matchmakingRequest
        world.partyEnqueue group index ticket.matchmakingRequest ticket =
          if enqueued.1 then
            (true, scheduled.updateWorker index enqueued.2,
              (ticket.changeStatus .queued world.ticketStatus).2)
          else (false, scheduled.updateWorker index (enqueued.2.erase ticket),
            world.ticketStatus) := by
  rw [partyEnqueue, PartyMatchmakingWorkerGroup.enqueueSection]
  cases present : hasWorker group.workerCount index with
  | false => exact Or.inl ⟨rfl, rfl⟩
  | true =>
      refine Or.inr ⟨rfl, ?_⟩
      simp only [if_true, PartyMatchmakingWorkerGroup.scheduleExpansion_workers]
      generalize ((world.partyGroup group).workers index).enqueueJobRequest _ = enqueued
      obtain ⟨accepted, worker⟩ := enqueued
      cases accepted <;> rfl

theorem PartyMatchmakingWorkerGroup.handed (unqueued : world.ticketStatus ticket = .none) :
    Handed .party group ticket world
      ((enqueueJobRequest group ticket.matchmakingRequest).run perform world).1
      ((enqueueJobRequest group ticket.matchmakingRequest).run perform world).2 := by
  have can : canChangeStatus (world.ticketStatus ticket) .queued = true := by rw [unqueued]; rfl
  simp only [enqueueJobRequest, MatchTicket.matchmakingRequest_matchTicketPtr,
    Program.run_ite, Program.run_bind, Program.run_atomically, Program.run_pure]
  by_cases admitted : group.matchmakingRule.combination.contains
      ticket.matchmakingRequest.playerCount = false
  · rw [if_pos admitted]
    exact ⟨rfl, fun _ _ => rfl, by rintro ⟨⟩, fun _ _ => ⟨rfl, fun _ => rfl⟩,
      fun clashes => absurd (clashes.1.symm.trans admitted) (by decide)⟩
  rw [if_neg admitted]
  generalize made : perform (.setBaseWorkerIndex _ _) _ = assigned
  have kept : assigned.tickets = world.tickets ∧ assigned.ticketStatus = world.ticketStatus ∧
      assigned.soloWorkers = world.soloWorkers ∧ assigned.partyGroups = world.partyGroups := by
    rw [← made]
    exact ⟨rfl, rfl, rfl, rfl⟩
  obtain ⟨tickets, statuses, soloWorkers, partyGroups⟩ := kept
  have state : assigned.partyGroup group = world.partyGroup group := congrFun partyGroups _
  have workers : ∀ changed : PartyMatchmakingWorkerGroup, changed.workers =
      (world.partyGroup group).workers → ∀ key,
        (Function.update assigned.partyGroups group.workerGroupKey changed key).workers =
          (world.partyGroups key).workers := by
    intro changed same key
    by_cases own : key = group.workerGroupKey
    · rw [own, Function.update_self, same]
      rfl
    · rw [Function.update_of_ne own, partyGroups]
  simp only [perform]
  rcases World.partyEnqueue_cases assigned group ticket
    (getWorkerIndex group.workerCount ticket.matchTicketId) with
    ⟨absent, run⟩ | ⟨present, run⟩
  · simp only [MatchTicket.matchmakingRequest_matchTicketId, run]
    refine ⟨tickets, fun other _ => congrFun statuses other, by rintro ⟨⟩,
      fun _ _ => ⟨soloWorkers, ?_⟩, fun clashes => ?_⟩
    · exact workers _ (by rw [scheduleExpansion_workers, state])
    · exact absurd (clashes.2.1.symm.trans absent) (by decide)
  · simp only [state] at run
    simp only [MatchTicket.matchmakingRequest_matchTicketId, run]
    set worker := (world.partyGroup group).workers
      (getWorkerIndex group.workerCount ticket.matchTicketId)
    by_cases taken : worker.waitingQueue.contains ticket.matchmakingRequest.matchTicketId = true ∨
        (worker.bucket ticket.matchmakingRequest.playerCount).contains
          ticket.matchmakingRequest.matchTicketId = true
    · obtain ⟨refused, waiting, buckets⟩ :=
        PartyMatchmakingWorker.enqueueJobRequest_of_taken taken
      simp only [refused, Bool.false_eq_true, if_false]
      refine ⟨tickets, fun other _ => congrFun statuses other, by rintro ⟨⟩, fun _ free => ?_,
        fun clashes => ⟨rfl, ?_⟩⟩
      · exact (free ⟨Bool.eq_true_of_not_eq_false admitted, present, taken⟩).elim
      · simp only [Displaces, World.partyGroup, World.withTicketStatus_partyGroups,
          World.withPartyGroup_partyGroups, Function.update_self, updateWorker]
        rcases taken with taken | taken
        · obtain ⟨request, found⟩ := OrderedMap.contains_iff.mp taken
          refine ⟨request, Or.inl ⟨found, ?_⟩⟩
          exact (OrderedMap.find?_erase _ _ _).trans (if_pos rfl)
        · obtain ⟨request, found⟩ := OrderedMap.contains_iff.mp taken
          refine ⟨request, Or.inr ⟨found, ?_⟩⟩
          rw [PartyMatchmakingWorker.bucket_erase, if_pos rfl, OrderedMap.find?_erase, if_pos rfl]
    · obtain ⟨free, unbucketed⟩ := not_or.mp taken
      obtain ⟨accepted, -⟩ := PartyMatchmakingWorker.enqueueJobRequest_of_free
        (Bool.eq_false_of_not_eq_true free) (Bool.eq_false_of_not_eq_true unbucketed)
      simp only [accepted, if_true]
      have changed : (ticket.changeStatus .queued assigned.ticketStatus).2 =
          Function.update world.ticketStatus ticket .queued := by
        rw [statuses, MatchTicket.changeStatus_of_can can]
      refine ⟨tickets, fun other different => ?_, fun _ => ?_, by rintro ⟨⟩,
        fun clashes => absurd clashes.2.2 taken⟩
      · exact (congrFun changed other).trans (Function.update_of_ne different _ _)
      · exact (congrFun changed ticket).trans (Function.update_self ..)

end Groups

/-! ## What a submission does -/

/-- The operations that make a ticket and enqueue it. -/
inductive Submission
  | soloStartMatchmaking | partyStartMatchmaking | startMatchBackfill

namespace Submission

def queue : Submission → QueueKind
  | .soloStartMatchmaking => .solo
  | .partyStartMatchmaking | .startMatchBackfill => .party

/-- There is no result where the submission ends before a ticket is made. -/
def operation (deployment : Deployment) (request : MatchTicketRequest) :
    Submission → Operation (Option MatchTicket)
  | .soloStartMatchmaking => SoloMatchmakingManager.startMatchmaking deployment request
  | .partyStartMatchmaking => PartyMatchmakingManager.startMatchmaking deployment request
  | .startMatchBackfill => some <$> PartyMatchmakingManager.startMatchBackfill deployment request

end Submission

/-- The operation of the two managers that enqueues a ticket. -/
def enqueueWorkerJobRequest (deployment : Deployment) : QueueKind → MatchTicket → Operation Bool
  | .solo => SoloMatchmakingManager.enqueueWorkerJobRequest deployment
  | .party => PartyMatchmakingManager.enqueueWorkerJobRequest deployment

/-- The operation of the two kinds of groups that enqueues a request. -/
def WorkerGroup.enqueueJobRequest (group : WorkerGroup) :
    QueueKind → MatchmakingRequest → Operation Bool
  | .solo => SoloMatchmakingWorkerGroup.enqueueJobRequest group
  | .party => PartyMatchmakingWorkerGroup.enqueueJobRequest group

theorem WorkerGroup.handed {group : WorkerGroup} {ticket : MatchTicket} {world : World}
    (queue : QueueKind) (unqueued : world.ticketStatus ticket = .none) :
    Handed queue group ticket world
      ((group.enqueueJobRequest queue ticket.matchmakingRequest).run perform world).1
      ((group.enqueueJobRequest queue ticket.matchmakingRequest).run perform world).2 := by
  cases queue with
  | solo => exact SoloMatchmakingWorkerGroup.handed unqueued
  | party => exact PartyMatchmakingWorkerGroup.handed unqueued

/-- Both managers enqueue alike. -/
theorem enqueueWorkerJobRequest_eq (deployment : Deployment) (queue : QueueKind)
    (ticket : MatchTicket) :
    enqueueWorkerJobRequest deployment queue ticket =
      match deployment.getWorkerGroup queue ticket.matchingGroupKey with
      | none => pure false
      | some group => do
          if (← MatchmakingManager.insertMatchTicket queue ticket) = false then
            return false
          if (← group.enqueueJobRequest queue ticket.matchmakingRequest) = false then
            let _ ← MatchmakingManager.eraseMatchTicket queue ticket.matchTicketId
            return false
          return true := by
  cases queue <;> rfl

/-- A submission fails its ticket and forgets it unless it was enqueued. -/
def World.settle (queue : QueueKind) (ticket : MatchTicket) (enqueued : Bool × World) : World :=
  if enqueued.1 then enqueued.2
  else
    let failed := enqueued.2.withTicketStatus
      (ticket.changeStatus .failed enqueued.2.ticketStatus).2
    failed.withTickets queue
      ((failed.tickets queue).eraseMatchTicket ticket.matchTicketId).2

section Runs

variable {deployment : Deployment} {world : World}

@[simp] theorem World.withTickets_self (world : World) (queue : QueueKind) :
    world.withTickets queue (world.tickets queue) = world := by
  simp [withTickets]

/-- The operation ends before the manager indexes the ticket, or hands it to a
group and forgets it again where the group refuses. -/
theorem run_enqueueWorkerJobRequest (deployment : Deployment) (queue : QueueKind)
    {ticket : MatchTicket}
    (unqueued : world.ticketStatus ticket = .none) :
    (¬ (∃ group, deployment.getWorkerGroup queue ticket.matchingGroupKey = some group ∧
        (world.tickets queue).Fresh MatchTicket.matchTicketId MatchTicket.players ticket) ∧
      (enqueueWorkerJobRequest deployment queue ticket).run perform world = (false, world)) ∨
    ∃ group accepted handed,
      deployment.getWorkerGroup queue ticket.matchingGroupKey = some group ∧
      (world.tickets queue).Fresh MatchTicket.matchTicketId MatchTicket.players ticket ∧
      Handed queue group ticket (world.withTickets queue
        ((world.tickets queue).extend MatchTicket.matchTicketId MatchTicket.players ticket))
        accepted handed ∧
      (enqueueWorkerJobRequest deployment queue ticket).run perform world =
        if accepted then (true, handed)
        else (false, handed.withTickets queue
          ((handed.tickets queue).eraseMatchTicket ticket.matchTicketId).2) := by
  rw [enqueueWorkerJobRequest_eq]
  cases served : deployment.getWorkerGroup queue ticket.matchingGroupKey with
  | none => exact Or.inl ⟨by simp, rfl⟩
  | some group =>
      simp only [Program.run_bind, Program.run_ite, Program.run_pure,
        MatchmakingManager.run_insertMatchTicket, MatchmakingManager.run_eraseMatchTicket]
      by_cases fresh : (world.tickets queue).Fresh MatchTicket.matchTicketId
          MatchTicket.players ticket
      · rw [TicketRegistry.insertMatchTicket, Registry.insert_of_fresh _ _ fresh]
        simp only [Bool.true_eq_false, if_false]
        refine Or.inr ⟨group, _, _, rfl, fresh, group.handed queue unqueued, ?_⟩
        cases (Program.run perform _ (_ : World)).1 <;> rfl
      · rw [TicketRegistry.insertMatchTicket, Registry.insert_of_not_fresh _ _ fresh]
        simp [fresh]

/-- What the two managers do once a request has passed its checks. -/
def submit (deployment : Deployment) (queue : QueueKind) (request : MatchTicketRequest) :
    Operation (Option MatchTicket) := do
  let ticket ← MatchmakingManager.makeMatchTicket queue request.worldNo request
  if (← enqueueWorkerJobRequest deployment queue ticket) = false then
    let _ ← changeTicketStatus ticket .failed
    let _ ← MatchmakingManager.eraseMatchTicket queue ticket.matchTicketId
    return some ticket
  return some ticket

theorem run_submit (queue : QueueKind) (request : MatchTicketRequest) (world : World) :
    let ticket := world.newMatchTicket request.worldNo request
    (submit deployment queue request).run perform world =
      (some ticket, World.settle queue ticket
        ((enqueueWorkerJobRequest deployment queue ticket).run perform
          (perform (.newMatchTicket queue request.worldNo request) world))) := by
  simp only [submit, MatchmakingManager.makeMatchTicket, Program.run_bind,
    Program.run_atomically, Program.run_ite, run_changeTicketStatus,
    MatchmakingManager.run_eraseMatchTicket, Program.run_pure, World.settle]
  cases (Program.run perform (enqueueWorkerJobRequest deployment queue _) _).1 <;> rfl

/-- A solo request is submitted once it has passed the manager's checks. -/
theorem soloStartMatchmaking_eq (request : MatchTicketRequest) :
    SoloMatchmakingManager.startMatchmaking deployment request = (do
      if (← readWorld fun world => world.isRunning .solo) = false then
        return none
      if request.players.elements.length > 1 then
        return none
      if ← anyOf request.players.elements
          (SoloMatchmakingManager.cleanupPrevMatchmaking deployment) then
        return none
      if ← MatchPenaltyManager.hasDodgePenalty request then
        return none
      submit deployment .solo request) := rfl

theorem run_soloStartMatchmaking {request : MatchTicketRequest}
    (submits : ((SoloMatchmakingManager.startMatchmaking deployment request).run perform
      world).1.isSome) :
    (SoloMatchmakingManager.startMatchmaking deployment request).run perform world =
      (submit deployment .solo request).run perform world := by
  rw [soloStartMatchmaking_eq] at submits ⊢
  simp only [Program.run_bind, Program.run_ite, Program.run_pure, run_readWorld] at submits ⊢
  split_ifs at submits ⊢ with stopped party busy penalized
  · cases submits
  · cases submits
  · cases submits
  · cases submits
  · rw [MatchPenaltyManager.run_hasDodgePenalty, run_anyOf_of_false (fun playerKey _ clean =>
      (SoloMatchmakingManager.run_cleanup_of_false clean).1) (Bool.eq_false_of_not_eq_true busy)]

/-- A party request is submitted once it has passed the manager's checks. -/
theorem partyStartMatchmaking_eq (request : MatchTicketRequest) :
    PartyMatchmakingManager.startMatchmaking deployment request = (do
      if (← readWorld fun world => world.isRunning .party) = false then
        return none
      if ← anyOf request.players.elements
          (PartyMatchmakingManager.cleanupPrevMatchmaking deployment) then
        return none
      if ← MatchPenaltyManager.hasDodgePenalty request then
        return none
      submit deployment .party request) := rfl

theorem run_partyStartMatchmaking {request : MatchTicketRequest}
    (submits : ((PartyMatchmakingManager.startMatchmaking deployment request).run perform
      world).1.isSome) :
    (PartyMatchmakingManager.startMatchmaking deployment request).run perform world =
      (submit deployment .party request).run perform world := by
  rw [partyStartMatchmaking_eq] at submits ⊢
  simp only [Program.run_bind, Program.run_ite, Program.run_pure, run_readWorld] at submits ⊢
  split_ifs at submits ⊢ with stopped busy penalized
  · cases submits
  · cases submits
  · cases submits
  · rw [MatchPenaltyManager.run_hasDodgePenalty, run_anyOf_of_false (fun playerKey _ clean =>
      (PartyMatchmakingManager.run_cleanup_of_false clean).1) (Bool.eq_false_of_not_eq_true busy)]

/-- A backfill forgets its ticket before it fails it, with the same effect. -/
theorem run_startMatchBackfill (request : MatchTicketRequest) :
    (some <$> PartyMatchmakingManager.startMatchBackfill deployment request).run perform world =
      (submit deployment .party request).run perform world := by
  rw [run_submit]
  simp only [PartyMatchmakingManager.startMatchBackfill, MatchmakingManager.makeMatchTicket,
    Program.run_map, Program.run_bind, Program.run_atomically, Program.run_ite,
    run_changeTicketStatus, MatchmakingManager.run_eraseMatchTicket, Program.run_pure,
    World.settle]
  rw [show PartyMatchmakingManager.enqueueWorkerJobRequest deployment =
    enqueueWorkerJobRequest deployment .party from rfl]
  cases (Program.run perform (enqueueWorkerJobRequest deployment .party _) _).1 <;> rfl

theorem Submission.run_operation {submission : Submission} {request : MatchTicketRequest}
    (submits : ((submission.operation deployment request).run perform world).1.isSome) :
    let ticket := world.newMatchTicket request.worldNo request
    ((submission.operation deployment request).run perform world).2 =
      World.settle submission.queue ticket
        ((enqueueWorkerJobRequest deployment submission.queue ticket).run perform
          (perform (.newMatchTicket submission.queue request.worldNo request) world)) := by
  have run : (submission.operation deployment request).run perform world =
      (submit deployment submission.queue request).run perform world := by
    cases submission with
    | soloStartMatchmaking => exact run_soloStartMatchmaking submits
    | partyStartMatchmaking => exact run_partyStartMatchmaking submits
    | startMatchBackfill => exact run_startMatchBackfill request
  rw [run, run_submit]

end Runs

/-! ## Refusals -/

theorem SameEntries.of_eq {ticket : MatchTicket} {before after : WaitingQueue}
    (same : after = before) : SameEntries ticket before after := by
  subst same
  exact fun _ _ _ => Iff.rfl

theorem OthersKept.of_same {newcomer : MatchTicket} {before after : World}
    (status : ∀ other, other ≠ newcomer → after.ticketStatus other = before.ticketStatus other)
    (tickets : after.tickets = before.tickets) (solo : after.soloWorkers = before.soloWorkers)
    (party : ∀ key, (after.partyGroups key).workers = (before.partyGroups key).workers) :
    OthersKept newcomer before after where
  status := status
  entry _ _ _ _ := by rw [tickets]
  index _ _ := by rw [tickets]
  soloQueues key index other _ := by
    rw [solo]
    exact ⟨.of_eq rfl, .of_eq rfl⟩
  partyQueues key index other _ := by
    rw [party]
    exact ⟨.of_eq rfl, fun _ => .of_eq rfl⟩
  counts key index playerCount := by rw [party]

theorem Clashes.congr {queue : QueueKind} {before after : World} {group : WorkerGroup}
    {ticket : MatchTicket} (solo : after.soloWorkers = before.soloWorkers)
    (party : after.partyGroups = before.partyGroups) :
    Clashes queue after group ticket ↔ Clashes queue before group ticket := by
  cases queue <;> simp only [Clashes, World.soloWorker, World.partyGroup, solo, party]

theorem Displaces.congr {queue : QueueKind} {before before' after after' : World}
    {group : WorkerGroup} {ticket : MatchTicket}
    (solo : before'.soloWorkers = before.soloWorkers ∧ after'.soloWorkers = after.soloWorkers)
    (party : before'.partyGroups = before.partyGroups ∧ after'.partyGroups = after.partyGroups) :
    Displaces queue before' after' group ticket ↔ Displaces queue before after group ticket := by
  cases queue <;>
    simp only [Displaces, World.soloWorker, World.partyGroup, solo.1, solo.2, party.1, party.2]

/-- A refused ticket is failed and forgotten. -/
theorem World.settle_refused (queue : QueueKind) (ticket : MatchTicket) {world : World} :
    (∀ other, other ≠ ticket → (World.settle queue ticket (false, world)).ticketStatus other =
        world.ticketStatus other) ∧
      (World.settle queue ticket (false, world)).ticketStatus ticket ≠ .queued ∧
      (World.settle queue ticket (false, world)).tickets = Function.update world.tickets queue
        ((world.tickets queue).eraseMatchTicket ticket.matchTicketId).2 ∧
      (World.settle queue ticket (false, world)).soloWorkers = world.soloWorkers ∧
      (World.settle queue ticket (false, world)).partyGroups = world.partyGroups := by
  refine ⟨fun other different => MatchTicket.changeStatus_of_ne different, ?_, rfl, rfl, rfl⟩
  simp only [World.settle, Bool.false_eq_true, if_false]
  cases can : canChangeStatus (world.ticketStatus ticket) .failed with
  | true =>
      simp [MatchTicket.changeStatus_of_can can]
  | false =>
      simp only [MatchTicket.changeStatus_of_cannot can]
      intro queued
      rw [show world.ticketStatus ticket = .queued from queued] at can
      cases can

/-- A displaced request belongs to another ticket. -/
theorem Displaces.not_kept {deployment : Deployment} {permits : MatchTicketRequest → Prop}
    {queue : QueueKind} {before after : World} {group : WorkerGroup} {ticket : MatchTicket}
    (sound : before.Sound deployment permits) (unmade : ∀ queue, ¬ before.Made queue ticket)
    (displaces : Displaces queue before after group ticket) :
    ¬ OthersKept ticket before after := by
  intro kept
  have owned : ∀ {queue key request}, before.Entry deployment queue key request →
      ∃ other, other ≠ ticket ∧ request.matchTicketPtr = some other := by
    rintro queue key request ⟨holder, other, -, rfl, carried⟩
    refine ⟨other, ?_, rfl⟩
    rintro rfl
    exact unmade _ carried.made
  cases queue with
  | solo =>
      obtain ⟨request, found, lost⟩ := displaces
      obtain ⟨other, different, pointer⟩ := owned ((sound.solo _ _).waiting _ _ found)
      have still := ((kept.soloQueues _ _ other different).1 _ request pointer).mpr found
      exact absurd (lost.symm.trans still) nofun
  | party =>
      obtain ⟨request, ⟨found, lost⟩ | ⟨found, lost⟩⟩ := displaces
      · obtain ⟨other, different, pointer⟩ :=
          owned (((sound.party _).workers _).waiting _ _ found)
        have still := ((kept.partyQueues _ _ other different).1 _ request pointer).mpr found
        exact absurd (lost.symm.trans still) nofun
      · obtain ⟨other, different, pointer⟩ :=
          owned ((((sound.party _).workers _).bucket _) _ _ found)
        have still := ((kept.partyQueues _ _ other different).2 _ _ request pointer).mpr found
        exact absurd (lost.symm.trans still) nofun

section Isolation

variable {deployment : Deployment} {permits : MatchTicketRequest → Prop} {queue : QueueKind}
  {ticket : MatchTicket} {before world : World} (sound : before.Sound deployment permits)
  (unmade : ∀ queue, ¬ before.Made queue ticket)
  (statuses : world.ticketStatus = before.ticketStatus)
  (registries : world.tickets = before.tickets) (solo : world.soloWorkers = before.soloWorkers)
  (party : world.partyGroups = before.partyGroups)

include sound unmade statuses registries solo party

/-- A ticket the manager does not hand to a group. -/
theorem stuck_isolated_iff :
    OthersKept ticket before (World.settle queue ticket (false, world)) ↔
      (before.tickets queue).items ticket.matchTicketId = none := by
  obtain ⟨status, -, tickets, solo', party'⟩ :=
    World.settle_refused queue ticket
  rw [statuses] at status
  rw [registries] at tickets
  constructor
  · intro kept
    cases held : (before.tickets queue).items ticket.matchTicketId with
    | none => rfl
    | some other =>
        have different : other ≠ ticket := by
          rintro rfl
          exact unmade _ (sound.registered _ _ _ held).1
        have still := (kept.entry queue ticket.matchTicketId other different).mpr held
        rw [tickets, Function.update_self, TicketRegistry.eraseMatchTicket,
          Registry.erase_items, Function.update_self] at still
        cases still
  · intro free
    have erased : (before.tickets queue).eraseMatchTicket ticket.matchTicketId =
        (none, before.tickets queue) := Registry.erase_of_absent _ _ free
    rw [erased, Function.update_eq_self] at tickets
    exact .of_same status tickets (solo'.trans solo) fun key => by rw [party', party]

/-- A ticket a group refuses. -/
theorem refused_isolated_iff {group : WorkerGroup} {handed : World}
    (fresh : (before.tickets queue).Fresh MatchTicket.matchTicketId MatchTicket.players ticket)
    (given : Handed queue group ticket (world.withTickets queue
      ((world.tickets queue).extend MatchTicket.matchTicketId MatchTicket.players ticket))
      false handed) :
    OthersKept ticket before (World.settle queue ticket (false, handed.withTickets queue
        ((handed.tickets queue).eraseMatchTicket ticket.matchTicketId).2)) ↔
      ¬ Clashes queue before group ticket := by
  obtain ⟨status, -, tickets, solo', party'⟩ := World.settle_refused queue ticket
  have clash : Clashes queue (world.withTickets queue ((world.tickets queue).extend
      MatchTicket.matchTicketId MatchTicket.players ticket)) group ticket ↔
      Clashes queue before group ticket := Clashes.congr solo party
  constructor
  · intro kept clashes
    refine Displaces.not_kept sound unmade (?_ : Displaces queue before _ group ticket) kept
    exact (Displaces.congr ⟨solo.symm, solo'⟩ ⟨party.symm, party'⟩).mpr
      (given.displaces (clash.mpr clashes)).2
  · intro free
    obtain ⟨soloKept, partyKept⟩ := given.kept rfl (clash.not.mpr free)
    have erased : ((handed.tickets queue).eraseMatchTicket ticket.matchTicketId).2 =
        before.tickets queue := by
      rw [given.tickets, registries]
      simp only [World.withTickets_tickets, Function.update_self]
      exact Registry.erase_insert_of_fresh _ _ fresh
    have absent : ((before.tickets queue).eraseMatchTicket ticket.matchTicketId).2 =
        before.tickets queue := by
      rw [TicketRegistry.eraseMatchTicket, Registry.erase_of_absent _ _ fresh.id]
    refine .of_same (fun other different => ?_) (funext fun owner => ?_)
      (solo'.trans (soloKept.trans solo)) fun key => ?_
    · rw [status other different, ← statuses]
      exact given.status other different
    · rw [tickets, erased]
      by_cases own : owner = queue
      · subst own
        simp only [World.withTickets_tickets, Function.update_self, absent]
      · simp only [World.withTickets_tickets, Function.update_of_ne own, given.tickets,
          registries]
    · rw [party', ← party]
      exact partyKept key

end Isolation

/-- **The undo of a refused submission.** In every reachable state, a submission
that gets past its checks and does not enqueue its ticket leaves every other
ticket alone if and only if nobody else holds the ticket's id where the undo
erases it: in the manager's map, and in the base worker of the group unless the
manager refuses one of the players. -/
theorem refused_submission_isolated_iff {deployment : Deployment} {admissible : Call → Prop}
    {allowed : Section → World → Prop} {steps : List (Executed Section World)}
    {pool : Pool Section World}
    (execution : Interleaved deployment admissible allowed steps pool) {submission : Submission}
    {request : MatchTicketRequest}
    (submits : ((submission.operation deployment request).run perform pool.state).1.isSome) :
    let ticket := pool.state.newMatchTicket request.worldNo request
    let final := ((submission.operation deployment request).run perform pool.state).2
    (final.ticketStatus ticket ≠ .queued → OthersKept ticket pool.state final) ↔
      (pool.state.tickets submission.queue).items ticket.matchTicketId = none ∧
        ∀ group, deployment.getWorkerGroup submission.queue ticket.matchingGroupKey = some group →
          (∀ playerKey ∈ ticket.players,
            (pool.state.tickets submission.queue).owner playerKey = none) →
          ¬ Clashes submission.queue pool.state group ticket := by
  intro ticket final
  have sound := execution.sound fun _ _ _ _ => trivial
  have unmade : ∀ queue, ¬ pool.state.Made queue ticket :=
    fun queue => sound.newMatchTicket_not_made _ _ _
  have unqueued : pool.state.ticketStatus ticket = .none := sound.status_of_not_made unmade
  have settled : final = World.settle submission.queue ticket
      ((enqueueWorkerJobRequest deployment submission.queue ticket).run perform
        (perform (.newMatchTicket submission.queue request.worldNo request) pool.state)) :=
    Submission.run_operation submits
  clear_value final
  generalize submission.queue = queue at settled ⊢
  have statuses : (perform (.newMatchTicket queue request.worldNo request)
      pool.state).ticketStatus = pool.state.ticketStatus := rfl
  have still : (perform (.newMatchTicket queue request.worldNo request)
      pool.state).ticketStatus ticket = .none := unqueued
  rcases run_enqueueWorkerJobRequest deployment queue still with
    ⟨stuck, run⟩ | ⟨group, accepted, handed, served, fresh, given, run⟩
  · rw [run] at settled
    have failed : final.ticketStatus ticket ≠ .queued := settled ▸ (World.settle_refused ..).2.1
    rw [forall_prop_of_true failed, settled, stuck_isolated_iff sound unmade statuses rfl rfl rfl]
    refine ⟨fun free => ⟨free, fun group served unowned => ?_⟩, fun free => free.1⟩
    exact (stuck ⟨group, served, free, unowned, ticket.players_nodup⟩).elim
  · have only : ((pool.state.tickets queue).items ticket.matchTicketId = none ∧
        ∀ group, deployment.getWorkerGroup queue ticket.matchingGroupKey = some group →
          (∀ playerKey ∈ ticket.players, (pool.state.tickets queue).owner playerKey = none) →
          ¬ Clashes queue pool.state group ticket) ↔
        ¬ Clashes queue pool.state group ticket := by
      refine ⟨fun free => free.2 group served fresh.unowned, fun free => ⟨fresh.id, ?_⟩⟩
      rintro other served' -
      rw [served, Option.some.injEq] at served'
      exact served' ▸ free
    rw [only]
    rw [run] at settled
    cases accepted with
    | true =>
        have queued : final.ticketStatus ticket = .queued := settled ▸ given.queued rfl
        refine ⟨fun _ clashes => ?_, fun _ failed => (failed queued).elim⟩
        have refused := (given.displaces ((Clashes.congr rfl rfl).mpr clashes)).1
        cases refused
    | false =>
        simp only [Bool.false_eq_true, if_false] at settled
        have failed : final.ticketStatus ticket ≠ .queued := settled ▸ (World.settle_refused ..).2.1
        rw [forall_prop_of_true failed, settled]
        exact refused_isolated_iff sound unmade statuses rfl rfl rfl fresh given

section Incumbent

/-- Player 1 queues under ticket id 5. -/
def takenIdRun : List (Executed Section World) × Pool Section World :=
  playCalls soleMatchDeployment [.partyStartMatchmaking (chosenIdRequest 1)]
    (List.replicate 20 0)

/-- Player 2 queues under ticket id 5. -/
def takenIdSubmission : Operation (Option MatchTicket) :=
  Submission.partyStartMatchmaking.operation soleMatchDeployment (chosenIdRequest 2)

theorem takenIdRun_interleaved :
    Interleaved soleMatchDeployment (fun _ => True) (fun _ _ => True) takenIdRun.1 takenIdRun.2 :=
  Interleaved.play _ (fun _ _ => trivial) _

theorem refused_submission_isolated_iff_takenId :
    ((takenIdSubmission.run perform takenIdRun.2.state).2.ticketStatus secondTicket ≠ .queued →
      OthersKept secondTicket takenIdRun.2.state
        (takenIdSubmission.run perform takenIdRun.2.state).2) ↔
    (takenIdRun.2.state.tickets .party).items 5 = none ∧
      ∀ group, soleMatchDeployment.getWorkerGroup .party (0, "Dungeon") = some group →
        (∀ playerKey ∈ [2], (takenIdRun.2.state.tickets .party).owner playerKey = none) →
        ¬ Clashes .party takenIdRun.2.state group secondTicket := by
  have made : takenIdRun.2.state.newMatchTicket 0 (chosenIdRequest 2) = secondTicket := by
    decide +kernel
  have submits : (takenIdSubmission.run perform takenIdRun.2.state).1.isSome := by
    decide +kernel
  have holds := refused_submission_isolated_iff takenIdRun_interleaved submits
  exact made ▸ holds

/-- The refused submission erases the ticket of player 1 from the manager's map. -/
theorem refused_submission_erases_incumbent :
    Interleaved soleMatchDeployment (fun _ => True) (fun _ _ => True) takenIdRun.1 takenIdRun.2 ∧
      (takenIdSubmission.run perform takenIdRun.2.state).1 = some secondTicket ∧
      (takenIdSubmission.run perform takenIdRun.2.state).2.ticketStatus secondTicket = .failed ∧
      ¬ OthersKept secondTicket takenIdRun.2.state
        (takenIdSubmission.run perform takenIdRun.2.state).2 := by
  refine ⟨takenIdRun_interleaved, by decide +kernel, by decide +kernel, fun kept => ?_⟩
  have present : (((takenIdRun.2.state.tickets .party).items 5).map MatchTicket.serial) =
      some 0 := by decide +kernel
  obtain ⟨incumbent, found, first⟩ := Option.map_eq_some_iff.mp present
  have different : incumbent ≠ secondTicket := by
    rintro rfl
    cases first
  have erased : ((takenIdSubmission.run perform takenIdRun.2.state).2.tickets .party).items 5 =
      none := by decide +kernel
  have still := (kept.entry .party 5 incumbent different).mpr found
  rw [erased] at still
  cases still

end Incumbent

end MatchmakingMvp
