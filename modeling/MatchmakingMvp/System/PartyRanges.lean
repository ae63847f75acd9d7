import MatchmakingMvp.System.PartyGroups
import MatchmakingMvp.Worker.Placement

/-! # The range of a request over a run of its group

Calls on a party group are made one after another, while time passes. A request that
was enqueued waits in its range until a commit or a cancel takes it out of all workers
(`MatchmakingMvp.World.Handled`), unless its ticket was cancelled even before.
-/

namespace MatchmakingMvp

open Foundation

/-- A call on a party worker group, or time that passes. -/
inductive PartyGroupCall
  | tick (timeMsec : Nat)
  | enqueueJobRequest (request : MatchmakingRequest)
  | expandMatchmakingWorkerSlot
  | tryCommitMatchmakingRequests (requests : List (Option MatchmakingRequest))
  | cancelMatchTicket (ticket : MatchTicket)

namespace PartyGroupCall

def program (group : WorkerGroup) : PartyGroupCall → Operation Unit
  | .tick timeMsec => Program.atomically (.tick timeMsec) fun _ => ()
  | .enqueueJobRequest request => do
      let _ ← PartyMatchmakingWorkerGroup.enqueueJobRequest group request
  | .expandMatchmakingWorkerSlot =>
      PartyMatchmakingWorkerGroup.expandMatchmakingWorkerSlots group
  | .tryCommitMatchmakingRequests requests => do
      let _ ← PartyMatchmakingWorkerGroup.tryCommit group requests
  | .cancelMatchTicket ticket => do
      let _ ← PartyMatchmakingWorkerGroup.cancel group ticket

/-- The state after a complete call. -/
def complete (group : WorkerGroup) (call : PartyGroupCall) (world : World) : World :=
  ((call.program group).run perform world).2

/-- The requests and tickets of the call are among the given requests. -/
def Within (requests : Set MatchmakingRequest) : PartyGroupCall → Prop
  | .enqueueJobRequest request => request ∈ requests
  | .tryCommitMatchmakingRequests listed => ∀ request, some request ∈ listed → request ∈ requests
  | .cancelMatchTicket ticket => ∃ request ∈ requests, request.matchTicketPtr = some ticket
  | .tick _ | .expandMatchmakingWorkerSlot => True

/-- The request a call enqueues. -/
def enqueued : PartyGroupCall → Option MatchmakingRequest
  | .enqueueJobRequest request => some request
  | _ => none

/-- The call commits the request or cancels its ticket, and returns true. -/
def Removes (group : WorkerGroup) (request : MatchmakingRequest) (world : World) :
    PartyGroupCall → Prop
  | .tryCommitMatchmakingRequests listed => some request ∈ listed ∧
      ((PartyMatchmakingWorkerGroup.tryCommit group listed).run perform world).1 = true
  | .cancelMatchTicket ticket => request.matchTicketPtr = some ticket ∧
      ((PartyMatchmakingWorkerGroup.cancel group ticket).run perform world).1 = true
  | .tick _ | .enqueueJobRequest _ | .expandMatchmakingWorkerSlot => False

/-- The state after complete calls, one after another. -/
def completeAll (group : WorkerGroup) (calls : List PartyGroupCall) (world : World) : World :=
  calls.foldl (fun world call => call.complete group world) world

end PartyGroupCall

/-! ## The life of a request -/

section Request

variable (group : WorkerGroup) (request : MatchmakingRequest) (ticket : MatchTicket)

/-- The request was not enqueued yet. -/
structure World.Fresh (world : World) : Prop where
  status : world.ticketStatus ticket = .none ∨ world.ticketStatus ticket = .cancelled
  level : (world.workerSlot request).workerExpansionLevel = 0
  lacks : ∀ index, ((world.partyGroup group).workers index).Lacks request
  unscheduled : (world.partyGroup group).scheduledCount request = 0

/-- The request waits in its range. -/
structure World.Waits (world : World) : Prop where
  status : world.ticketStatus ticket = .queued
  ranges : (world.partyGroup group).Ranges request (world.workerSlot request) group.workerCount

/-- The request waits no more. -/
structure World.Gone (world : World) : Prop where
  status : world.ticketStatus ticket ≠ .queued
  lacks : ∀ index, ((world.partyGroup group).workers index).Lacks request

/-- The request was enqueued. Nothing is known where its ticket was cancelled before. -/
def World.Handled (world : World) : Prop :=
  world.Waits group request ticket ∨ world.Gone group request ticket ∨
    world.ticketStatus ticket = .cancelled

/-- What concerns the request stays the same. -/
structure World.Leaves (before after : World) : Prop where
  status : after.ticketStatus ticket = before.ticketStatus ticket
  slot : after.workerSlot request = before.workerSlot request
  spares : PartyMatchmakingWorkerGroup.Spares request (before.partyGroup group)
    (after.partyGroup group)
  scheduled : (after.partyGroup group).scheduledCount request =
    (before.partyGroup group).scheduledCount request

end Request

section Leaves

variable {group : WorkerGroup} {request : MatchmakingRequest} {ticket : MatchTicket}
  {before after : World}

theorem World.Leaves.refl (world : World) : World.Leaves group request ticket world world :=
  ⟨rfl, rfl, .refl _, rfl⟩

theorem World.Leaves.fresh (leaves : World.Leaves group request ticket before after)
    (fresh : before.Fresh group request ticket) : after.Fresh group request ticket :=
  ⟨leaves.status ▸ fresh.status, leaves.slot ▸ fresh.level,
    fun index => (leaves.spares index).lacks (fresh.lacks index),
    leaves.scheduled.trans fresh.unscheduled⟩

theorem World.Leaves.waits (leaves : World.Leaves group request ticket before after)
    (waits : before.Waits group request ticket) : after.Waits group request ticket :=
  ⟨leaves.status.trans waits.status, leaves.slot ▸
    waits.ranges.congr leaves.spares leaves.scheduled⟩

theorem World.Leaves.gone (leaves : World.Leaves group request ticket before after)
    (gone : before.Gone group request ticket) : after.Gone group request ticket :=
  ⟨leaves.status ▸ gone.status, fun index => (leaves.spares index).lacks (gone.lacks index)⟩

end Leaves

/-! ## What calls do to a request -/

section Calls

variable {group : WorkerGroup} {requests : Set MatchmakingRequest}
  {request other : MatchmakingRequest} {ticket owner : MatchTicket} {world : World}

theorem World.partyGroup_partyEnqueue {index : Int} :
    (perform (.partyEnqueue group index other owner) world).partyGroup group =
      (world.partyEnqueue group index other owner).2.1 := by
  rw [perform]
  exact Function.update_self _ _ _

theorem World.partyGroup_partyCancel
    (can : canChangeStatus (world.ticketStatus owner) .cancelled = true) :
    (perform (.partyCancel group owner) world).partyGroup group =
      (world.partyGroup group).eraseFromWorkers group.workerCount owner := by
  rw [perform, World.partyCancel, PartyMatchmakingWorkerGroup.cancelMatchTicket_of_can can]
  exact Function.update_self _ _ _

namespace PartyGroupCall

theorem complete_enqueueJobRequest (pointer : other.matchTicketPtr = some owner) :
    (PartyGroupCall.enqueueJobRequest other).complete group world =
      if group.matchmakingRule.combination.contains other.playerCount = false then world
      else perform (.partyEnqueue group (getWorkerIndex group.workerCount other.matchTicketId) other
        owner) (perform (.setBaseWorkerIndex other
          (getWorkerIndex group.workerCount other.matchTicketId)) world) := by
  rw [complete, program, PartyMatchmakingWorkerGroup.enqueueJobRequest, pointer]
  split_ifs <;> rfl

theorem complete_enqueueJobRequest_of_none (foreign : other.matchTicketPtr = none) :
    (PartyGroupCall.enqueueJobRequest other).complete group world = world := by
  rw [complete, program, PartyMatchmakingWorkerGroup.enqueueJobRequest, foreign]
  rfl

/-- Enqueueing another request. -/
theorem leaves_enqueueJobRequest (different : request.matchTicketId ≠ other.matchTicketId)
    (pointer : request.matchTicketPtr = some ticket) :
    World.Leaves group request ticket world
      ((PartyGroupCall.enqueueJobRequest other).complete group world) := by
  cases foreign : other.matchTicketPtr with
  | none =>
      rw [complete_enqueueJobRequest_of_none foreign]
      exact .refl world
  | some owner =>
      rw [complete_enqueueJobRequest foreign]
      split_ifs
      · exact .refl world
      · have unequal : request ≠ other := fun same => different (by rw [same])
        have distinct : ticket ≠ owner := by
          rintro rfl
          exact different (by rw [MatchmakingRequest.matchTicketId, pointer,
            MatchmakingRequest.matchTicketId, foreign])
        set assigned := perform (.setBaseWorkerIndex other
          (getWorkerIndex group.workerCount other.matchTicketId)) world
        refine ⟨?_, ?_, ?_, ?_⟩
        · exact PartyMatchmakingWorkerGroup.enqueueSection_of_ne distinct
        · exact Function.update_of_ne unequal _ _
        · rw [World.partyGroup_partyEnqueue]
          exact PartyMatchmakingWorkerGroup.spares_enqueueSection different foreign
        · rw [World.partyGroup_partyEnqueue, World.partyEnqueue,
            PartyMatchmakingWorkerGroup.scheduledCount_enqueueSection,
            PartyMatchmakingWorkerGroup.scheduledCount_scheduleExpansion,
            if_neg fun scheduled => unequal scheduled.2.symm]
          rfl

/-- **Enqueueing.** A fresh request waits at its base worker, unless its size fits no
match or its ticket was cancelled. -/
theorem handled_enqueueJobRequest (issued : 0 ≤ request.matchTicketId)
    (pointer : request.matchTicketPtr = some ticket)
    (fresh : world.Fresh group request ticket) :
    ((PartyGroupCall.enqueueJobRequest request).complete group world).Handled group request
      ticket := by
  rw [complete_enqueueJobRequest pointer]
  split_ifs
  · refine Or.inr (Or.inl ⟨?_, fresh.lacks⟩)
    rcases fresh.status with none | cancelled
    · rw [none]
      exact nofun
    · rw [cancelled]
      exact nofun
  · set base := getWorkerIndex group.workerCount request.matchTicketId
    set assigned := perform (.setBaseWorkerIndex request base) world
    have present : hasWorker group.workerCount base = true :=
      hasWorker_getWorkerIndex group.hasWorkers issued
    obtain ⟨placed, run, places⟩ := @PartyMatchmakingWorkerGroup.enqueueSection_of_lacks
      (assigned.partyGroup group) group.workerCount request ticket base assigned.timeSec
      assigned.ticketStatus present fresh.lacks
    have result : assigned.partyEnqueue group base request ticket = _ := run
    have slot : assigned.workerSlot request = { baseWorkerIndex := base } := by
      have updated : assigned.workerSlot request =
          ⟨base, (world.workerSlot request).workerExpansionLevel⟩ := Function.update_self _ _ _
      rw [updated, fresh.level]
    have count : placed.scheduledCount request = if 1 < group.workerCount then 1 else 0 := by
      have counted := @PartyMatchmakingWorkerGroup.scheduledCount_enqueueSection
        (assigned.partyGroup group) group.workerCount request request ticket base assigned.timeSec
        assigned.ticketStatus
      rw [run, PartyMatchmakingWorkerGroup.scheduledCount_scheduleExpansion,
        show (assigned.partyGroup group).scheduledCount request = 0 from fresh.unscheduled]
        at counted
      simpa using counted
    have ranges : placed.Ranges request (assigned.workerSlot request) group.workerCount := by
      rw [slot]
      refine ⟨le_refl 0, places.congr fun index => WorkerSlot.covers_base_iff present,
        fun unfinished => ?_, fun full => ?_⟩
      · rw [count, if_pos (not_not.mp (mt (WorkerSlot.full_base_iff present).mpr unfinished))]
      · rw [count, if_neg ((WorkerSlot.full_base_iff present).mp full)]
    have status : (perform (.partyEnqueue group base request ticket) assigned).ticketStatus ticket =
        (ticket.changeStatus .queued world.ticketStatus).2 ticket := by
      rw [perform, result]
      rfl
    rcases fresh.status with none | cancelled
    · refine Or.inl ⟨?_, ?_⟩
      · rw [status, MatchTicket.changeStatus_of_can (by rw [none]; rfl)]
        exact Function.update_self _ _ _
      · rw [World.partyGroup_partyEnqueue, result]
        exact ranges
    · refine Or.inr (Or.inr ?_)
      rw [status, MatchTicket.changeStatus_of_cannot (by rw [cancelled]; rfl)]
      exact cancelled

/-- Cancelling the ticket of another request, or one that cannot be cancelled. -/
theorem leaves_cancelMatchTicket (pointer : request.matchTicketPtr = some ticket)
    (spared : request.matchTicketId ≠ owner.matchTicketId ∨
      canChangeStatus (world.ticketStatus owner) .cancelled = false) :
    World.Leaves group request ticket world
      ((PartyGroupCall.cancelMatchTicket owner).complete group world) := by
  change World.Leaves group request ticket world (perform (.partyCancel group owner) world)
  cases can : canChangeStatus (world.ticketStatus owner) .cancelled with
  | false =>
      have same : perform (.partyCancel group owner) world = world := by
        simp only [perform, World.partyCancel,
          PartyMatchmakingWorkerGroup.cancelMatchTicket_of_cannot can, World.withPartyGroup_self]
        rfl
      rw [same]
      exact .refl world
  | true =>
      have different := spared.resolve_right (by rw [can]; rintro ⟨⟩)
      have distinct : ticket ≠ owner := by
        rintro rfl
        exact different (by rw [MatchmakingRequest.matchTicketId, pointer])
      have after : (perform (.partyCancel group owner) world).partyGroup group = _ :=
        World.partyGroup_partyCancel can
      refine ⟨PartyMatchmakingWorkerGroup.cancelMatchTicket_of_ne distinct, rfl, ?_, ?_⟩
      · rw [after]
        exact PartyMatchmakingWorkerGroup.spares_eraseFromWorkers different
      · rw [after]
        rfl

/-- **Cancelling.** A ticket that is cancelled leaves all workers. -/
theorem cancelMatchTicket_of_can (pointer : request.matchTicketPtr = some ticket)
    (can : canChangeStatus (world.ticketStatus ticket) .cancelled = true) {range : Int → Prop}
    (places : (world.partyGroup group).Places request range)
    (within : ∀ index, range index → hasWorker group.workerCount index = true) :
    ((PartyGroupCall.cancelMatchTicket ticket).complete group world).ticketStatus ticket =
        .cancelled ∧
      ∀ index, ((((PartyGroupCall.cancelMatchTicket ticket).complete group world).partyGroup
        group).workers index).Lacks request := by
  change (perform (.partyCancel group ticket) world).ticketStatus ticket = _ ∧
    ∀ index, (((perform (.partyCancel group ticket) world).partyGroup group).workers
      index).Lacks request
  rw [World.partyGroup_partyCancel can]
  refine ⟨?_, places.eraseFromWorkers within pointer⟩
  rw [perform, World.partyCancel, PartyMatchmakingWorkerGroup.cancelMatchTicket_of_can can]
  exact Function.update_self _ _ _

/-- **Committing.** The list leaves the request alone, or the request was queued and leaves
all workers. -/
theorem tryCommitMatchmakingRequests_cases (distinct : Set.InjOn MatchmakingRequest.matchTicketId
      requests)
    {listed : List (Option MatchmakingRequest)}
    (within : ∀ other, some other ∈ listed → other ∈ requests)
    (known : request ∈ requests) (pointer : request.matchTicketPtr = some ticket) :
    let after := (PartyGroupCall.tryCommitMatchmakingRequests listed).complete group world
    World.Leaves group request ticket world after ∧
        ¬ (PartyGroupCall.tryCommitMatchmakingRequests listed).Removes group request world ∨
      world.ticketStatus ticket = .queued ∧ after.ticketStatus ticket = .searching ∧
        ((world.partyGroup group).Places request
            ((world.workerSlot request).Covers group.workerCount) →
          ∀ index, ((after.partyGroup group).workers index).Lacks request) := by
  intro after
  rcases PartyMatchmakingWorkerGroup.tryCommit_cases listed with
    refused | ⟨claimed, tickets, rfl, ticketsOf, -, nodup, queued, committed⟩
  · have result : world.partyCommit group listed = _ := refused
    have same : after = world := World.partyCommit_of_refused (by rw [result])
    rw [same]
    refine Or.inl ⟨.refl world, fun removes => ?_⟩
    have success : (world.partyCommit group listed).1 = true := removes.2
    rw [result] at success
    cases success
  · have within : ∀ other ∈ claimed, other ∈ requests := fun other inside =>
      within other (List.mem_map_of_mem inside)
    have statuses : after.ticketStatus = moveAll tickets .searching world.ticketStatus := by
      change (world.partyCommit group (claimed.map some)).2.2 = _
      rw [show world.partyCommit group (claimed.map some) = _ from committed]
    have workers : after.partyGroup group = claimed.foldl
        (PartyMatchmakingWorkerGroup.eraseFromRange group.workerCount world.workerSlot)
          (world.partyGroup group) := by
      have stored : after.partyGroup group = (world.partyCommit group (claimed.map some)).2.1 :=
        Function.update_self _ _ _
      rw [stored, show world.partyCommit group (claimed.map some) = _ from committed]
    by_cases inside : request ∈ claimed
    · obtain ⟨owner, member, same⟩ := ticketsOf.ticket_of_mem inside
      obtain rfl := Option.some.inj (pointer.symm.trans same)
      have once : (claimed.map MatchmakingRequest.matchTicketId).Nodup := by
        have pointers : (claimed.map MatchmakingRequest.matchTicketPtr).Nodup :=
          ticketsOf ▸ nodup.map (Option.some_injective _)
        exact pointers.of_map.map_on fun first held second holds =>
          distinct (within first held) (within second holds)
      refine Or.inr ⟨queued ticket member, ?_, fun places => ?_⟩
      · rw [statuses]
        exact moveAll_of_mem member
      · rw [workers]
        exact places.eraseAll group.hasWorkers pointer once inside
    · have different : ∀ other ∈ claimed, request.matchTicketId ≠ other.matchTicketId :=
        fun other member same => inside (distinct known (within other member) same ▸ member)
      refine Or.inl ⟨⟨?_, rfl, ?_, ?_⟩, fun removes => inside ?_⟩
      · rw [statuses]
        refine moveAll_of_not_mem fun member => ?_
        obtain ⟨other, held, same⟩ := ticketsOf.request_of_mem member
        refine different other held ?_
        rw [MatchmakingRequest.matchTicketId, pointer, MatchmakingRequest.matchTicketId, same]
      · rw [workers]
        exact PartyMatchmakingWorkerGroup.spares_eraseAll different
      · rw [workers]
        exact PartyMatchmakingWorkerGroup.scheduledCount_eraseAll
      · exact (List.mem_map_of_injective (Option.some_injective _)).mp removes.1

/-- The group has only known requests. -/
theorem every_complete {call : PartyGroupCall} (within : call.Within requests)
    (every : (world.partyGroup group).Every (· ∈ requests)) :
    ((call.complete group world).partyGroup group).Every (· ∈ requests) := by
  cases call with
  | tick timeMsec => exact every
  | enqueueJobRequest request =>
      cases pointer : request.matchTicketPtr with
      | none =>
          rw [complete_enqueueJobRequest_of_none pointer]
          exact every
      | some ticket =>
          rw [complete_enqueueJobRequest pointer]
          split_ifs
          · exact every
          · rw [World.partyGroup_partyEnqueue]
            exact every.enqueueSection within
  | expandMatchmakingWorkerSlot =>
      have stored : ((PartyGroupCall.expandMatchmakingWorkerSlot.complete group world).partyGroup
          group) = (world.partyExpand group).1 := Function.update_self _ _ _
      rw [stored]
      exact every.expandMatchmakingWorkerSlot _ _ _
  | tryCommitMatchmakingRequests listed =>
      have stored : (((PartyGroupCall.tryCommitMatchmakingRequests listed).complete group
          world).partyGroup group) = (world.partyCommit group listed).2.1 :=
        Function.update_self _ _ _
      rw [stored]
      exact every.tryCommitMatchmakingRequests _ _ _
  | cancelMatchTicket ticket =>
      have stored : (((PartyGroupCall.cancelMatchTicket ticket).complete group world).partyGroup
          group) = (world.partyCancel group ticket).2.1 := Function.update_self _ _ _
      rw [stored]
      exact every.cancelMatchTicket _ _

/-- Requests of the schedule are the request itself or have other ids. -/
private theorem apart_of_every (distinct : Set.InjOn MatchmakingRequest.matchTicketId requests)
    (known : request ∈ requests) (every : (world.partyGroup group).Every (· ∈ requests)) :
    ∀ entry ∈ (world.partyGroup group).matchmakingRequestSlotExpandTimeMap, entry.2 ≠ request →
      request.matchTicketId ≠ entry.2.matchTicketId :=
  fun entry inside different same =>
    different (distinct (every.expanding entry inside) known same.symm)

theorem waits_expandMatchmakingWorkerSlot
    (distinct : Set.InjOn MatchmakingRequest.matchTicketId requests) (known : request ∈ requests)
    (every : (world.partyGroup group).Every (· ∈ requests))
    (pointer : request.matchTicketPtr = some ticket) (waits : world.Waits group request ticket) :
    (expandMatchmakingWorkerSlot.complete group world).Waits group request ticket := by
  refine ⟨waits.status, ?_⟩
  have stored : (expandMatchmakingWorkerSlot.complete group world).partyGroup group =
      (world.partyExpand group).1 := Function.update_self _ _ _
  rw [stored]
  exact waits.ranges.expandMatchmakingWorkerSlot group.hasWorkers pointer waits.status
    (apart_of_every distinct known every)

/-- Expanding does not concern requests that do not wait. -/
theorem expandMatchmakingWorkerSlot_of_not_queued
    (distinct : Set.InjOn MatchmakingRequest.matchTicketId requests) (known : request ∈ requests)
    (every : (world.partyGroup group).Every (· ∈ requests))
    (pointer : request.matchTicketPtr = some ticket) (idle : world.ticketStatus ticket ≠ .queued) :
    let after := expandMatchmakingWorkerSlot.complete group world
    after.ticketStatus = world.ticketStatus ∧
      PartyMatchmakingWorkerGroup.Spares request (world.partyGroup group)
        (after.partyGroup group) ∧
      after.workerSlot request = world.workerSlot request ∧
      (after.partyGroup group).scheduledCount request ≤
        (world.partyGroup group).scheduledCount request := by
  intro after
  have stored : after.partyGroup group = (world.partyExpand group).1 := Function.update_self _ _ _
  rw [stored]
  refine ⟨rfl, PartyMatchmakingWorkerGroup.spares_expandMatchmakingWorkerSlot
    fun entry inside owner foreign queued => ?_⟩
  refine apart_of_every distinct known every entry inside ?_
  rintro rfl
  obtain rfl := Option.some.inj (pointer.symm.trans foreign)
  exact idle queued

/-- A cancel leaves the request alone, or cancels its ticket. -/
theorem cancelMatchTicket_cases (distinct : Set.InjOn MatchmakingRequest.matchTicketId requests)
    (known : request ∈ requests) (pointer : request.matchTicketPtr = some ticket)
    (within : ∃ other ∈ requests, other.matchTicketPtr = some owner) (world : World) :
    World.Leaves group request ticket world
        ((PartyGroupCall.cancelMatchTicket owner).complete group world) ∧
        ¬ (PartyGroupCall.cancelMatchTicket owner).Removes group request world ∨
      owner = ticket ∧ canChangeStatus (world.ticketStatus ticket) .cancelled = true := by
  have owned : request.matchTicketId = owner.matchTicketId → owner = ticket := by
    intro same
    obtain ⟨other, member, foreign⟩ := within
    have equal : request = other := distinct known member (same.trans (by
      rw [MatchmakingRequest.matchTicketId, foreign]))
    subst equal
    exact (Option.some.inj (pointer.symm.trans foreign)).symm
  cases can : canChangeStatus (world.ticketStatus owner) .cancelled with
  | false =>
      refine Or.inl ⟨leaves_cancelMatchTicket pointer (Or.inr can), fun removes => ?_⟩
      have success : (world.partyCancel group owner).1 = true := removes.2
      rw [World.partyCancel, PartyMatchmakingWorkerGroup.cancelMatchTicket_of_cannot can] at success
      cases success
  | true =>
      by_cases same : request.matchTicketId = owner.matchTicketId
      · obtain rfl := owned same
        exact Or.inr ⟨rfl, can⟩
      · refine Or.inl ⟨leaves_cancelMatchTicket pointer (Or.inl same), fun removes => same ?_⟩
        rw [MatchmakingRequest.matchTicketId, removes.1]

/-- **Before its enqueue** a request stays fresh. -/
theorem fresh_complete (distinct : Set.InjOn MatchmakingRequest.matchTicketId requests)
    (known : request ∈ requests) (pointer : request.matchTicketPtr = some ticket)
    {call : PartyGroupCall} (within : call.Within requests)
    (every : (world.partyGroup group).Every (· ∈ requests)) (other : call.enqueued ≠ some request)
    (fresh : world.Fresh group request ticket) :
    (call.complete group world).Fresh group request ticket := by
  have idle : world.ticketStatus ticket ≠ .queued := by
    rcases fresh.status with status | status <;> rw [status] <;> exact nofun
  cases call with
  | tick timeMsec => exact ⟨fresh.status, fresh.level, fresh.lacks, fresh.unscheduled⟩
  | enqueueJobRequest another =>
      refine (leaves_enqueueJobRequest (fun same => other ?_) pointer).fresh fresh
      rw [distinct known within same]
      rfl
  | expandMatchmakingWorkerSlot =>
      obtain ⟨statuses, spares, slot, count⟩ :=
        expandMatchmakingWorkerSlot_of_not_queued distinct known every pointer idle
      exact ⟨statuses ▸ fresh.status, slot ▸ fresh.level,
        fun index => (spares index).lacks (fresh.lacks index),
        Nat.le_zero.mp (count.trans fresh.unscheduled.le)⟩
  | tryCommitMatchmakingRequests listed =>
      rcases tryCommitMatchmakingRequests_cases distinct within known pointer with
        ⟨leaves, -⟩ | ⟨queued, -⟩
      · exact leaves.fresh fresh
      · exact (idle queued).elim
  | cancelMatchTicket owner =>
      rcases cancelMatchTicket_cases distinct known pointer within world with
        ⟨leaves, -⟩ | ⟨rfl, can⟩
      · exact leaves.fresh fresh
      · have nowhere : (world.partyGroup group).Places request fun _ => False :=
          ⟨fun _ => False.elim, fun index _ => fresh.lacks index⟩
        obtain ⟨cancelled, lacks⟩ :=
          cancelMatchTicket_of_can pointer can nowhere fun _ => False.elim
        refine ⟨Or.inr cancelled, fresh.level, lacks, ?_⟩
        change ((perform (.partyCancel group owner) world).partyGroup group).scheduledCount
          request = 0
        rw [World.partyGroup_partyCancel can]
        exact fresh.unscheduled

/-- **A request that is gone** stays away from all workers. -/
theorem gone_complete (distinct : Set.InjOn MatchmakingRequest.matchTicketId requests)
    (known : request ∈ requests) (pointer : request.matchTicketPtr = some ticket)
    {call : PartyGroupCall} (within : call.Within requests)
    (every : (world.partyGroup group).Every (· ∈ requests)) (other : call.enqueued ≠ some request)
    (gone : world.Gone group request ticket) :
    (call.complete group world).Gone group request ticket := by
  cases call with
  | tick timeMsec => exact ⟨gone.status, gone.lacks⟩
  | enqueueJobRequest another =>
      refine (leaves_enqueueJobRequest (fun same => other ?_) pointer).gone gone
      rw [distinct known within same]
      rfl
  | expandMatchmakingWorkerSlot =>
      obtain ⟨statuses, spares, -⟩ :=
        expandMatchmakingWorkerSlot_of_not_queued distinct known every pointer gone.status
      exact ⟨statuses ▸ gone.status, fun index => (spares index).lacks (gone.lacks index)⟩
  | tryCommitMatchmakingRequests listed =>
      rcases tryCommitMatchmakingRequests_cases distinct within known pointer with
        ⟨leaves, -⟩ | ⟨queued, -⟩
      · exact leaves.gone gone
      · exact (gone.status queued).elim
  | cancelMatchTicket owner =>
      rcases cancelMatchTicket_cases distinct known pointer within world with
        ⟨leaves, -⟩ | ⟨rfl, can⟩
      · exact leaves.gone gone
      · have nowhere : (world.partyGroup group).Places request fun _ => False :=
          ⟨fun _ => False.elim, fun index _ => gone.lacks index⟩
        obtain ⟨cancelled, lacks⟩ :=
          cancelMatchTicket_of_can pointer can nowhere fun _ => False.elim
        exact ⟨by rw [cancelled]; exact nofun, lacks⟩

/-- **A request that waits** goes on waiting unless a call removes it. -/
theorem waits_complete (distinct : Set.InjOn MatchmakingRequest.matchTicketId requests)
    (known : request ∈ requests) (pointer : request.matchTicketPtr = some ticket)
    {call : PartyGroupCall} (within : call.Within requests)
    (every : (world.partyGroup group).Every (· ∈ requests)) (other : call.enqueued ≠ some request)
    (waits : world.Waits group request ticket) :
    (call.complete group world).Waits group request ticket ∧
        ¬ call.Removes group request world ∨
      (call.complete group world).Gone group request ticket := by
  cases call with
  | tick timeMsec => exact Or.inl ⟨⟨waits.status, waits.ranges⟩, id⟩
  | enqueueJobRequest another =>
      refine Or.inl ⟨(leaves_enqueueJobRequest (fun same => other ?_) pointer).waits waits, id⟩
      rw [distinct known within same]
      rfl
  | expandMatchmakingWorkerSlot =>
      exact Or.inl ⟨waits_expandMatchmakingWorkerSlot distinct known every pointer waits, id⟩
  | tryCommitMatchmakingRequests listed =>
      rcases tryCommitMatchmakingRequests_cases distinct within known pointer with
        ⟨leaves, stays⟩ | ⟨-, searching, lacks⟩
      · exact Or.inl ⟨leaves.waits waits, stays⟩
      · exact Or.inr ⟨by rw [searching]; exact nofun, lacks waits.ranges.places⟩
  | cancelMatchTicket owner =>
      rcases cancelMatchTicket_cases distinct known pointer within world with
        ⟨leaves, stays⟩ | ⟨rfl, can⟩
      · exact Or.inl ⟨leaves.waits waits, stays⟩
      · obtain ⟨cancelled, lacks⟩ := cancelMatchTicket_of_can pointer can waits.ranges.places
          fun index covers => covers.hasWorker group.hasWorkers
        exact Or.inr ⟨by rw [cancelled]; exact nofun, lacks⟩

/-- The calls move tickets forward only. -/
theorem precedes_complete (call : PartyGroupCall) (world : World) :
    world.Precedes (call.complete group world) :=
  Program.run_invariant perform
    (fun step _ precedes => precedes.trans (precedes_perform step _)) _ (World.Precedes.refl world)

theorem not_removes_of_cancelled
    (distinct : Set.InjOn MatchmakingRequest.matchTicketId requests) (known : request ∈ requests)
    (pointer : request.matchTicketPtr = some ticket) {call : PartyGroupCall}
    (within : call.Within requests) (cancelled : world.ticketStatus ticket = .cancelled) :
    ¬ call.Removes group request world := by
  cases call with
  | tick | enqueueJobRequest | expandMatchmakingWorkerSlot => exact id
  | tryCommitMatchmakingRequests listed =>
      rcases tryCommitMatchmakingRequests_cases distinct within known pointer with
        ⟨-, stays⟩ | ⟨queued, -⟩
      · exact stays
      · rw [cancelled] at queued
        cases queued
  | cancelMatchTicket owner =>
      rcases cancelMatchTicket_cases distinct known pointer within world with
        ⟨-, stays⟩ | ⟨rfl, can⟩
      · exact stays
      · rw [cancelled] at can
        cases can

theorem handled_complete (distinct : Set.InjOn MatchmakingRequest.matchTicketId requests)
    (known : request ∈ requests) (pointer : request.matchTicketPtr = some ticket)
    {call : PartyGroupCall} (within : call.Within requests)
    (every : (world.partyGroup group).Every (· ∈ requests)) (other : call.enqueued ≠ some request)
    (handled : world.Handled group request ticket) :
    (call.complete group world).Handled group request ticket ∧
      (call.Removes group request world →
        (call.complete group world).Gone group request ticket) := by
  rcases handled with waits | gone | cancelled
  · rcases waits_complete distinct known pointer within every other waits with
      ⟨still, stays⟩ | gone
    · exact ⟨Or.inl still, fun removes => (stays removes).elim⟩
    · exact ⟨Or.inr (Or.inl gone), fun _ => gone⟩
  · have still := gone_complete distinct known pointer within every other gone
    exact ⟨Or.inr (Or.inl still), fun _ => still⟩
  · refine ⟨Or.inr (Or.inr ?_), fun removes =>
      (not_removes_of_cancelled distinct known pointer within cancelled removes).elim⟩
    have advances : Advances (world.ticketStatus ticket)
        ((call.complete group world).ticketStatus ticket) :=
      (call.precedes_complete world).advances ticket
    rw [cancelled] at advances
    exact advances.of_terminal rfl

end PartyGroupCall

end Calls

/-! ## Runs of calls -/

section Runs

variable {group : WorkerGroup} {requests : Set MatchmakingRequest} {request : MatchmakingRequest}
  {ticket : MatchTicket} {calls : List PartyGroupCall}

namespace PartyGroupCall

theorem completeAll_append (first second : List PartyGroupCall) (world : World) :
    completeAll group (first ++ second) world =
      completeAll group second (completeAll group first world) :=
  List.foldl_append

theorem enqueued_eq_some_iff {call : PartyGroupCall} :
    call.enqueued = some request ↔ call = .enqueueJobRequest request := by
  cases call with
  | enqueueJobRequest other =>
      rw [enqueued, Option.some.injEq, enqueueJobRequest.injEq]
  | tick | expandMatchmakingWorkerSlot | tryCommitMatchmakingRequests | cancelMatchTicket =>
      exact ⟨nofun, nofun⟩

theorem mem_enqueued_iff : request ∈ calls.filterMap enqueued ↔
    PartyGroupCall.enqueueJobRequest request ∈ calls := by
  simp [List.mem_filterMap, enqueued_eq_some_iff]

theorem every_completeAll (within : ∀ call ∈ calls, call.Within requests) {world : World}
    (every : (world.partyGroup group).Every (· ∈ requests)) :
    ((completeAll group calls world).partyGroup group).Every (· ∈ requests) := by
  induction calls generalizing world with
  | nil => exact every
  | cons call rest ih =>
      exact ih (fun other inside => within other (List.mem_cons_of_mem _ inside))
        (every_complete (within call List.mem_cons_self) every)

/-- Requests that are gone stay gone for the rest of the run. -/
theorem gone_completeAll (distinct : Set.InjOn MatchmakingRequest.matchTicketId requests)
    (known : request ∈ requests) (pointer : request.matchTicketPtr = some ticket)
    (within : ∀ call ∈ calls, call.Within requests)
    (others : PartyGroupCall.enqueueJobRequest request ∉ calls) {world : World}
    (every : (world.partyGroup group).Every (· ∈ requests))
    (gone : world.Gone group request ticket) :
    (completeAll group calls world).Gone group request ticket := by
  induction calls generalizing world with
  | nil => exact gone
  | cons call rest ih =>
      have permitted := within call List.mem_cons_self
      have other : call.enqueued ≠ some request := fun enqueues =>
        others (enqueued_eq_some_iff.mp enqueues ▸ List.mem_cons_self)
      exact ih (fun other inside => within other (List.mem_cons_of_mem _ inside))
        (fun inside => others (List.mem_cons_of_mem _ inside)) (every_complete permitted every)
        (gone_complete distinct known pointer permitted every other gone)

/-- **The life of a request.** It is fresh until its enqueue, and handled from then on. -/
theorem fresh_or_handled (distinct : Set.InjOn MatchmakingRequest.matchTicketId requests)
    (known : request ∈ requests) (issued : 0 ≤ request.matchTicketId)
    (pointer : request.matchTicketPtr = some ticket)
    (within : ∀ call ∈ calls, call.Within requests) (once : (calls.filterMap enqueued).Nodup) :
    let world := completeAll group calls {}
    (PartyGroupCall.enqueueJobRequest request ∉ calls ∧ world.Fresh group request ticket) ∨
      PartyGroupCall.enqueueJobRequest request ∈ calls ∧ world.Handled group request ticket := by
  induction calls using List.reverseRecOn with
  | nil =>
      exact Or.inl ⟨List.not_mem_nil, Or.inl rfl, rfl, fun _ => .default, rfl⟩
  | append_singleton earlier call ih =>
      have permitted : ∀ other ∈ earlier, other.Within requests :=
        fun other inside => within other (List.mem_append_left _ inside)
      have last := within call (List.mem_append_right _ (List.mem_singleton_self _))
      rw [List.filterMap_append, List.nodup_append] at once
      obtain ⟨onceBefore, -, apart⟩ := once
      have every : ((completeAll group earlier {}).partyGroup group).Every (· ∈ requests) :=
        every_completeAll permitted .default
      rw [completeAll_append]
      by_cases own : call.enqueued = some request
      · have first : PartyGroupCall.enqueueJobRequest request ∉ earlier := fun inside =>
          apart request (mem_enqueued_iff.mpr inside) request (by simp [own]) rfl
        obtain rfl := enqueued_eq_some_iff.mp own
        rcases ih permitted onceBefore with ⟨-, fresh⟩ | ⟨inside, -⟩
        · exact Or.inr ⟨by simp, handled_enqueueJobRequest issued pointer fresh⟩
        · exact (first inside).elim
      · have same : PartyGroupCall.enqueueJobRequest request ∈ earlier ++ [call] ↔
            PartyGroupCall.enqueueJobRequest request ∈ earlier := by
          rw [List.mem_append, List.mem_singleton, eq_comm, ← enqueued_eq_some_iff]
          exact or_iff_left own
        rw [same]
        exact (ih permitted onceBefore).imp
          (And.imp_right (fresh_complete distinct known pointer last every own))
          (And.imp_right fun handled =>
            (handled_complete distinct known pointer last every own handled).1)

end PartyGroupCall

/-- **Ranges of a party group.** Calls are made on a group one after another, on requests of
distinct nonnegative ids each of which is enqueued once at most. A request of a queued ticket
is then with the workers of its range and with no others, and is scheduled once unless the
range is the whole group. A request that a call removes after its enqueue is with no worker,
whatever calls follow. -/
theorem party_group_ranges (distinct : Set.InjOn MatchmakingRequest.matchTicketId requests)
    (issued : ∀ request ∈ requests, 0 ≤ request.matchTicketId)
    (within : ∀ call ∈ calls, call.Within requests)
    (once : (calls.filterMap PartyGroupCall.enqueued).Nodup) (known : request ∈ requests)
    (pointer : request.matchTicketPtr = some ticket) :
    let world := PartyGroupCall.completeAll group calls {}
    (world.ticketStatus ticket = .queued →
      (∀ index, (((world.partyGroup group).workers index).Keeps request ↔
          (world.workerSlot request).Covers group.workerCount index) ∧
        (((world.partyGroup group).workers index).Lacks request ↔
          ¬ (world.workerSlot request).Covers group.workerCount index)) ∧
      (¬ (world.workerSlot request).Full group.workerCount →
        (world.partyGroup group).scheduledCount request = 1)) ∧
    ∀ earlier call later, calls = earlier ++ call :: later →
      PartyGroupCall.enqueueJobRequest request ∈ earlier →
      call.Removes group request (PartyGroupCall.completeAll group earlier {}) →
      ∀ index, ((world.partyGroup group).workers index).Lacks request := by
  intro world
  constructor
  · intro queued
    have waits : world.Waits group request ticket := by
      rcases PartyGroupCall.fresh_or_handled distinct known (issued _ known) pointer within once
        with ⟨-, fresh⟩ | ⟨-, waits | gone | cancelled⟩
      · rcases fresh.status with status | status <;> · rw [queued] at status; cases status
      · exact waits
      · exact (gone.status queued).elim
      · rw [queued] at cancelled
        cases cancelled
    have places := waits.ranges.places
    refine ⟨fun index => ?_, waits.ranges.scheduled⟩
    by_cases covers : (world.workerSlot request).Covers group.workerCount index
    · have keeps := places.keeps index covers
      exact ⟨iff_of_true keeps covers,
        iff_of_false (fun lacks => lacks.not_keeps keeps) (not_not.mpr covers)⟩
    · have lacks := places.lacks index covers
      exact ⟨iff_of_false lacks.not_keeps covers, iff_of_true lacks covers⟩
  · rintro earlier call later rfl inside removes
    have before : ∀ other ∈ earlier, other.Within requests :=
      fun other member => within other (List.mem_append_left _ member)
    have after : ∀ other ∈ later, other.Within requests := fun other member =>
      within other (List.mem_append_right _ (List.mem_cons_of_mem _ member))
    have permitted := within call (List.mem_append_right _ List.mem_cons_self)
    rw [List.filterMap_append, List.nodup_append] at once
    obtain ⟨onceBefore, -, apart⟩ := once
    have unique : PartyGroupCall.enqueueJobRequest request ∉ call :: later := fun again =>
      apart request (PartyGroupCall.mem_enqueued_iff.mpr inside) request
        (PartyGroupCall.mem_enqueued_iff.mpr again) rfl
    have other : call.enqueued ≠ some request := fun enqueues =>
      unique (PartyGroupCall.enqueued_eq_some_iff.mp enqueues ▸ List.mem_cons_self)
    have every := PartyGroupCall.every_completeAll before
      (show ((({} : World).partyGroup group).Every (· ∈ requests)) from .default)
    have life : (PartyGroupCall.enqueueJobRequest request ∉ earlier ∧
        (PartyGroupCall.completeAll group earlier {}).Fresh group request ticket) ∨ _ :=
      PartyGroupCall.fresh_or_handled distinct known (issued _ known) pointer before onceBefore
    have handled := life.resolve_left fun fresh => fresh.1 inside
    have gone := (PartyGroupCall.handled_complete distinct known pointer permitted every other
      handled.2).2 removes
    have still := PartyGroupCall.gone_completeAll distinct known pointer after
      (fun again => unique (List.mem_cons_of_mem _ again))
      (PartyGroupCall.every_complete permitted every) gone
    have split : world = PartyGroupCall.completeAll group later
        (call.complete group (PartyGroupCall.completeAll group earlier {})) :=
      PartyGroupCall.completeAll_append _ _ _
    rw [split]
    exact still.lacks

end Runs

/-! Two parties queue at a group of three workers. Both ranges grow, and one is cancelled. -/

private def trioGroup : WorkerGroup :=
  ⟨(0, "Arena"), ⟨"Arena", 2, 1, MatchmakingRule.inRange_two⟩, 3, by decide⟩

private def trioTicket (playerKey : PlayerKey) : MatchTicket :=
  ⟨0, { soleRequest playerKey with matchTicketId := playerKey, matchZoneId := "Arena" }, 0⟩

private def trioRequest (playerKey : PlayerKey) : MatchmakingRequest :=
  (trioTicket playerKey).matchmakingRequest

private def trioCalls : List PartyGroupCall :=
  [.enqueueJobRequest (trioRequest 3), .enqueueJobRequest (trioRequest 4), .tick 1500,
    .expandMatchmakingWorkerSlot, .cancelMatchTicket (trioTicket 4), .tick 3000]

private def trioRequests : Set MatchmakingRequest := {trioRequest 3, trioRequest 4}

theorem party_group_ranges_trio :
    let world := PartyGroupCall.completeAll trioGroup trioCalls {}
    ((world.partyGroup trioGroup).workers 1).Keeps (trioRequest 3) ∧
      (world.partyGroup trioGroup).scheduledCount (trioRequest 3) = 1 ∧
      ∀ index, ((world.partyGroup trioGroup).workers index).Lacks (trioRequest 4) := by
  have distinct : Set.InjOn MatchmakingRequest.matchTicketId trioRequests := by
    rintro _ (rfl | rfl) _ (rfl | rfl) same
    · rfl
    · cases same
    · cases same
    · rfl
  have issued : ∀ request ∈ trioRequests, 0 ≤ request.matchTicketId := by
    rintro _ (rfl | rfl) <;> decide
  have within : ∀ call ∈ trioCalls, call.Within trioRequests := by
    intro call inside
    simp only [trioCalls, List.mem_cons, List.not_mem_nil, or_false] at inside
    rcases inside with rfl | rfl | rfl | rfl | rfl | rfl
    · exact Or.inl rfl
    · exact Or.inr rfl
    · trivial
    · trivial
    · exact ⟨_, Or.inr rfl, rfl⟩
    · trivial
  have third := @party_group_ranges trioGroup trioRequests (trioRequest 3) (trioTicket 3)
    trioCalls distinct issued within (by decide) (Or.inl rfl) rfl
  have fourth := @party_group_ranges trioGroup trioRequests (trioRequest 4) (trioTicket 4)
    trioCalls distinct issued within (by decide) (Or.inr rfl) rfl
  obtain ⟨placed, scheduled⟩ := third.1 (by decide +kernel)
  refine ⟨(placed 1).1.mpr ⟨by decide +kernel, by decide +kernel⟩, scheduled fun full => ?_, ?_⟩
  · have last := (full 2 (by decide)).2
    revert last
    decide +kernel
  · exact fourth.2 (trioCalls.take 4) (.cancelMatchTicket (trioTicket 4)) [.tick 3000] rfl
      (by simp [trioCalls]) ⟨rfl, by decide +kernel⟩

end MatchmakingMvp
