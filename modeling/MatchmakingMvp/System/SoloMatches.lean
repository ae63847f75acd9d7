import Mathlib.Data.Multiset.Bind
import MatchmakingMvp.System.SoloInterleavings

/-! # The matches of a solo group

Under every interleaving a ticket is in the hands of the thread that queued it, with the
worker its id assigns it to (`MatchmakingMvp.SoloApart`), or in one batch
(`MatchmakingMvp.SoloSeated`). So every list of tickets that a solo group hands over is
one batch of one run, and no ticket is in two of them (`MatchmakingMvp.solo_batches`).
-/

namespace MatchmakingMvp

open Foundation

/-- The tickets of a batch can be listed in any order. -/
theorem SoloMatchmakingWorker.IsBatch.perm {worker : SoloMatchmakingWorker}
    {rule : MatchmakingRule} {found listed : List MatchTicket} (batch : worker.IsBatch rule found)
    (listing : listed.Perm found) : worker.IsBatch rule listed :=
  ⟨listing.length_eq ▸ batch.count, listing.nodup_iff.mpr batch.nodup,
    (listing.map some).trans batch.oldest⟩

/-! ## Queued tickets -/

/-- The ticket a thread queued and has not brought to its worker yet. -/
def SoloStage.brings : SoloStage → List MatchTicket
  | .queued ticket => [ticket]
  | _ => []

/-- The tickets on their way to a worker. -/
def broughtTickets (stages : Multiset SoloStage) : Multiset MatchTicket :=
  stages.bind fun stage => stage.brings

@[simp] theorem broughtTickets_cons (stage : SoloStage) (stages : Multiset SoloStage) :
    broughtTickets (stage ::ₘ stages) = stage.brings + broughtTickets stages :=
  Multiset.cons_bind _ _ _

/-- The tickets a worker of the group is for. -/
def AssignedTo (group : WorkerGroup) (tickets : Set MatchTicket) (index : Int)
    (ticket : MatchTicket) : Prop :=
  ticket ∈ tickets ∧ index = getWorkerIndex group.workerCount ticket.matchTicketId

/-- Queued tickets are on their way or with the worker they are assigned to. -/
structure SoloApart (group : WorkerGroup) (tickets : Set MatchTicket) (world : World)
    (stages : Multiset SoloStage) : Prop where
  workers : ∀ index, (world.soloWorker group index).Sound (AssignedTo group tickets index)
    world.ticketStatus group.matchmakingRule
  brought : ∀ ticket ∈ broughtTickets stages, ticket ∈ tickets ∧
    world.ticketStatus ticket ≠ .none ∧
    ∀ index, ¬ (world.soloWorker group index).Has ticket.matchTicketId
  once : (broughtTickets stages).Nodup

theorem World.soloWorker_withSoloWorker (world : World) (group : WorkerGroup)
    (index other : Int) (worker : SoloMatchmakingWorker) :
    (world.withSoloWorker group index worker).soloWorker group other =
      if other = index then worker else world.soloWorker group other := by
  rw [World.soloWorker, World.withSoloWorker_soloWorkers, Function.update_self]
  split_ifs with same
  · rw [same, Function.update_self]
  · exact Function.update_of_ne same _ _

theorem Section.soloWorkers_of_apart {step : Section} (apart : step.concernsSolo = false)
    (world : World) : (perform step world).soloWorkers = world.soloWorkers := by
  cases step with
  | soloEnqueue | soloCancel | soloRun | enterCreateMatchSession => cases apart
  | nextIntegrationWorldNo worldGroupNo =>
      simp only [perform]
      split_ifs <;> rfl
  | _ => rfl

section Apart

variable {group : WorkerGroup} {tickets : Set MatchTicket} {before after world : World}
  {stage stage' : SoloStage} {others : Multiset SoloStage} {step : Section}

/-- What the other threads bring stays away from the workers. -/
theorem SoloApart.of_kept (apart : SoloApart group tickets before (stage ::ₘ others))
    (precedes : before.Precedes after)
    (workers : ∀ index, (after.soloWorker group index).Sound (AssignedTo group tickets index)
      after.ticketStatus group.matchmakingRule)
    (kept : ∀ ticket ∈ broughtTickets others, ∀ index,
      (after.soloWorker group index).Has ticket.matchTicketId →
        (before.soloWorker group index).Has ticket.matchTicketId)
    (mine : ∀ ticket ∈ stage'.brings, ticket ∈ tickets ∧ after.ticketStatus ticket ≠ .none ∧
      ∀ index, ¬ (after.soloWorker group index).Has ticket.matchTicketId)
    (once : (broughtTickets (stage' ::ₘ others)).Nodup) :
    SoloApart group tickets after (stage' ::ₘ others) := by
  refine ⟨workers, fun ticket inside => ?_, once⟩
  rw [broughtTickets_cons, Multiset.mem_add, Multiset.mem_coe] at inside
  rcases inside with own | other
  · exact mine ticket own
  · obtain ⟨known, started, absent⟩ := apart.brought ticket (by
      rw [broughtTickets_cons]
      exact Multiset.mem_add.mpr (Or.inr other))
    exact ⟨known, (precedes.advances ticket).ne_none started,
      fun index has => absent index (kept ticket other index has)⟩

/-- A thread that brings nothing, and workers that take nothing in. -/
theorem SoloApart.of_idle (apart : SoloApart group tickets before (stage ::ₘ others))
    (precedes : before.Precedes after) (idle : stage'.brings = [])
    (workers : ∀ index, (after.soloWorker group index).Sound (AssignedTo group tickets index)
      after.ticketStatus group.matchmakingRule)
    (kept : ∀ index id, (after.soloWorker group index).Has id →
      (before.soloWorker group index).Has id) :
    SoloApart group tickets after (stage' ::ₘ others) := by
  refine apart.of_kept precedes workers (fun ticket _ index => kept index _) ?_ ?_
  · rw [idle]
    exact fun _ => nofun
  · have once := apart.once
    rw [broughtTickets_cons, Multiset.nodup_add] at once
    rw [broughtTickets_cons, idle]
    simpa using once.2.1

/-- A section that leaves the workers alone and the queued tickets where they are. -/
theorem SoloApart.workers_of_same (apart : SoloApart group tickets before (stage ::ₘ others))
    (same : after.soloWorkers = before.soloWorkers)
    (queued : ∀ ticket, before.ticketStatus ticket = .queued →
      after.ticketStatus ticket = .queued) (index : Int) :
    (after.soloWorker group index).Sound (AssignedTo group tickets index)
      after.ticketStatus group.matchmakingRule := by
  rw [World.soloWorker, same]
  exact (apart.workers index).congr fun ticket _ => queued ticket

theorem SoloApart.calm (apart : SoloApart group tickets world (stage ::ₘ others))
    (calm : step.Calm world) :
    SoloApart group tickets (perform step world) (stage ::ₘ others) := by
  have same := Section.soloWorkers_of_apart calm.apart world
  have has : ∀ index id, ((perform step world).soloWorker group index).Has id ↔
      (world.soloWorker group index).Has id := fun index id => by
    rw [World.soloWorker, World.soloWorker, same]
  have queued : ∀ ticket, world.ticketStatus ticket = .queued →
      (perform step world).ticketStatus ticket = .queued := fun ticket queued =>
    (calm.statuses ticket (by rw [queued]; rfl)).trans queued
  refine apart.of_kept (precedes_perform step world) (apart.workers_of_same same queued)
    (fun ticket _ index => (has index _).mp) (fun ticket own => ?_) apart.once
  obtain ⟨known, started, absent⟩ := apart.brought ticket (by
    rw [broughtTickets_cons]
    exact Multiset.mem_add.mpr (Or.inl own))
  exact ⟨known, ((precedes_perform step world).advances ticket).ne_none started,
    fun index => mt (has index _).mp (absent index)⟩

/-- A ticket that was not queued before is with no worker. -/
theorem SoloApart.absent_of_none (apart : SoloApart group tickets world (stage ::ₘ others))
    (distinct : Set.InjOn MatchTicket.matchTicketId tickets) {ticket : MatchTicket}
    (known : ticket ∈ tickets) (new : world.ticketStatus ticket = .none) (index : Int) :
    ¬ (world.soloWorker group index).Has ticket.matchTicketId := by
  intro has
  obtain ⟨request, inside⟩ := SoloMatchmakingWorker.has_iff.mp has
  obtain ⟨other, -, assigned, same, queued⟩ := (apart.workers index).carries_of_mem inside
  rw [← distinct known assigned.1 same, new] at queued
  cases queued

theorem SoloApart.queue (apart : SoloApart group tickets world (.idle ::ₘ others))
    (distinct : Set.InjOn MatchTicket.matchTicketId tickets) {ticket : MatchTicket}
    (known : ticket ∈ tickets) :
    SoloApart group tickets (perform (.changeTicketStatus ticket .queued) world)
      ((if (ticket.changeStatus .queued world.ticketStatus).1 then .queued ticket else .idle)
        ::ₘ others) := by
  have precedes := precedes_perform (.changeTicketStatus ticket .queued) world
  cases can : canChangeStatus (world.ticketStatus ticket) .queued with
  | false =>
      rw [MatchTicket.changeStatus_fst, can]
      have same : perform (.changeTicketStatus ticket .queued) world = world := by
        rw [perform, MatchTicket.changeStatus_of_cannot can]
        rfl
      rw [same]
      exact apart
  | true =>
      rw [MatchTicket.changeStatus_fst, can]
      have new : world.ticketStatus ticket = .none := by
        revert can
        cases world.ticketStatus ticket <;> decide
      have statuses : (perform (.changeTicketStatus ticket .queued) world).ticketStatus =
          Function.update world.ticketStatus ticket .queued := by
        rw [perform, MatchTicket.changeStatus_of_can can]
        rfl
      have outside : ticket ∉ broughtTickets others := fun inside =>
        (apart.brought ticket (by simpa [SoloStage.brings] using inside)).2.1 new
      refine apart.of_kept precedes (apart.workers_of_same rfl fun other queued => ?_)
        (fun _ _ _ => id) (fun other own => ?_) ?_
      · rw [statuses, Function.update_apply]
        split_ifs
        · rfl
        · exact queued
      · obtain rfl := List.mem_singleton.mp own
        refine ⟨known, ?_, apart.absent_of_none distinct known new⟩
        rw [statuses, Function.update_self]
        rintro ⟨⟩
      · rw [if_pos rfl, broughtTickets_cons, SoloStage.brings, Multiset.coe_singleton,
          Multiset.singleton_add]
        exact Multiset.nodup_cons.mpr ⟨outside, by simpa [SoloStage.brings] using apart.once⟩

/-- A ticket on its way that the worker takes or refuses. -/
theorem SoloApart.enqueue (distinct : Set.InjOn MatchTicket.matchTicketId tickets)
    {ticket : MatchTicket} {request : MatchmakingRequest}
    (apart : SoloApart group tickets world (.queued ticket ::ₘ others))
    (pointer : request.matchTicketPtr = some ticket) :
    SoloApart group tickets (perform (.soloEnqueue group
      (getWorkerIndex group.workerCount ticket.matchTicketId) request ticket) world)
      (.idle ::ₘ others) := by
  set index := getWorkerIndex group.workerCount ticket.matchTicketId
  have own : ticket ∈ broughtTickets (.queued ticket ::ₘ others) := by simp [SoloStage.brings]
  obtain ⟨known, -, absent⟩ := apart.brought ticket own
  have once := apart.once
  rw [broughtTickets_cons, SoloStage.brings, Multiset.coe_singleton, Multiset.singleton_add,
    Multiset.nodup_cons] at once
  have named : request.matchTicketId = ticket.matchTicketId := by
    rw [MatchmakingRequest.matchTicketId, pointer]
  have sound := apart.workers index
  have taken : (world.soloEnqueue group index request ticket).2.Sound
        (AssignedTo group tickets index) world.ticketStatus group.matchmakingRule ∧
      ∀ id, (world.soloEnqueue group index request ticket).2.Has id →
        (world.soloWorker group index).Has id ∨ id = ticket.matchTicketId := by
    have erased : ((world.soloWorker group index).erase ticket).Sound
        (AssignedTo group tickets index) world.ticketStatus group.matchmakingRule :=
      sound.erase fun _ _ => id
    simp only [World.soloEnqueue, SoloMatchmakingWorker.enqueueJobRequest, pointer]
    split_ifs with waits present
    · exact ⟨erased, fun id has => Or.inl (SoloMatchmakingWorker.has_erase_iff.mp has).1⟩
    · exact ⟨erased, fun id has => Or.inl (SoloMatchmakingWorker.has_erase_iff.mp has).1⟩
    · rw [named]
      refine ⟨sound.insertOrAssign pointer ⟨known, rfl⟩ (not_not.mp waits) (absent index),
        fun id has => ?_⟩
      rw [SoloMatchmakingWorker.Has, OrderedMap.contains, OrderedMap.find?_insertOrAssign] at has
      by_cases mine : id = ticket.matchTicketId
      · exact Or.inr mine
      · rw [if_neg mine] at has
        exact Or.inl has
  refine apart.of_kept (precedes_perform _ world) (fun other => ?_) (fun other inside index' => ?_)
    (fun _ => by rintro ⟨⟩) ?_
  · simp only [perform, World.soloWorker_withSoloWorker]
    split_ifs with same
    · rw [same]
      exact taken.1
    · exact apart.workers other
  · simp only [perform, World.soloWorker_withSoloWorker]
    split_ifs with same
    · intro has
      rw [same]
      refine (taken.2 _ has).resolve_right fun equal => once.1 ?_
      have known' := (apart.brought other (by
        simpa [SoloStage.brings] using Or.inr inside)).1
      rwa [← distinct known' known equal]
    · exact id
  · simpa [SoloStage.brings] using once.2

theorem World.soloCancel_of_can {index : Int} {ticket : MatchTicket}
    (can : canChangeStatus (world.ticketStatus ticket) .cancelled = true) :
    world.soloCancel group index ticket = (true, (world.soloWorker group index).erase ticket,
      Function.update world.ticketStatus ticket .cancelled) := by
  rw [World.soloCancel, SoloMatchmakingWorker.cancel, MatchTicket.changeStatus_of_can can]

theorem World.soloCancel_of_cannot {index : Int} {ticket : MatchTicket}
    (cannot : canChangeStatus (world.ticketStatus ticket) .cancelled = false) :
    world.soloCancel group index ticket =
      (false, world.soloWorker group index, world.ticketStatus) := by
  rw [World.soloCancel, SoloMatchmakingWorker.cancel, MatchTicket.changeStatus_of_cannot cannot]

/-- A cancelled ticket leaves its worker. -/
theorem SoloApart.cancel (apart : SoloApart group tickets world (.idle ::ₘ others))
    {ticket : MatchTicket} :
    SoloApart group tickets (perform (.soloCancel group
      (getWorkerIndex group.workerCount ticket.matchTicketId) ticket) world)
      (.idle ::ₘ others) := by
  set index := getWorkerIndex group.workerCount ticket.matchTicketId with assigned
  have precedes := precedes_perform (.soloCancel group index ticket) world
  cases can : canChangeStatus (world.ticketStatus ticket) .cancelled with
  | false =>
      have same : perform (.soloCancel group index ticket) world = world := by
        rw [perform, World.soloCancel_of_cannot can]
        exact World.withSoloWorker_self world group index
      rw [same]
      exact apart
  | true =>
      have after : perform (.soloCancel group index ticket) world = (world.withSoloWorker group
          index ((world.soloWorker group index).erase ticket)).withTicketStatus
            (Function.update world.ticketStatus ticket .cancelled) := by
        rw [perform, World.soloCancel_of_can can]
      have kept : ∀ other : MatchTicket, other ≠ ticket → world.ticketStatus other = .queued →
          Function.update world.ticketStatus ticket .cancelled other = .queued :=
        fun other different queued => (Function.update_of_ne different _ _).trans queued
      rw [after] at precedes ⊢
      refine apart.of_idle precedes rfl (fun other => ?_) fun other matchTicketId => ?_
      · change ((world.withSoloWorker group index _).soloWorker group other).Sound _
          (Function.update world.ticketStatus ticket .cancelled) _
        rw [World.soloWorker_withSoloWorker]
        split_ifs with same
        · rw [same]
          exact (apart.workers index).erase fun another different =>
            kept another (mt (congrArg MatchTicket.matchTicketId) different)
        · refine (apart.workers other).congr fun another mine => kept another ?_
          rintro rfl
          exact same (mine.2.trans assigned.symm)
      · change ((world.withSoloWorker group index _).soloWorker group other).Has
          matchTicketId → _
        rw [World.soloWorker_withSoloWorker]
        split_ifs with same
        · rw [same]
          exact fun has => (SoloMatchmakingWorker.has_erase_iff.mp has).1
        · exact id

/-- A run keeps its worker sound and takes nothing in. -/
theorem SoloApart.run (apart : SoloApart group tickets world (.idle ::ₘ others)) (index : Int)
    (idle : stage'.brings = []) :
    SoloApart group tickets (perform (.soloRun group index) world) (stage' ::ₘ others) := by
  obtain ⟨outcome, after, statuses, run, sound, elsewhere, has⟩ : ∃ outcome after statuses,
      world.soloRun group index = (outcome, after, statuses) ∧
      after.Sound (AssignedTo group tickets index) statuses group.matchmakingRule ∧
      (∀ other ≠ index, ∀ ticket, AssignedTo group tickets other ticket →
        world.ticketStatus ticket = .queued → statuses ticket = .queued) ∧
      ∀ id, after.Has id → (world.soloWorker group index).Has id := by
    rcases (apart.workers index).run with ⟨after, run, -, sound, has⟩ |
      ⟨found, after, run, -, claimed, sound, has⟩
    · exact ⟨_, after, _, run, sound, fun _ _ _ _ => id, has⟩
    · refine ⟨_, after, _, run, sound, fun other different ticket mine queued => ?_,
        has⟩
      refine (moveAll_of_not_mem fun inside => ?_).trans queued
      exact different (mine.2.trans (claimed ticket inside).1.2.symm)
  have performed : perform (.soloRun group index) world =
      (world.withSoloWorker group index after).withTicketStatus statuses := by
    rw [perform, run]
  refine apart.of_idle (precedes_perform _ world) idle (fun other => ?_)
    fun other matchTicketId => ?_
  · rw [performed]
    change ((world.withSoloWorker group index after).soloWorker group other).Sound _ statuses _
    rw [World.soloWorker_withSoloWorker]
    split_ifs with same
    · rw [same]
      exact sound
    · exact (apart.workers other).congr (elsewhere other same)
  · rw [performed]
    change ((world.withSoloWorker group index after).soloWorker group other).Has
      matchTicketId → _
    rw [World.soloWorker_withSoloWorker]
    split_ifs with same
    · rw [same]
      exact has matchTicketId
    · exact id

theorem SoloApart.hand {key : MatchmakingGroupKey} {listed : TicketSet}
    (apart : SoloApart group tickets world (.claimed listed.1 ::ₘ others)) :
    SoloApart group tickets (perform (.enterCreateMatchSession key listed) world)
      (.idle ::ₘ others) :=
  apart.of_idle (precedes_perform _ world) rfl
    (apart.workers_of_same rfl fun _ => id) fun _ _ => id

/-- **Where queued tickets are.** Every section of a thread keeps queued tickets on their
way or with their workers. -/
theorem SoloIssues.apart (distinct : Set.InjOn MatchTicket.matchTicketId tickets)
    (unstuck : stage ≠ .stuck) (issues : SoloIssues group tickets step world stage stage')
    (apart : SoloApart group tickets world (stage ::ₘ others)) :
    SoloApart group tickets (perform step world) (stage' ::ₘ others) := by
  cases issues with
  | calm calm => exact apart.calm calm
  | queue known => exact apart.queue distinct known
  | enqueue pointer => exact apart.enqueue distinct pointer
  | cancel => exact apart.cancel
  | wait | claim | reject => exact apart.run _ rfl
  | hand => exact apart.hand
  | stuck => exact (unstuck rfl).elim

end Apart

/-! ## Batches -/

/-- The batch a thread has not handed over yet. -/
def SoloStage.claims : SoloStage → List MatchTicket
  | .claimed tickets => tickets
  | _ => []

/-- The tickets in batches that are not handed over yet. -/
def claimedTickets (stages : Multiset SoloStage) : Multiset MatchTicket :=
  stages.bind fun stage => stage.claims

@[simp] theorem claimedTickets_cons (stage : SoloStage) (stages : Multiset SoloStage) :
    claimedTickets (stage ::ₘ stages) = stage.claims + claimedTickets stages :=
  Multiset.cons_bind _ _ _

/-- The tickets handed over in a trace. -/
def handedTickets (trace : List (Executed Section World)) : List MatchTicket :=
  trace.flatMap fun executed => executed.command.handed

/-- The tickets in batches, handed over or not. -/
def batchedTickets (trace : List (Executed Section World)) (stages : Multiset SoloStage) :
    Multiset MatchTicket :=
  (handedTickets trace : Multiset MatchTicket) + claimedTickets stages

/-- What a run of a solo worker does: without a match it ends with too few tickets
for one, and a match is a batch. -/
def World.RunsWell (world : World) (group : WorkerGroup) (index : Int) : Prop :=
  match (world.soloRun group index).1 with
  | .incomplete =>
      ((world.soloRun group index).2.1.size : Int) < group.matchmakingRule.matchPlayerCount
  | .matched found => (world.soloWorker group index).IsBatch group.matchmakingRule found
  | .rejected _ => False

/-- The tickets are the batch of a run in the trace. -/
def BatchOfRun (trace : List (Executed Section World)) (group : WorkerGroup)
    (listed : List MatchTicket) : Prop :=
  ∃ run ∈ trace, ∃ index found, run.command = .soloRun group index ∧
    (run.before.soloRun group index).1 = .matched found ∧ listed.Perm found ∧
    (run.before.soloWorker group index).IsBatch group.matchmakingRule listed

/-- Every batch is that of a run, and no ticket is in two batches. -/
structure SoloSeated (group : WorkerGroup) (trace : List (Executed Section World))
    (world : World) (stages : Multiset SoloStage) : Prop where
  runs : ∀ executed ∈ trace, ∀ index, executed.command = .soloRun group index →
    executed.before.RunsWell group index
  claimed : ∀ listed, .claimed listed ∈ stages → BatchOfRun trace group listed
  handed : ∀ executed ∈ trace, ∀ key listed,
    executed.command = .enterCreateMatchSession key listed → BatchOfRun trace group listed.1
  unstuck : .stuck ∉ stages
  seats : (batchedTickets trace stages).Nodup
  engaged : ∀ ticket ∈ batchedTickets trace stages, (world.ticketStatus ticket).engaged = true

section Seated

variable {group : WorkerGroup} {tickets : Set MatchTicket} {world : World}
  {trace : List (Executed Section World)} {stage stage' : SoloStage}
  {others : Multiset SoloStage} {step : Section}

theorem BatchOfRun.later {listed : List MatchTicket} (batch : BatchOfRun trace group listed)
    (more : List (Executed Section World)) : BatchOfRun (trace ++ more) group listed := by
  obtain ⟨run, inside, found⟩ := batch
  exact ⟨run, List.mem_append_left _ inside, found⟩

/-- A section extends the batches by the new ones the thread claims. -/
theorem SoloSeated.extend (seated : SoloSeated group trace world (stage ::ₘ others))
    {new : List MatchTicket} (distinct : new.Nodup)
    (moves : (step.handed : Multiset MatchTicket) + stage'.claims = new + stage.claims)
    (fresh : ∀ ticket ∈ new, (world.ticketStatus ticket).engaged = false ∧
      ((perform step world).ticketStatus ticket).engaged = true)
    (runs : ∀ index, step = .soloRun group index → world.RunsWell group index)
    (claimed : ∀ listed, stage' = .claimed listed →
      BatchOfRun (trace ++ [⟨step, world, perform step world⟩]) group listed)
    (handed : ∀ key listed, step = .enterCreateMatchSession key listed →
      BatchOfRun trace group listed.1)
    (unstuck : stage' ≠ .stuck) :
    SoloSeated group (trace ++ [⟨step, world, perform step world⟩]) (perform step world)
      (stage' ::ₘ others) := by
  have total : batchedTickets (trace ++ [⟨step, world, perform step world⟩]) (stage' ::ₘ others) =
      new + batchedTickets trace (stage ::ₘ others) := by
    simp only [batchedTickets, handedTickets, List.flatMap_append, List.flatMap_singleton,
      ← Multiset.coe_add, claimedTickets_cons]
    rw [add_assoc, ← add_assoc (step.handed : Multiset MatchTicket), moves, add_assoc,
      add_left_comm]
  refine ⟨?_, ?_, ?_, ?_, ?_, ?_⟩
  · intro executed inside index same
    rcases List.mem_append.mp inside with earlier | last
    · exact seated.runs executed earlier index same
    · rw [List.mem_singleton.mp last] at same ⊢
      exact runs index same
  · intro listed inside
    rcases Multiset.mem_cons.mp inside with own | other
    · exact claimed listed own.symm
    · exact (seated.claimed listed (Multiset.mem_cons_of_mem other)).later _
  · intro executed inside key listed same
    rcases List.mem_append.mp inside with earlier | last
    · exact (seated.handed executed earlier key listed same).later _
    · rw [List.mem_singleton.mp last] at same
      exact (handed key listed same).later _
  · intro inside
    rcases Multiset.mem_cons.mp inside with own | other
    · exact unstuck own.symm
    · exact seated.unstuck (Multiset.mem_cons_of_mem other)
  · rw [total]
    refine Multiset.nodup_add.mpr ⟨distinct, seated.seats, Multiset.disjoint_left.mpr
      fun {ticket} inside batched => ?_⟩
    have waiting := (fresh ticket inside).1
    rw [seated.engaged ticket batched] at waiting
    cases waiting
  · intro ticket inside
    rw [total, Multiset.mem_add] at inside
    rcases inside with own | batched
    · exact (fresh ticket own).2
    · exact (precedes_perform step world).engaged (seated.engaged ticket batched)

/-- A section that hands nothing over, by a thread that claims nothing. -/
theorem SoloSeated.keep (seated : SoloSeated group trace world (stage ::ₘ others))
    (silent : step.handed = []) (same : stage'.claims = stage.claims)
    (runs : ∀ index, step = .soloRun group index → world.RunsWell group index)
    (claimed : ∀ listed, stage' = .claimed listed → stage = .claimed listed)
    (handed : ∀ key listed, step ≠ .enterCreateMatchSession key listed)
    (unstuck : stage' ≠ .stuck) :
    SoloSeated group (trace ++ [⟨step, world, perform step world⟩]) (perform step world)
      (stage' ::ₘ others) := by
  refine seated.extend List.nodup_nil ?_ (fun _ => nofun) runs (fun listed own => ?_)
    (fun key listed enters => (handed key listed enters).elim) unstuck
  · rw [silent, same]
  · refine (seated.claimed listed ?_).later _
    rw [claimed listed own]
    exact Multiset.mem_cons_self _ _

theorem SoloApart.runsWell {stages : Multiset SoloStage}
    (apart : SoloApart group tickets world stages) (index : Int) : world.RunsWell group index := by
  rw [World.RunsWell]
  rcases (apart.workers index).run with ⟨after, run, few, -⟩ | ⟨found, after, run, batch, -⟩
  · rw [show world.soloRun group index = _ from run]
    exact few
  · rw [show world.soloRun group index = _ from run]
    exact batch

/-- The tickets of a match were queued and are searching. -/
theorem SoloApart.searching {stages : Multiset SoloStage}
    (apart : SoloApart group tickets world stages) {index : Int} {found : List MatchTicket}
    (outcome : (world.soloRun group index).1 = .matched found) :
    ∀ ticket ∈ found, world.ticketStatus ticket = .queued ∧
      (perform (.soloRun group index) world).ticketStatus ticket = .searching := by
  rcases (apart.workers index).run with ⟨after, run, -⟩ | ⟨batch, after, run, -, queued, -⟩
  · rw [show world.soloRun group index = _ from run] at outcome
    cases outcome
  · rw [show world.soloRun group index = _ from run] at outcome
    cases outcome
    intro ticket inside
    refine ⟨(queued ticket inside).2.1, ?_⟩
    rw [perform, show world.soloRun group index = _ from run]
    exact moveAll_of_mem inside

/-- **What happens to batches.** Every section of a thread keeps the batches apart. -/
theorem SoloIssues.seated (issues : SoloIssues group tickets step world stage stage')
    (apart : SoloApart group tickets world (stage ::ₘ others))
    (seated : SoloSeated group trace world (stage ::ₘ others)) :
    SoloSeated group (trace ++ [⟨step, world, perform step world⟩]) (perform step world)
      (stage' ::ₘ others) := by
  cases issues with
  | calm calm =>
      refine seated.keep ?_ rfl ?_ (fun _ => id) ?_ fun stuck => seated.unstuck (stuck ▸
        Multiset.mem_cons_self _ _)
      · have quiet := calm.apart
        cases step <;> first | rfl | cases quiet
      · rintro index rfl
        cases calm.apart
      · rintro key listed rfl
        cases calm.apart
  | @queue _ ticket known =>
      refine seated.keep rfl ?_ (fun _ => nofun) (fun listed => ?_) (fun _ _ => nofun) ?_
      · split_ifs <;> rfl
      · split_ifs <;> nofun
      · split_ifs <;> nofun
  | enqueue pointer =>
      exact seated.keep rfl rfl (fun _ => nofun) (fun _ => nofun) (fun _ _ => nofun) nofun
  | cancel =>
      exact seated.keep rfl rfl (fun _ => nofun) (fun _ => nofun) (fun _ _ => nofun) nofun
  | wait =>
      exact seated.keep rfl rfl (fun index _ => apart.runsWell index) (fun _ => nofun)
        (fun _ _ => nofun) nofun
  | @claim _ index found listed outcome listing =>
      have well := apart.runsWell index
      have batch : (world.soloWorker group index).IsBatch group.matchmakingRule found := by
        rw [World.RunsWell, outcome] at well
        exact well
      refine seated.extend (listing.nodup_iff.mpr batch.nodup) ?_ (fun ticket inside => ?_)
        (fun other _ => apart.runsWell other) (fun other own => ?_) (fun _ _ => nofun) nofun
      · simp [Section.handed, SoloStage.claims]
      · obtain ⟨queued, searching⟩ := apart.searching outcome ticket (listing.mem_iff.mp inside)
        rw [queued, searching]
        exact ⟨rfl, rfl⟩
      · cases own
        exact ⟨_, List.mem_append_right _ (List.mem_singleton_self _), index, found, rfl, outcome,
          listing, batch.perm listing⟩
  | @reject _ index found outcome =>
      have well := apart.runsWell index
      rw [World.RunsWell, outcome] at well
      exact well.elim
  | @hand _ key listed =>
      refine seated.extend List.nodup_nil ?_ (fun _ => nofun) (fun _ => nofun) (fun _ => nofun)
        (fun key' listed' enters => ?_) nofun
      · simp [Section.handed, SoloStage.claims]
      · cases enters
        exact seated.claimed _ (Multiset.mem_cons_self _ _)
  | stuck => exact (seated.unstuck (Multiset.mem_cons_self _ _)).elim

end Seated

/-! ## Every interleaving -/

/-- What a solo worker does with the tickets of a run after its section. -/
def SoloMatchmakingWorkerGroup.conclude (group : WorkerGroup) (order : IterationOrder MatchTicket) :
    SoloMatchmakingWorker.JobOutcome → Operation Unit
  | .incomplete => pure ()
  | .matched found =>
      MatchSessionManager.createMatchSession group.workerGroupKey (TicketSet.ofList order found)
  | .rejected found =>
      forAll (TicketSet.ofList order found).1 (MatchmakingManager.onFailedMatchmaking .solo)

/-- A run returns false when its section found too few tickets, whatever happens later. -/
theorem SoloMatchmakingWorkerGroup.doWorkerAsyncJob_eq {group : WorkerGroup} {index : Int}
    (present : hasWorker group.workerCount index = true) (order : IterationOrder MatchTicket) :
    doWorkerAsyncJob group index order = do
      let outcome ← Program.atomically (.soloRun group index)
        fun world => (world.soloRun group index).1
      conclude group order outcome
      return decide (outcome ≠ .incomplete) := by
  rw [doWorkerAsyncJob, present, if_neg (by decide)]
  refine congrArg _ (funext fun outcome => ?_)
  cases outcome <;> rfl

section Runs

variable {group : WorkerGroup} {tickets : Set MatchTicket} {statuses : TicketStatuses}

theorem SoloApart.initial (players : 1 ≤ group.matchmakingRule.matchPlayerCount) :
    SoloApart group tickets { ticketStatus := statuses } 0 :=
  ⟨fun _ => ⟨fun _ _ => nofun, fun _ _ => nofun, fun _ _ => rfl, players⟩,
    by simp [broughtTickets], by simp [broughtTickets]⟩

theorem SoloSeated.initial {world : World} : SoloSeated group [] world 0 := by
  constructor <;> simp [batchedTickets, handedTickets, claimedTickets]

/-- A thread joins with empty hands. -/
theorem SoloApart.join {world : World} {stages : Multiset SoloStage}
    (apart : SoloApart group tickets world stages) :
    SoloApart group tickets world (.idle ::ₘ stages) :=
  ⟨apart.workers, by simpa [SoloStage.brings] using apart.brought,
    by simpa [SoloStage.brings] using apart.once⟩

theorem SoloSeated.join {trace : List (Executed Section World)} {world : World}
    {stages : Multiset SoloStage} (seated : SoloSeated group trace world stages) :
    SoloSeated group trace world (.idle ::ₘ stages) := by
  refine ⟨seated.runs, fun listed inside => ?_, seated.handed, ?_, ?_, ?_⟩
  · exact seated.claimed listed ((Multiset.mem_cons.mp inside).resolve_left nofun)
  · exact fun inside => seated.unstuck ((Multiset.mem_cons.mp inside).resolve_left nofun)
  · simpa [batchedTickets, SoloStage.claims] using seated.seats
  · simpa [batchedTickets, SoloStage.claims] using seated.engaged

/-- Both invariants of a solo group. -/
def SoloSafe (group : WorkerGroup) (tickets : Set MatchTicket)
    (trace : List (Executed Section World)) (world : World) (stages : Multiset SoloStage) : Prop :=
  SoloApart group tickets world stages ∧ SoloSeated group trace world stages

/-- The invariants of a solo group hold in every interleaving. -/
theorem SoloGroupExecution.safe (players : 1 ≤ group.matchmakingRule.matchPlayerCount)
    (distinct : Set.InjOn MatchTicket.matchTicketId tickets)
    {trace : List (Executed Section World)} {pool : Pool Section World}
    (execution : SoloGroupExecution group tickets statuses trace pool) :
    ∃ stages, SoloSafe group tickets trace pool.state stages := by
  have kept : ∀ step world stage stage', World.SessionsDeparted world →
      SoloIssues group tickets step world stage stage' → (perform step world).SessionsDeparted :=
    fun _ _ _ _ departed issues => issues.sessionsDeparted departed
  have begins : World.SessionsDeparted { ticketStatus := statuses } := by
    intro matchId session found
    cases found
  have initially : SoloSafe group tickets [] { ticketStatus := statuses } 0 :=
    ⟨SoloApart.initial players, SoloSeated.initial⟩
  refine (Execution.asserted kept (fun _ _ _ => True) World.Precedes.refl
    (fun _ _ _ => World.Precedes.trans) precedes_perform begins initially ?_ ?_ execution).2.2
  · rintro program ⟨call, within, rfl⟩
    refine ⟨.idle, fun seen => ?_, fun _ _ _ ⟨apart, seated⟩ => ⟨apart.join, seated.join⟩⟩
    exact Program.Follows.mono (fun _ _ _ _ => trivial) (SoloGroupCall.soloObeys within)
  · rintro trace world others step stage stage' - issues - ⟨apart, seated⟩
    refine ⟨issues.apart distinct ?_ apart, issues.seated apart seated⟩
    rintro rfl
    exact seated.unstuck (Multiset.mem_cons_self _ _)

/-- **Solo matches.** In every interleaving of calls on a solo group, with tickets of
distinct ids and any statuses in the beginning: all requests of its workers carry queued
tickets. A run that finds no match leaves too few tickets for one in its worker and returns
false; otherwise it finds a batch. Every list handed over is the batch of a run. No ticket is
in two of the lists or twice in one, and none of a ticket that was cancelled. -/
theorem solo_batches (players : 1 ≤ group.matchmakingRule.matchPlayerCount)
    (distinct : Set.InjOn MatchTicket.matchTicketId tickets)
    {trace : List (Executed Section World)} {pool : Pool Section World}
    (execution : SoloGroupExecution group tickets statuses trace pool) :
    (∀ index, ∀ request ∈ (pool.state.soloWorker group index).waitingQueue.values ++
        (pool.state.soloWorker group index).sendProgressingList.values, ∃ ticket,
      request.matchTicketPtr = some ticket ∧ pool.state.ticketStatus ticket = .queued) ∧
    (∀ executed ∈ trace, ∀ index, executed.command = .soloRun group index →
      executed.before.RunsWell group index) ∧
    (∀ index order, hasWorker group.workerCount index = true →
      SoloMatchmakingWorkerGroup.doWorkerAsyncJob group index order = do
        let outcome ← Program.atomically (.soloRun group index)
          fun world => (world.soloRun group index).1
        SoloMatchmakingWorkerGroup.conclude group order outcome
        return decide (outcome ≠ .incomplete)) ∧
    (∀ executed ∈ trace, ∀ key listed, executed.command = .enterCreateMatchSession key listed →
      BatchOfRun trace group listed.1) ∧
    (handedTickets trace).Nodup ∧
    ∀ executed ∈ trace, ∀ index ticket, executed.command = .soloCancel group index ticket →
      (executed.before.soloCancel group index ticket).1 = true → ticket ∉ handedTickets trace := by
  obtain ⟨stages, apart, seated⟩ := execution.safe players distinct
  refine ⟨fun index request inside => ?_, seated.runs, fun index order present =>
    SoloMatchmakingWorkerGroup.doWorkerAsyncJob_eq present order, seated.handed, ?_, ?_⟩
  · have carried : ∃ entry, (entry ∈ (pool.state.soloWorker group index).waitingQueue.entries ∨
        entry ∈ (pool.state.soloWorker group index).sendProgressingList.entries) ∧
        entry.2 = request := by
      rcases List.mem_append.mp inside with waits | progresses
      · obtain ⟨entry, listed, same⟩ := List.mem_map.mp waits
        exact ⟨entry, Or.inl listed, same⟩
      · obtain ⟨entry, listed, same⟩ := List.mem_map.mp progresses
        exact ⟨entry, Or.inr listed, same⟩
    obtain ⟨entry, listed, rfl⟩ := carried
    obtain ⟨ticket, pointer, -, -, queued⟩ := (apart.workers index).carries_of_mem listed
    exact ⟨ticket, pointer, queued⟩
  · exact Multiset.coe_nodup.mp (Multiset.nodup_add.mp seated.seats).1
  · intro executed inside index ticket command success handed
    have engaged := seated.engaged ticket (Multiset.mem_add.mpr (Or.inl handed))
    have cancelled : executed.after.ticketStatus ticket = .cancelled := by
      rw [execution.after_eq executed inside, command, perform]
      cases can : canChangeStatus (executed.before.ticketStatus ticket) .cancelled with
      | false =>
          rw [World.soloCancel_of_cannot can] at success
          cases success
      | true =>
          rw [World.soloCancel_of_can can]
          exact Function.update_self _ _ _
    have later := (execution.related_current World.Precedes.refl
      (fun _ _ _ => World.Precedes.trans) (fun _ _ _ => precedes_perform _ _) executed
      inside).advances ticket
    rw [cancelled] at later
    rw [later.of_terminal rfl] at engaged
    cases engaged

end Runs

/-! Two players queue, one of them cancels, and a third completes the match. -/

private def pairGroup : WorkerGroup :=
  ⟨(0, "Arena"), ⟨"Arena", 2, 1, MatchmakingRule.inRange_two⟩, 1, Nat.one_pos⟩

private def doublesTicket (playerKey : PlayerKey) : MatchTicket :=
  ⟨0, { soloRequest playerKey with matchTicketId := playerKey, matchZoneId := "Arena" }, 0⟩

private def pairTickets : Set MatchTicket := Set.range doublesTicket

private def pairCalls : List SoloGroupCall :=
  [.enqueueJobRequest (doublesTicket 1).matchmakingRequest,
    .enqueueJobRequest (doublesTicket 2).matchmakingRequest, .cancelMatchTicket (doublesTicket 1),
    .enqueueJobRequest (doublesTicket 3).matchmakingRequest,
    .doWorkerAsyncJob 0 (IterationOrder.asListed _)]

private def doublesRun : List (Executed Section World) × Pool Section World :=
  Pool.follow perform [0, 0, 0, 1, 1, 1, 2, 3, 3, 3, 4, 4]
    ⟨{ ticketStatus := fun _ => .none }, pairCalls.map (SoloGroupCall.program pairGroup)⟩

theorem solo_batches_pair :
    handedTickets doublesRun.1 = [doublesTicket 2, doublesTicket 3] ∧
      (handedTickets doublesRun.1).Nodup := by
  have played :
      SoloGroupExecution pairGroup pairTickets (fun _ => .none) doublesRun.1 doublesRun.2 := by
    refine Execution.play (fun program inside => ?_) _
    obtain ⟨call, member, rfl⟩ := List.mem_map.mp inside
    refine ⟨call, ?_, rfl⟩
    simp only [pairCalls, List.mem_cons, List.not_mem_nil, or_false] at member
    rcases member with rfl | rfl | rfl | rfl | rfl
    · rintro ticket ⟨⟩
      exact ⟨1, rfl⟩
    · rintro ticket ⟨⟩
      exact ⟨2, rfl⟩
    · exact ⟨1, rfl⟩
    · rintro ticket ⟨⟩
      exact ⟨3, rfl⟩
    · trivial
  have distinct : Set.InjOn MatchTicket.matchTicketId pairTickets := by
    rintro _ ⟨first, rfl⟩ _ ⟨second, rfl⟩ same
    exact congrArg doublesTicket same
  exact ⟨by decide +kernel, (solo_batches (by decide) distinct played).2.2.2.2.1⟩

end MatchmakingMvp
