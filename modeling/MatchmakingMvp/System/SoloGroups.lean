import MatchmakingMvp.System.PartyGroups

/-! # Solo groups hold exactly their queued tickets

One call after another with server-issued ids, the worker a solo ticket is
assigned to holds it exactly while it is queued, from the moment its thread hands
it over (`MatchmakingMvp.World.SoloHeld`).
-/

namespace MatchmakingMvp

open Foundation

variable {deployment : Deployment} {permits : MatchTicketRequest → Prop}

/-- The ticket a thread has made and not handed to its group yet. -/
def Stage.submits : Stage → Option (QueueKind × MatchTicket)
  | .starting queue ticket _ => some (queue, ticket)
  | _ => none

/-- Only the ticket in the thread's hands has no status yet. -/
def World.Prompt (world : World) (stage : Stage) : Prop :=
  ∀ queue ticket, world.Made queue ticket → world.ticketStatus ticket = .none →
    stage.submits = some (queue, ticket)

/-- The queued tickets a solo group has been handed. -/
def World.HandedTo (world : World) (stage : Stage) (key : MatchmakingGroupKey)
    (ticket : MatchTicket) : Prop :=
  world.QueuedIn .solo key ticket ∧ stage.submits ≠ some (.solo, ticket)

/-- Every solo worker holds the tickets handed to its group that are assigned to it. -/
structure World.SoloHeld (deployment : Deployment) (world : World) (stage : Stage) : Prop where
  workers : ∀ group : WorkerGroup,
    deployment.getWorkerGroup .solo group.workerGroupKey = some group → ∀ index,
    (world.soloWorker group index).Holds fun ticket =>
      world.HandedTo stage group.workerGroupKey ticket ∧
        index = getWorkerIndex group.workerCount ticket.matchTicketId
  submitting : ∀ ticket, stage.submits = some (.solo, ticket) → world.Made .solo ticket ∧
    (world.ticketStatus ticket = .none ∨ world.ticketStatus ticket = .queued)

section Frames

variable {before after : World} {stage stage' : Stage}

/-- Sections that leave the solo workers and the tickets handed to them alone. -/
theorem World.SoloHeld.of_same (held : before.SoloHeld deployment stage)
    (workers : after.soloWorkers = before.soloWorkers)
    (handed : ∀ ticket, after.Queued .solo ticket ∧ stage'.submits ≠ some (.solo, ticket) ↔
      before.Queued .solo ticket ∧ stage.submits ≠ some (.solo, ticket))
    (submitting : ∀ ticket, stage'.submits = some (.solo, ticket) → after.Made .solo ticket ∧
      (after.ticketStatus ticket = .none ∨ after.ticketStatus ticket = .queued)) :
    after.SoloHeld deployment stage' := by
  refine ⟨fun group served index => ?_, submitting⟩
  rw [World.soloWorker, workers]
  refine (held.workers group served index).congr fun ticket => ?_
  simp only [World.HandedTo, World.QueuedIn]
  have same := handed ticket
  tauto

/-- Sections that change one solo worker and its tickets. -/
theorem World.SoloHeld.of_update (held : before.SoloHeld deployment stage) {group : WorkerGroup}
    {index : Int} {worker : SoloMatchmakingWorker}
    (served : deployment.getWorkerGroup .solo group.workerGroupKey = some group)
    (workers : after.soloWorkers = (before.withSoloWorker group index worker).soloWorkers)
    (mine : worker.Holds fun ticket => after.HandedTo stage' group.workerGroupKey ticket ∧
      index = getWorkerIndex group.workerCount ticket.matchTicketId)
    (others : ∀ ticket : MatchTicket, ¬ (ticket.matchingGroupKey = group.workerGroupKey ∧
        index = getWorkerIndex group.workerCount ticket.matchTicketId) →
      (after.Queued .solo ticket ∧ stage'.submits ≠ some (.solo, ticket) ↔
        before.Queued .solo ticket ∧ stage.submits ≠ some (.solo, ticket)))
    (idle : ∀ ticket, stage'.submits ≠ some (.solo, ticket)) :
    after.SoloHeld deployment stage' := by
  refine ⟨fun other served' index' => ?_, fun ticket submits => (idle ticket submits).elim⟩
  rw [World.soloWorker, workers, World.withSoloWorker_soloWorkers]
  by_cases own : other.workerGroupKey = group.workerGroupKey
  · have same : other = group := by
      rw [own, served, Option.some.injEq] at served'
      exact served'.symm
    subst same
    rw [Function.update_self]
    by_cases base : index' = index
    · subst base
      rw [Function.update_self]
      exact mine
    · rw [Function.update_of_ne base]
      refine (held.workers other served index').congr fun ticket => ?_
      simp only [World.HandedTo, World.QueuedIn]
      by_cases assigned : index' = getWorkerIndex other.workerCount ticket.matchTicketId
      · have same := others ticket fun mine => base (assigned.trans mine.2.symm)
        tauto
      · tauto
  · rw [Function.update_of_ne own]
    refine (held.workers other served' index').congr fun ticket => ?_
    simp only [World.HandedTo, World.QueuedIn]
    by_cases keyed : ticket.matchingGroupKey = other.workerGroupKey
    · have same := others ticket fun mine => own (keyed.symm.trans mine.1)
      tauto
    · tauto

end Frames

section Steps

variable {step : Section} {world : World} {stage stage' : Stage}

/-- How a thread comes by a ticket to submit and how it lets go of it. -/
theorem Issues.submits_cases (issues : Issues deployment permits step world stage stage') :
    (∃ queue request, step = .newMatchTicket queue request.worldNo request ∧
      stage.submits = none ∧
      stage'.submits = some (queue, world.newMatchTicket request.worldNo request)) ∨
    (perform step world).matchTickets = world.matchTickets ∧
      (stage'.submits = stage.submits ∨ stage'.submits = none ∧
        ∀ queue ticket, stage.submits = some (queue, ticket) →
          (perform step world).ticketStatus ticket ≠ .none) := by
  cases issues with
  | neutral neutral =>
      exact Or.inr ⟨(sameMatchmaking_of_neutral neutral world).matchTickets, Or.inl rfl⟩
  | make => exact Or.inl ⟨_, _, rfl, rfl, rfl⟩
  | soloEnqueue carried =>
      refine Or.inr ⟨rfl, ?_⟩
      split_ifs
      · refine Or.inr ⟨rfl, fun queue ticket submits => ?_⟩
        cases submits
        exact carried.started rfl
      · exact Or.inl rfl
  | @partyEnqueue _ ticket group index =>
      refine Or.inr ⟨rfl, ?_⟩
      split_ifs with accepted
      · refine Or.inr ⟨rfl, fun queue other submits => ?_⟩
        cases submits
        have statuses : (perform (.partyEnqueue group index ticket.matchmakingRequest ticket)
            world).ticketStatus = (ticket.changeStatus .queued world.ticketStatus).2 :=
          PartyMatchmakingWorkerGroup.enqueueSection_statuses.trans (if_pos accepted)
        rw [statuses]
        exact MatchTicket.ne_none_of_changeStatus rfl
      · exact Or.inl rfl
  | abandon =>
      refine Or.inr ⟨rfl, Or.inr ⟨rfl, fun queue other submits => ?_⟩⟩
      cases submits
      exact MatchTicket.ne_none_of_changeStatus rfl
  | change =>
      refine Or.inr ⟨rfl, Or.inl ?_⟩
      split_ifs <;> rfl
  | _ => exact Or.inr ⟨rfl, Or.inl rfl⟩

theorem Issues.prompt (issues : Issues deployment permits step world stage stage')
    (prompt : world.Prompt stage) : (perform step world).Prompt stage' := by
  intro queue ticket made unqueued
  have before : world.ticketStatus ticket = .none := by
    by_contra started
    exact ((precedes_perform step world).advances ticket).ne_none started unqueued
  rcases issues.submits_cases with ⟨owner, request, rfl, free, submits⟩ | ⟨same, rest⟩
  · rcases made_newMatchTicket_iff.mp made with ⟨rfl, rfl⟩ | earlier
    · exact submits
    · have submitting := prompt queue ticket earlier before
      rw [free] at submitting
      cases submitting
  · rw [World.Made, same] at made
    have submitting := prompt queue ticket made before
    rcases rest with kept | ⟨-, started⟩
    · rw [kept, submitting]
    · exact (started queue ticket submitting unqueued).elim

section Groups

variable {group : WorkerGroup} {ticket : MatchTicket} {index : Int}
  (sound : world.Sound deployment permits) (serverIssues : ServerIssues permits)
  (held : world.SoloHeld deployment stage)

include sound serverIssues held

/-- **A submitted ticket** is queued at its worker. -/
theorem World.SoloHeld.enqueue {base : Option Int}
    (submits : stage = .starting .solo ticket base)
    (carried : Carried deployment world .solo group ticket)
    (assigned : index = getWorkerIndex group.workerCount ticket.matchTicketId) :
    (world.soloEnqueue group index ticket.matchmakingRequest ticket).1 = true ∧
      (perform (.soloEnqueue group index ticket.matchmakingRequest ticket) world).SoloHeld
        deployment (.free none) := by
  subst submits
  have keyed := Deployment.getWorkerGroup_key carried.served
  have served : deployment.getWorkerGroup .solo group.workerGroupKey = some group :=
    keyed ▸ carried.served
  have queued : world.ticketStatus ticket = .queued :=
    (held.submitting ticket rfl).2.resolve_left (carried.started rfl)
  obtain ⟨free, holds⟩ := (held.workers group served index).insertOrAssign
    fun other inside same => inside.1.2 (by
      rw [(sound.eq_of_matchTicketId serverIssues inside.1.1.1.1 carried.made same).2]
      rfl)
  have result := World.soloEnqueue_of_queued group index queued
  rw [if_neg (by simp [free])] at result
  have handed : ∀ other, world.Queued .solo other ∧
      (Stage.free none).submits ≠ some (.solo, other) ↔
      (world.Queued .solo other ∧
        (Stage.starting .solo ticket base).submits ≠ some (.solo, other)) ∨ other = ticket := by
    intro other
    by_cases own : other = ticket
    · subst own
      exact iff_of_true ⟨⟨carried.made, queued⟩, nofun⟩ (Or.inr rfl)
    · simp [Stage.submits, own, Ne.symm own]
  refine ⟨by rw [result], held.of_update served (by rw [perform, result])
    (holds.congr fun other => ?_) (fun other elsewhere => ?_) nofun⟩
  · have mine := handed other
    simp only [World.HandedTo, World.QueuedIn]
    constructor
    · rintro ⟨⟨⟨inside, keyed⟩, rest⟩, base⟩
      rcases mine.mp ⟨inside, rest⟩ with ⟨before, rest⟩ | own
      · exact Or.inl ⟨⟨⟨before, keyed⟩, rest⟩, base⟩
      · exact Or.inr own
    · rintro (⟨⟨⟨inside, keyed⟩, rest⟩, base⟩ | rfl)
      · exact ⟨⟨⟨inside, keyed⟩, nofun⟩, base⟩
      · exact ⟨⟨⟨⟨carried.made, queued⟩, keyed.symm⟩, nofun⟩, assigned⟩
  · refine (handed other).trans (or_iff_left ?_)
    rintro rfl
    exact elsewhere ⟨keyed.symm, assigned⟩

/-- **A cancelled ticket** leaves its worker. -/
theorem World.SoloHeld.cancel (free : stage.submits = none) (made : world.Made .solo ticket)
    (served : deployment.getWorkerGroup .solo ticket.matchingGroupKey = some group)
    (assigned : index = getWorkerIndex group.workerCount ticket.matchTicketId)
    (started : world.ticketStatus ticket ≠ .none) :
    (perform (.soloCancel group index ticket) world).SoloHeld deployment stage := by
  have keyed := Deployment.getWorkerGroup_key served
  have found : deployment.getWorkerGroup .solo group.workerGroupKey = some group :=
    keyed ▸ served
  have idle : ∀ other, stage.submits ≠ some (.solo, other) := fun other submits => by
    rw [free] at submits
    cases submits
  cases can : canChangeStatus (world.ticketStatus ticket) .cancelled with
  | false =>
      have same : perform (.soloCancel group index ticket) world = world := by
        simp only [perform, World.soloCancel, SoloMatchmakingWorker.cancel_of_cannot can,
          World.withSoloWorker_self]
        rfl
      rw [same]
      exact held
  | true =>
      have result : world.soloCancel group index ticket =
          (true, (world.soloWorker group index).erase ticket,
            Function.update world.ticketStatus ticket .cancelled) :=
        SoloMatchmakingWorker.cancel_of_can can
      have statuses : (perform (.soloCancel group index ticket) world).ticketStatus =
          Function.update world.ticketStatus ticket .cancelled := by
        rw [perform, result]
        rfl
      have still : ∀ other, (perform (.soloCancel group index ticket) world).Queued .solo other ↔
          world.Queued .solo other ∧ other ≠ ticket := by
        intro other
        by_cases own : other = ticket
        · subst own
          simp [World.Queued, statuses]
        · simp only [World.Queued, statuses, Function.update_of_ne own, ne_eq, own,
            not_false_eq_true, and_true]
          rfl
      refine held.of_update found (by rw [perform, result]; rfl)
        (((held.workers group found index).erase fun other inside same =>
          (sound.eq_of_matchTicketId serverIssues inside.1.1.1.1 made same).2).congr
          fun other => ?_) (fun other elsewhere => ?_) idle
      · simp only [World.HandedTo, World.QueuedIn, still]
        tauto
      · rw [still]
        refine and_congr_left fun _ => and_iff_left ?_
        rintro rfl
        exact elsewhere ⟨keyed.symm, assigned⟩

/-- **A run of a worker** claims tickets that were handed to the worker, or
changes no ticket. -/
theorem World.SoloHeld.run (free : stage.submits = none) (free' : stage'.submits = none)
    (served : deployment.getWorkerGroup .solo group.workerGroupKey = some group) :
    ((world.soloRun group index).1 = .incomplete ∧
      (perform (.soloRun group index) world).ticketStatus = world.ticketStatus ∨
      ∃ tickets, (world.soloRun group index).1 = .matched tickets ∧ tickets.Nodup ∧
        (∀ ticket ∈ tickets, world.ticketStatus ticket = .queued) ∧
        (perform (.soloRun group index) world).ticketStatus =
          moveAll tickets .searching world.ticketStatus) ∧
    (perform (.soloRun group index) world).SoloHeld deployment stage' := by
  have filled := (held.workers group served index).filled
    (fun first second left right same => (sound.eq_of_matchTicketId serverIssues
      left.1.1.1.1 right.1.1.1.1 same).2) group.matchmakingRule
  obtain ⟨tickets, ticketsOf, nodup, inside, rest⟩ := filled.progressing
  have idle : ∀ {stage : Stage}, stage.submits = none →
      ∀ other, stage.submits ≠ some (.solo, other) := fun free other submits => by
    rw [free] at submits
    cases submits
  have queued : ∀ ticket ∈ tickets, world.ticketStatus ticket = .queued :=
    fun ticket member => (inside ticket member).1.1.1.2
  have searched := SoloMatchmakingWorker.searchTickets_of_queued ticketsOf nodup queued
  rcases SoloMatchmakingWorker.doWorkerAsyncJob_cases group.matchmakingRule
    (world.soloWorker group index) world.ticketStatus with
    ⟨-, run⟩ | ⟨-, ⟨-, run⟩ | ⟨failure, -⟩⟩
  · have result : world.soloRun group index = (.incomplete,
        (world.soloWorker group index).filled group.matchmakingRule, world.ticketStatus) := run
    have statuses : (perform (.soloRun group index) world).ticketStatus = world.ticketStatus := by
      rw [perform, result]
      rfl
    have still : ∀ other, (perform (.soloRun group index) world).Queued .solo other ↔
        world.Queued .solo other := fun other => by
      rw [World.Queued, statuses]
      rfl
    refine ⟨Or.inl ⟨by rw [result], statuses⟩, held.of_update served (by rw [perform, result]; rfl)
      (filled.congr fun other => ?_) (fun other _ => ?_) (idle free')⟩
    · simp only [World.HandedTo, World.QueuedIn, still, idle free, idle free', ne_eq,
        not_false_eq_true]
    · simp only [still, idle free, idle free', ne_eq, not_false_eq_true]
  · rw [searched] at run
    have result : world.soloRun group index = (.matched tickets,
        ⟨((world.soloWorker group index).filled group.matchmakingRule).waitingQueue,
          OrderedMap.empty⟩, moveAll tickets .searching world.ticketStatus) := run
    have statuses : (perform (.soloRun group index) world).ticketStatus =
        moveAll tickets .searching world.ticketStatus := by
      rw [perform, result]
      rfl
    have still : ∀ other, (perform (.soloRun group index) world).Queued .solo other ↔
        world.Queued .solo other ∧ other ∉ tickets := by
      intro other
      by_cases own : other ∈ tickets
      · simp [World.Queued, statuses, moveAll_of_mem own, own]
      · simp only [World.Queued, statuses, moveAll_of_not_mem own, own, not_false_eq_true,
          and_true]
        rfl
    refine ⟨Or.inr ⟨tickets, by rw [result], nodup, queued, statuses⟩,
      held.of_update served (by rw [perform, result]; rfl) (rest.congr fun other => ?_)
      (fun other elsewhere => ?_) (idle free')⟩
    · simp only [World.HandedTo, World.QueuedIn, still, idle free, idle free', ne_eq,
        not_false_eq_true]
      tauto
    · simp only [still, idle free, idle free', ne_eq, not_false_eq_true, and_true]
      refine and_iff_left fun member => elsewhere ?_
      exact ⟨(inside other member).1.1.2, (inside other member).2⟩
  · rw [searched] at failure
    cases failure

end Groups

/-- Sections that touch neither the solo workers nor the waiting solo tickets. -/
theorem World.SoloHeld.keep (held : world.SoloHeld deployment stage) (step : Section)
    (submits : stage'.submits = stage.submits)
    (workers : (perform step world).soloWorkers = world.soloWorkers)
    (made : (perform step world).matchTickets = world.matchTickets)
    (same : ∀ ticket, world.Made .solo ticket → (world.ticketStatus ticket).departed = false →
      (perform step world).ticketStatus ticket = world.ticketStatus ticket) :
    (perform step world).SoloHeld deployment stage' := by
  refine held.of_same workers (fun ticket => ?_) fun ticket submitting => ?_
  · rw [submits]
    exact and_congr_left fun _ => World.queued_iff made
      (fun ticket solo waits => Or.inl (same ticket solo waits)) ticket
  · rw [submits] at submitting
    obtain ⟨solo, status⟩ := held.submitting ticket submitting
    refine ⟨perform_made solo, ?_⟩
    rw [same ticket solo (by rcases status with status | status <;> rw [status] <;> rfl)]
    exact status

/-- A new ticket is its thread's to submit. -/
theorem World.SoloHeld.make {entry : Option (MatchId × MatchSession)}
    (held : world.SoloHeld deployment (.free entry))
    (sound : world.Sound deployment permits) (queue : QueueKind) (request : MatchTicketRequest) :
    (perform (.newMatchTicket queue request.worldNo request) world).SoloHeld deployment
      (.starting queue (world.newMatchTicket request.worldNo request) none) := by
  have unmade := sound.newMatchTicket_not_made .solo request.worldNo request
  have unqueued := sound.newMatchTicket_status request.worldNo request
  refine held.of_same rfl (fun ticket => ?_) fun ticket submitting => ?_
  · simp only [World.Queued, made_newMatchTicket_iff]
    constructor
    · rintro ⟨⟨⟨-, rfl⟩ | made, queued⟩, -⟩
      · cases unqueued.symm.trans queued
      · exact ⟨⟨made, queued⟩, by rintro ⟨⟩⟩
    · rintro ⟨⟨made, queued⟩, -⟩
      refine ⟨⟨Or.inr made, queued⟩, fun submits => unmade ?_⟩
      cases submits
      exact made
  · cases submitting
    exact ⟨List.mem_cons_self, Or.inl unqueued⟩

/-- The thread queues the ticket it submits. -/
theorem World.SoloHeld.queue {ticket : MatchTicket} {base : Option Int}
    (held : world.SoloHeld deployment (.starting .solo ticket base))
    (made : world.Made .solo ticket) :
    (perform (.changeTicketStatus ticket .queued) world).SoloHeld deployment
      (.starting .solo ticket base) := by
  have others : ∀ other, other ≠ ticket →
      (perform (.changeTicketStatus ticket .queued) world).ticketStatus other =
        world.ticketStatus other := fun other => MatchTicket.changeStatus_of_ne
  refine held.of_same rfl (fun other => and_congr_left fun foreign => ?_) fun other submitting => ?_
  · rw [World.Queued, others other fun same => foreign (same ▸ rfl)]
    rfl
  · cases submitting
    refine ⟨made, Or.inr ?_⟩
    simp only [perform, World.withTicketStatus_ticketStatus]
    rcases (held.submitting ticket rfl).2 with unqueued | queued
    · rw [MatchTicket.changeStatus_of_can (by rw [unqueued]; rfl)]
      exact Function.update_self ..
    · rw [MatchTicket.changeStatus_of_cannot (by rw [queued]; rfl)]
      exact queued

/-- The thread gives its ticket up. -/
theorem World.SoloHeld.abandon {queue : QueueKind} {ticket : MatchTicket} {base : Option Int}
    (held : world.SoloHeld deployment (.starting queue ticket base))
    (sound : world.Sound deployment permits) (made : world.Made queue ticket) :
    (perform (.changeTicketStatus ticket .failed) world).SoloHeld deployment (.free none) := by
  have others : ∀ other, other ≠ ticket →
      (perform (.changeTicketStatus ticket .failed) world).ticketStatus other =
        world.ticketStatus other := fun other => MatchTicket.changeStatus_of_ne
  have departed : ((perform (.changeTicketStatus ticket .failed) world).ticketStatus
      ticket).departed = true := MatchTicket.departed_of_changeStatus_failed
  refine held.of_same rfl (fun other => ?_) (by rintro _ ⟨⟩)
  by_cases own : other = ticket
  · subst own
    refine iff_of_false ?_ ?_
    · rintro ⟨queued, -⟩
      rw [queued.2] at departed
      cases departed
    · rintro ⟨queued, foreign⟩
      cases queue with
      | solo => exact foreign rfl
      | party => exact sound.party_ne_solo made queued.1 rfl
  · refine and_congr ?_ (iff_of_true (by rintro ⟨⟩) fun submits => ?_)
    · rw [World.Queued, others other own]
      rfl
    · cases submits
      exact own rfl

theorem Issues.soloHeld (issues : Issues deployment permits step world stage stage')
    (sound : world.Sound deployment permits) (serverIssues : ServerIssues permits)
    (held : world.SoloHeld deployment stage) (prompt : world.Prompt stage) :
    (perform step world).SoloHeld deployment stage' := by
  cases issues with
  | neutral neutral =>
      have same := sameMatchmaking_of_neutral neutral world
      exact held.keep step rfl same.soloWorkers same.matchTickets fun ticket _ _ => by
        rw [same.ticketStatus]
  | @make _ _ queue request permitted single => exact held.make sound queue request
  | queue made served => exact held.queue made
  | soloEnqueue carried assigned =>
      obtain ⟨accepted, enqueued⟩ := held.enqueue sound serverIssues rfl carried assigned
      rw [if_pos accepted]
      exact enqueued
  | @partyEnqueue _ ticket group index carried =>
      have still : ∀ other, (perform (.partyEnqueue group index ticket.matchmakingRequest ticket)
          world).Queued .solo other ↔ world.Queued .solo other :=
        World.queued_iff rfl fun other solo _ => Or.inl
          (PartyMatchmakingWorkerGroup.enqueueSection_of_ne
            (sound.party_ne_solo carried.made solo).symm)
      split_ifs
      · refine held.of_same rfl (fun other => and_congr (still other) ?_) (by rintro _ ⟨⟩)
        exact iff_of_true (by rintro ⟨⟩) (by rintro ⟨⟩)
      · exact held.of_same rfl (fun other => and_congr_left fun _ => still other) (by rintro _ ⟨⟩)
  | abandon made => exact held.abandon sound made
  | soloCancel made served assigned =>
      refine held.cancel sound serverIssues rfl made served assigned fun unqueued => ?_
      cases prompt _ _ made unqueued
  | partyCancel made =>
      exact held.keep _ rfl rfl rfl fun _ solo _ =>
        PartyMatchmakingWorkerGroup.cancelMatchTicket_of_ne (sound.party_ne_solo made solo).symm
  | soloWait served | soloClaim served | soloReject served =>
      exact (held.run sound serverIssues rfl rfl served).2
  | partyRefuse refused =>
      rw [World.partyCommit_of_refused refused]
      exact held
  | @partyClaim _ _ group requests tickets _ committed carried requested =>
      subst requested
      refine held.keep _ rfl rfl rfl fun ticket solo _ => ?_
      rcases PartyMatchmakingWorkerGroup.tryCommit_cases _ with
        run | ⟨requests, claimed, same, ticketsOf, -, -, -, run⟩
      · rw [World.partyCommit, run] at committed
        cases committed
      · obtain rfl := List.map_injective_iff.mpr (Option.some_injective _) same
        obtain rfl := (ticketsOf_matchmakingRequest _).unique ticketsOf
        simp only [perform, World.partyCommit, run]
        exact moveAll_of_not_mem fun member =>
          sound.party_ne_solo (carried ticket member).made solo rfl
  | fail made departed =>
      refine held.keep _ rfl rfl rfl fun other solo waits => MatchTicket.changeStatus_of_ne ?_
      rintro rfl
      rw [departed] at waits
      cases waits
  | require engaged =>
      exact held.keep _ rfl rfl rfl fun _ _ waits =>
        World.changeSessionStatus_of_not_departed engaged waits
  | change engaged =>
      refine held.keep _ ?_ rfl rfl fun _ _ waits =>
        World.changeSessionStatus_of_not_departed engaged waits
      split_ifs <;> rfl
  | _ => exact held.keep _ rfl rfl rfl fun _ _ _ => rfl

end Steps

end MatchmakingMvp
