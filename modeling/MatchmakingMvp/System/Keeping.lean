import MatchmakingMvp.System.SoloGroups
import MatchmakingMvp.Worker.Retaining
import Mathlib.Data.Multiset.Filter

/-! # Queued tickets are kept

Whatever is going on at once, a queued solo ticket is in the hands of the thread that
submits it or kept by the worker it is assigned to, and a queued party ticket waits at its
base worker (`MatchmakingMvp.World.QueuedKept`). Unlike the converse, this needs no condition
on when tickets are cancelled.
-/

namespace MatchmakingMvp

open Foundation

/-- One of the threads submits the ticket. -/
def UnderSubmission (stages : Multiset Stage) (queue : QueueKind) (ticket : MatchTicket) : Prop :=
  ∃ stage ∈ stages, stage.submits = some (queue, ticket)

/-- Each queued solo ticket is being submitted or kept by its worker. -/
def World.SoloKept (deployment : Deployment) (world : World) (stages : Multiset Stage) : Prop :=
  ∀ group : WorkerGroup, deployment.getWorkerGroup .solo group.workerGroupKey = some group →
    ∀ ticket, world.QueuedIn .solo group.workerGroupKey ticket →
      UnderSubmission stages .solo ticket ∨ (world.soloWorker group
        (getWorkerIndex group.workerCount ticket.matchTicketId)).Keeps ticket

/-- Each queued party ticket waits at its base worker. -/
def World.PartyKept (deployment : Deployment) (world : World) : Prop :=
  ∀ group : WorkerGroup, deployment.getWorkerGroup .party group.workerGroupKey = some group →
    ∀ ticket, world.QueuedIn .party group.workerGroupKey ticket →
      ((world.partyGroup group).workers (getWorkerIndex group.workerCount
        ticket.matchTicketId)).waitingQueue.find? ticket.matchTicketId =
          some ticket.matchmakingRequest

variable {deployment : Deployment} {permits : MatchTicketRequest → Prop} {step : Section}
  {world before after : World} {stage stage' : Stage} {others : Multiset Stage}

/-! ## Submissions -/

theorem UnderSubmission.next {queue : QueueKind} {ticket : MatchTicket}
    (submitted : UnderSubmission (stage ::ₘ others) queue ticket)
    (goes : stage.submits = some (queue, ticket) → stage'.submits = some (queue, ticket)) :
    UnderSubmission (stage' ::ₘ others) queue ticket := by
  obtain ⟨other, inside, submits⟩ := submitted
  rcases Multiset.mem_cons.mp inside with rfl | member
  · exact ⟨stage', Multiset.mem_cons_self _ _, goes submits⟩
  · exact ⟨other, Multiset.mem_cons_of_mem member, submits⟩

theorem MatchTicket.queued_of_changeStatus {ticket other : MatchTicket}
    {status : MatchTicketStatus} {statuses : TicketStatuses} (different : status ≠ .queued)
    (queued : (ticket.changeStatus status statuses).2 other = .queued) :
    statuses other = .queued := by
  by_cases own : other = ticket
  · subst own
    cases can : canChangeStatus (statuses other) status with
    | true =>
        rw [MatchTicket.changeStatus_of_can can] at queued
        exact (different ((Function.update_self ..).symm.trans queued)).elim
    | false => rwa [MatchTicket.changeStatus_of_cannot can] at queued
  · rwa [MatchTicket.changeStatus_of_ne own] at queued

theorem World.partyEnqueue_statuses_of_refused {group : WorkerGroup} {index : Int}
    {request : MatchmakingRequest} {ticket : MatchTicket}
    (refused : (world.partyEnqueue group index request ticket).1 = false) :
    (world.partyEnqueue group index request ticket).2.2 = world.ticketStatus := by
  refine PartyMatchmakingWorkerGroup.enqueueSection_statuses.trans (if_neg ?_)
  rw [World.partyEnqueue] at refused
  rw [refused]
  decide

/-- Only the thread that submits a ticket makes it queued. -/
theorem Issues.queued_cases (issues : Issues deployment permits step world stage stage')
    {ticket : MatchTicket} (queued : (perform step world).ticketStatus ticket = .queued) :
    world.ticketStatus ticket = .queued ∨
      ∃ queue, stage.submits = some (queue, ticket) ∧ world.Made queue ticket ∧
        (queue = .party → stage'.submits = none) := by
  have advanced : (world.ticketStatus ticket).departed = true →
      ((perform step world).ticketStatus ticket).departed = true :=
    (precedes_perform step world).departed
  cases issues with
  | neutral neutral =>
      rw [(sameMatchmaking_of_neutral neutral world).ticketStatus] at queued
      exact Or.inl queued
  | @queue _ submitted _ _ made =>
      by_cases own : ticket = submitted
      · subst own
        exact Or.inr ⟨_, rfl, made, nofun⟩
      · exact Or.inl ((MatchTicket.changeStatus_of_ne own).symm.trans queued)
  | @partyEnqueue _ submitted group index carried =>
      by_cases own : ticket = submitted
      · subst own
        cases accepted : (world.partyEnqueue group index ticket.matchmakingRequest ticket).1 with
        | true => exact Or.inr ⟨_, rfl, carried.made, fun _ => rfl⟩
        | false =>
            have same := World.partyEnqueue_statuses_of_refused accepted
            exact Or.inl ((congrFun same ticket).symm.trans queued)
      · exact Or.inl ((PartyMatchmakingWorkerGroup.enqueueSection_of_ne own).symm.trans queued)
  | abandon | fail => exact Or.inl (MatchTicket.queued_of_changeStatus (by decide) queued)
  | @soloCancel world _ cancelled group index =>
      have statuses : (world.soloCancel group index cancelled).2.2 ticket = .queued := queued
      rw [World.soloCancel, SoloMatchmakingWorker.cancel_statuses] at statuses
      exact Or.inl (MatchTicket.queued_of_changeStatus (by decide) statuses)
  | @partyCancel world _ cancelled group =>
      have statuses : (world.partyCancel group cancelled).2.2 ticket = .queued := queued
      rw [World.partyCancel, PartyMatchmakingWorkerGroup.cancelMatchTicket_statuses] at statuses
      exact Or.inl (MatchTicket.queued_of_changeStatus (by decide) statuses)
  | soloWait | soloClaim | soloReject =>
      rcases SoloMatchmakingWorker.doWorkerAsyncJob_apply ticket with same | ⟨before, -⟩
      · exact Or.inl (same.symm.trans queued)
      · exact Or.inl before
  | partyRefuse | partyClaim =>
      rcases PartyMatchmakingWorkerGroup.tryCommit_apply ticket with same | ⟨before, -⟩
      · exact Or.inl (same.symm.trans queued)
      · exact Or.inl before
  | require engaged | change engaged =>
      cases departed : (world.ticketStatus ticket).departed with
      | false =>
          exact Or.inl ((World.changeSessionStatus_of_not_departed engaged departed).symm.trans
            queued)
      | true =>
          have later := advanced departed
          rw [queued] at later
          cases later
  | _ => exact Or.inl queued

/-- A ticket that its thread is not submitting was queued before. -/
theorem Issues.queued_of_queued (issues : Issues deployment permits step world stage stage')
    (sound : world.Sound deployment permits) {queue : QueueKind} {ticket : MatchTicket}
    (queued : (perform step world).Queued queue ticket)
    (foreign : stage.submits ≠ some (queue, ticket)) : world.Queued queue ticket := by
  have earlier : world.ticketStatus ticket ≠ .none → world.Made queue ticket := by
    intro started
    rcases issues.submits_cases with ⟨owner, request, rfl, -⟩ | ⟨same, -⟩
    · rcases made_newMatchTicket_iff.mp queued.1 with ⟨-, rfl⟩ | made
      · exact (started (sound.newMatchTicket_status _ _)).elim
      · exact made
    · have made := queued.1
      rwa [World.Made, same] at made
  rcases issues.queued_cases queued.2 with status | ⟨owner, submits, made, -⟩
  · exact ⟨earlier (by rw [status]; decide), status⟩
  · rcases issues.submits_cases with ⟨_, _, -, free, -⟩ | ⟨same, -⟩
    · rw [free] at submits
      cases submits
    · have remade := queued.1
      rw [World.Made, same] at remade
      obtain ⟨rfl, -⟩ := sound.eq_of_serial made remade rfl
      exact (foreign submits).elim

/-! ## Solo tickets -/

section Solo

theorem World.SoloKept.keep (kept : before.SoloKept deployment (stage ::ₘ others))
    (workers : after.soloWorkers = before.soloWorkers)
    (queued : ∀ ticket, after.Queued .solo ticket →
      stage.submits = some (.solo, ticket) ∨ before.Queued .solo ticket)
    (goes : ∀ ticket, after.Queued .solo ticket → stage.submits = some (.solo, ticket) →
      stage'.submits = some (.solo, ticket)) :
    after.SoloKept deployment (stage' ::ₘ others) := by
  intro group served ticket inside
  rw [World.soloWorker, workers]
  rcases queued ticket inside.1 with submits | earlier
  · exact Or.inl ⟨stage', Multiset.mem_cons_self _ _, goes ticket inside.1 submits⟩
  · exact (kept group served ticket ⟨earlier, inside.2⟩).imp_left
      fun submitted => submitted.next (goes ticket inside.1)

/-- One worker of a group changes. -/
theorem World.SoloKept.update (kept : before.SoloKept deployment (stage ::ₘ others))
    {group : WorkerGroup} {index : Int} {worker : SoloMatchmakingWorker}
    (served : deployment.getWorkerGroup .solo group.workerGroupKey = some group)
    (workers : after.soloWorkers = (before.withSoloWorker group index worker).soloWorkers)
    (queued : ∀ ticket, after.Queued .solo ticket →
      stage.submits = some (.solo, ticket) ∨ before.Queued .solo ticket)
    (goes : ∀ ticket, after.Queued .solo ticket → stage.submits = some (.solo, ticket) →
      stage'.submits = some (.solo, ticket) ∨ ticket.matchingGroupKey = group.workerGroupKey ∧
        index = getWorkerIndex group.workerCount ticket.matchTicketId ∧ worker.Keeps ticket)
    (mine : ∀ ticket, after.Queued .solo ticket → stage.submits ≠ some (.solo, ticket) →
      ticket.matchingGroupKey = group.workerGroupKey →
      (before.soloWorker group index).Keeps ticket → worker.Keeps ticket) :
    after.SoloKept deployment (stage' ::ₘ others) := by
  intro other served' ticket inside
  have keeps : ∀ {keptBy : SoloMatchmakingWorker},
      (other.workerGroupKey = group.workerGroupKey →
        getWorkerIndex other.workerCount ticket.matchTicketId = index → worker = keptBy) →
      (¬ (other.workerGroupKey = group.workerGroupKey ∧
        getWorkerIndex other.workerCount ticket.matchTicketId = index) →
          before.soloWorker other (getWorkerIndex other.workerCount ticket.matchTicketId) =
            keptBy) →
      after.soloWorker other (getWorkerIndex other.workerCount ticket.matchTicketId) =
        keptBy := by
    intro keptBy here elsewhere
    rw [World.soloWorker, workers, World.withSoloWorker_soloWorkers]
    by_cases sameKey : other.workerGroupKey = group.workerGroupKey
    · by_cases sameIndex : getWorkerIndex other.workerCount ticket.matchTicketId = index
      · rw [sameKey, sameIndex, Function.update_self, Function.update_self]
        exact here sameKey sameIndex
      · rw [sameKey, Function.update_self, Function.update_of_ne sameIndex, ← sameKey]
        exact elsewhere fun both => sameIndex both.2
    · rw [Function.update_of_ne sameKey]
      exact elsewhere fun both => sameKey both.1
  by_cases submits : stage.submits = some (.solo, ticket)
  · rcases goes ticket inside.1 submits with goesOn | ⟨keyed, assigned, stored⟩
    · exact Or.inl ⟨stage', Multiset.mem_cons_self _ _, goesOn⟩
    · have same : other = group := by
        rw [← inside.2, keyed, served, Option.some.injEq] at served'
        exact served'.symm
      subst same
      refine Or.inr ?_
      rw [keeps (fun _ _ => rfl) fun away => (away ⟨rfl, assigned.symm⟩).elim]
      exact stored
  · have earlier := (queued ticket inside.1).resolve_left submits
    refine (kept other served' ticket ⟨earlier, inside.2⟩).imp
      (fun submitted => submitted.next fun submits' => (submits submits').elim) fun stored => ?_
    by_cases both : other.workerGroupKey = group.workerGroupKey ∧
        getWorkerIndex other.workerCount ticket.matchTicketId = index
    · have same : other = group := by
        rw [both.1, served, Option.some.injEq] at served'
        exact served'.symm
      subst same
      rw [keeps (fun _ _ => rfl) fun away => (away both).elim]
      exact mine ticket inside.1 submits inside.2 (both.2 ▸ stored)
    · rw [keeps (fun key index => (both ⟨key, index⟩).elim) fun _ => rfl]
      exact stored

/-- All requests of solo workers are stored under their own ids. -/
def World.SoloKeyed (world : World) : Prop :=
  ∀ key index, (world.soloWorkers key index).Keyed

theorem World.SoloKeyed.withSoloWorker (keyed : world.SoloKeyed) {group : WorkerGroup}
    {index : Int} {worker : SoloMatchmakingWorker} (holds : worker.Keyed) :
    (world.withSoloWorker group index worker).SoloKeyed := by
  intro key other
  rw [World.withSoloWorker_soloWorkers]
  by_cases sameKey : key = group.workerGroupKey
  · subst sameKey
    rw [Function.update_self]
    by_cases sameIndex : other = index
    · subst sameIndex
      rw [Function.update_self]
      exact holds
    · rw [Function.update_of_ne sameIndex]
      exact keyed _ _
  · rw [Function.update_of_ne sameKey]
    exact keyed _ _

theorem World.SoloKeyed.perform (keyed : world.SoloKeyed) (step : Section) :
    (MatchmakingMvp.perform step world).SoloKeyed := by
  cases step with
  | soloEnqueue group index request ticket =>
      refine keyed.withSoloWorker ?_
      have enqueued := (keyed group.workerGroupKey index).enqueueJobRequest world.ticketStatus
        request
      rw [World.soloEnqueue]
      split <;> rename_i worker result
      · rw [show worker = _ from (congrArg Prod.snd result).symm]
        exact enqueued.erase ticket
      · rw [show worker = _ from (congrArg Prod.snd result).symm]
        exact enqueued
  | soloCancel group index ticket =>
      exact keyed.withSoloWorker ((keyed group.workerGroupKey index).cancel ticket _)
  | soloRun group index =>
      exact keyed.withSoloWorker ((keyed group.workerGroupKey index).doWorkerAsyncJob _ _)
  | nextIntegrationWorldNo worldGroupNo =>
      simp only [MatchmakingMvp.perform]
      split_ifs <;> exact keyed
  | _ => exact keyed

theorem World.soloEnqueue_stores {group : WorkerGroup} {index : Int} {ticket : MatchTicket}
    (accepted : (world.soloEnqueue group index ticket.matchmakingRequest ticket).1 = true) :
    (world.soloEnqueue group index ticket.matchmakingRequest ticket).2.waitingQueue.find?
      ticket.matchTicketId = some ticket.matchmakingRequest := by
  rw [soloEnqueue] at accepted ⊢
  split at accepted
  · cases accepted
  · rename_i worker enqueued
    rw [show worker = _ from (congrArg Prod.snd enqueued).symm]
    exact SoloMatchmakingWorker.enqueueJobRequest_stores (congrArg Prod.fst enqueued)

theorem World.soloEnqueue_keeps {group : WorkerGroup} {index : Int} {ticket rival : MatchTicket}
    (keeps : (world.soloWorker group index).Keeps rival)
    (different : rival.matchTicketId ≠ ticket.matchTicketId) :
    (world.soloEnqueue group index ticket.matchmakingRequest ticket).2.Keeps rival := by
  have enqueued := keeps.enqueueJobRequest world.ticketStatus ticket.matchmakingRequest different
  rw [soloEnqueue]
  split <;> rename_i worker result
  · rw [show worker = _ from (congrArg Prod.snd result).symm]
    exact enqueued.erase different
  · rw [show worker = _ from (congrArg Prod.snd result).symm]
    exact enqueued

/-- Requests that solo workers store under a ticket's id are the ticket's. -/
theorem World.Sound.soloRequest_unique (sound : world.Sound deployment permits)
    (serverIssues : ServerIssues permits) {ticket : MatchTicket} (made : world.Made .solo ticket)
    {key : MatchmakingGroupKey} {request : MatchmakingRequest}
    (entry : world.Entry deployment .solo key request)
    (same : request.matchTicketId = ticket.matchTicketId) :
    request = ticket.matchmakingRequest := by
  obtain ⟨group, other, -, rfl, carried⟩ := entry
  rw [(sound.eq_of_matchTicketId serverIssues carried.made made same).2]

theorem Issues.soloKept (issues : Issues deployment permits step world stage stage')
    (sound : world.Sound deployment permits) (serverIssues : ServerIssues permits)
    (keyed : world.SoloKeyed) (kept : world.SoloKept deployment (stage ::ₘ others)) :
    (perform step world).SoloKept deployment (stage' ::ₘ others) := by
  have queued : ∀ ticket, (perform step world).Queued .solo ticket →
      stage.submits = some (.solo, ticket) ∨ world.Queued .solo ticket := fun ticket inside =>
    or_iff_not_imp_left.mpr (issues.queued_of_queued sound inside)
  have apart : ∀ {ticket rival}, world.Made .solo ticket → world.Queued .solo rival →
      rival ≠ ticket → rival.matchTicketId ≠ ticket.matchTicketId :=
    fun made queued different same =>
      different (sound.eq_of_matchTicketId serverIssues queued.1 made same).2
  have earlier : ∀ {ticket}, (perform step world).Queued .solo ticket →
      stage.submits ≠ some (.solo, ticket) → world.Queued .solo ticket :=
    fun queued => issues.queued_of_queued sound queued
  cases issues with
  | neutral neutral =>
      exact kept.keep (sameMatchmaking_of_neutral neutral world).soloWorkers queued
        fun _ _ => id
  | @soloEnqueue _ ticket base group index carried assigned =>
      have served := Deployment.getWorkerGroup_self carried.served
      refine kept.update served rfl queued (fun rival _ submits => ?_)
        fun rival inside foreign _ stored => ?_
      · cases submits
        by_cases accepted :
            (world.soloEnqueue group index ticket.matchmakingRequest ticket).1 = true
        · rw [if_pos accepted]
          exact Or.inr ⟨(Deployment.getWorkerGroup_key carried.served).symm, assigned,
            Or.inl (World.soloEnqueue_stores accepted)⟩
        · rw [if_neg accepted]
          exact Or.inl rfl
      · refine World.soloEnqueue_keeps stored (apart carried.made (earlier inside foreign) ?_)
        rintro rfl
        exact foreign rfl
  | @soloCancel _ _ ticket group index made served assigned =>
      refine kept.update (Deployment.getWorkerGroup_self served) rfl queued
        (fun _ _ submits => by cases submits) fun rival inside foreign _ stored => ?_
      have before := earlier inside foreign
      refine stored.cancel (apart made before ?_)
      rintro rfl
      have can : canChangeStatus (world.ticketStatus rival) .cancelled = true := by
        rw [before.2]
        rfl
      have status : (world.soloCancel group index rival).2.2 rival = .queued := inside.2
      rw [World.soloCancel, SoloMatchmakingWorker.cancel_of_can can] at status
      cases (Function.update_self ..).symm.trans status
  | @soloWait _ _ group index served | @soloClaim _ _ group index _ _ served
  | @soloReject _ _ group index _ _ served =>
      refine kept.update served rfl queued (fun _ _ submits => by cases submits)
        fun rival inside foreign _ stored => ?_
      have before := earlier inside foreign
      refine (stored.doWorkerAsyncJob (keyed group.workerGroupKey index)
        (sound.solo group.workerGroupKey index) (fun request entry same =>
          sound.soloRequest_unique serverIssues before.1 entry same) group.matchmakingRule
        world.ticketStatus).resolve_right fun moved => moved inside.2
  | @abandon _ queue ticket base made =>
      refine kept.keep rfl queued fun rival inside submits => ?_
      cases submits
      have departed : ((perform (.changeTicketStatus ticket .failed) world).ticketStatus
          ticket).departed = true := MatchTicket.departed_of_changeStatus_failed
      rw [inside.2] at departed
      cases departed
  | partyEnqueue | make | change =>
      exact kept.keep rfl queued fun _ _ submits => by cases submits
  | _ => exact kept.keep rfl queued fun _ _ submits => submits

end Solo

/-! ## Party tickets -/

section Party

theorem World.PartyKept.keep (kept : before.PartyKept deployment)
    (groups : after.partyGroups = before.partyGroups)
    (queued : ∀ ticket, after.Queued .party ticket → before.Queued .party ticket) :
    after.PartyKept deployment := by
  intro group served ticket inside
  rw [World.partyGroup, groups]
  exact kept group served ticket ⟨queued ticket inside.1, inside.2⟩

/-- One group changes. -/
theorem World.PartyKept.update (kept : before.PartyKept deployment) {group : WorkerGroup}
    {state : PartyMatchmakingWorkerGroup}
    (served : deployment.getWorkerGroup .party group.workerGroupKey = some group)
    (groups : after.partyGroups = (before.withPartyGroup group state).partyGroups)
    (queued : ∀ ticket, ticket.matchingGroupKey ≠ group.workerGroupKey →
      after.Queued .party ticket → before.Queued .party ticket)
    (mine : ∀ ticket, after.QueuedIn .party group.workerGroupKey ticket →
      (state.workers (getWorkerIndex group.workerCount
        ticket.matchTicketId)).waitingQueue.find? ticket.matchTicketId =
          some ticket.matchmakingRequest) :
    after.PartyKept deployment := by
  intro other served' ticket inside
  rw [World.partyGroup, groups, World.withPartyGroup_partyGroups]
  by_cases same : other.workerGroupKey = group.workerGroupKey
  · have equal : other = group := by
      rw [same, served, Option.some.injEq] at served'
      exact served'.symm
    subst equal
    rw [Function.update_self]
    exact mine ticket inside
  · rw [Function.update_of_ne same]
    exact kept other served' ticket ⟨queued ticket (inside.2 ▸ same) inside.1, inside.2⟩

theorem Stage.submits_solo {ticket rival : MatchTicket} {base : Option Int} :
    (Stage.starting .solo ticket base).submits ≠ some (.party, rival) := by
  simp [Stage.submits]

theorem Issues.partyKept (issues : Issues deployment permits step world stage stage')
    (sound : world.Sound deployment permits) (serverIssues : ServerIssues permits)
    (kept : world.PartyKept deployment)
    (fresh : ∀ ticket, stage.submits = some (.party, ticket) → ¬ world.Queued .party ticket) :
    (perform step world).PartyKept deployment := by
  have queued : ∀ {ticket}, stage.submits ≠ some (.party, ticket) →
      (perform step world).Queued .party ticket → world.Queued .party ticket :=
    fun foreign inside => issues.queued_of_queued sound inside foreign
  have apart : ∀ {ticket rival}, world.Made .party ticket → world.Queued .party rival →
      rival ≠ ticket → rival.matchTicketId ≠ ticket.matchTicketId :=
    fun made queued different same =>
      different (sound.eq_of_matchTicketId serverIssues queued.1 made same).2
  cases issues with
  | neutral neutral =>
      have same := sameMatchmaking_of_neutral neutral world
      refine kept.keep same.partyGroups fun ticket inside => ?_
      rw [World.Queued, World.Made, same.matchTickets, same.ticketStatus] at inside
      exact inside
  | @partyEnqueue _ ticket group index carried assigned =>
      have served := Deployment.getWorkerGroup_self carried.served
      refine kept.update served rfl (fun rival away inside => queued ?_ inside)
        fun rival inside => ?_
      · intro submits
        cases submits
        exact away (Deployment.getWorkerGroup_key carried.served).symm
      · by_cases own : rival = ticket
        · subst own
          cases accepted : (world.partyEnqueue group index rival.matchmakingRequest rival).1 with
          | true =>
              rw [← assigned]
              exact PartyMatchmakingWorkerGroup.enqueueSection_stores accepted
          | false =>
              have same := World.partyEnqueue_statuses_of_refused accepted
              exact (fresh rival rfl
                ⟨carried.made, (congrFun same rival).symm.trans inside.1.2⟩).elim
        · have before : world.Queued .party rival :=
            queued (fun submits => own (Prod.mk.inj (Option.some.inj submits)).2.symm) inside.1
          exact PartyMatchmakingWorkerGroup.enqueueSection_retains _ _ _
            (apart carried.made before own) (kept group served rival ⟨before, inside.2⟩)
  | @partyCancel _ _ ticket group made served =>
      have found := Deployment.getWorkerGroup_self served
      refine kept.update found rfl
          (fun rival _ inside => queued (Option.some_ne_none _).symm inside)
        fun rival inside => ?_
      have before : world.Queued .party rival := queued (Option.some_ne_none _).symm inside.1
      refine PartyMatchmakingWorkerGroup.cancelMatchTicket_retains _ _ _
        (apart made before ?_) (kept group found rival ⟨before, inside.2⟩)
      rintro rfl
      have can : canChangeStatus (world.ticketStatus rival) .cancelled = true := by
        rw [before.2]
        rfl
      have status : (world.partyCancel group rival).2.2 rival = .queued := inside.1.2
      rw [World.partyCancel, PartyMatchmakingWorkerGroup.cancelMatchTicket_of_can can] at status
      cases (Function.update_self ..).symm.trans status
  | @partyExpand _ _ group served =>
      refine kept.update served rfl
          (fun rival _ inside => queued (Option.some_ne_none _).symm inside)
        fun rival inside => ?_
      have before : world.Queued .party rival := queued (Option.some_ne_none _).symm inside.1
      have retains : PartyMatchmakingWorkerGroup.Retains (fun _ => False) (world.partyGroup group)
          (world.partyExpand group).1 :=
        PartyMatchmakingWorkerGroup.expandMatchmakingWorkerSlot_retains
      exact retains _ _ _ id (kept group served rival ⟨before, inside.2⟩)
  | partyRefuse refused =>
      rw [World.partyCommit_of_refused refused]
      exact kept
  | @partyClaim _ _ group requests tickets _ committed carried requested =>
      subst requested
      rcases PartyMatchmakingWorkerGroup.tryCommit_cases _ with
        run | ⟨listed, claimed, same, ticketsOf, nonempty, -, -, run⟩
      · rw [World.partyCommit, run] at committed
        cases committed
      obtain rfl := List.map_injective_iff.mpr (Option.some_injective _) same
      obtain rfl := (ticketsOf_matchmakingRequest _).unique ticketsOf
      obtain ⟨first, member⟩ := List.exists_mem_of_ne_nil _ nonempty
      have served := Deployment.getWorkerGroup_self (carried first member).served
      have groups : (perform (.partyCommit group
          ((tickets.map MatchTicket.matchmakingRequest).map some)) world).partyGroups =
          (world.withPartyGroup group ((tickets.map MatchTicket.matchmakingRequest).foldl
            (PartyMatchmakingWorkerGroup.eraseFromRange group.workerCount world.workerSlot)
            (world.partyGroup group))).partyGroups := by
        rw [perform, World.partyCommit, run]
        rfl
      refine kept.update served groups
          (fun rival _ inside => queued (Option.some_ne_none _).symm inside)
        fun rival inside => ?_
      have before : world.Queued .party rival := queued (Option.some_ne_none _).symm inside.1
      have outside : rival ∉ tickets := fun chosen => by
        have status : (world.partyCommit group
          ((tickets.map MatchTicket.matchmakingRequest).map some)).2.2 rival = .queued := inside.1.2
        rw [World.partyCommit, run] at status
        cases (moveAll_of_mem chosen).symm.trans status
      refine PartyMatchmakingWorkerGroup.eraseAll_retains ticketsOf _ _ _ ?_
        (kept group served rival ⟨before, inside.2⟩)
      rintro ⟨ticket, chosen, same⟩
      exact apart (carried ticket chosen).made before (fun own => outside (own ▸ chosen)) same
  | register | unregister | assign | forget => exact kept.keep rfl fun _ inside => inside
  | abandon =>
      refine kept.keep rfl fun rival inside => ⟨inside.1, ?_⟩
      exact MatchTicket.queued_of_changeStatus (by decide) inside.2
  | queue | soloEnqueue => exact kept.keep rfl fun _ inside => queued Stage.submits_solo inside
  | _ => exact kept.keep rfl fun _ inside => queued (Option.some_ne_none _).symm inside

end Party

/-! ## Tickets under submission -/

section Submitting

/-- Each ticket on its way to a group is in the hands of one thread, and a party ticket is not
queued before it arrives. -/
structure World.Submitting (world : World) (stages : Multiset Stage) : Prop where
  made : ∀ queue ticket, UnderSubmission stages queue ticket → world.Made queue ticket
  fresh : ∀ ticket, UnderSubmission stages .party ticket → world.ticketStatus ticket ≠ .queued
  apart : (stages.filterMap Stage.submits).Nodup

theorem World.Submitting.initial : ({} : World).Submitting 0 where
  made := fun _ _ ⟨stage, member, _⟩ => (Multiset.notMem_zero stage member).elim
  fresh := fun _ ⟨stage, member, _⟩ => (Multiset.notMem_zero stage member).elim
  apart := List.nodup_nil

theorem UnderSubmission.own {queue : QueueKind} {ticket : MatchTicket}
    (submits : stage.submits = some (queue, ticket)) :
    UnderSubmission (stage ::ₘ others) queue ticket :=
  ⟨stage, Multiset.mem_cons_self _ _, submits⟩

theorem UnderSubmission.cons {queue : QueueKind} {ticket : MatchTicket}
    (submitted : UnderSubmission others queue ticket) :
    UnderSubmission (stage ::ₘ others) queue ticket := by
  obtain ⟨other, member, submits⟩ := submitted
  exact ⟨other, Multiset.mem_cons_of_mem member, submits⟩

theorem UnderSubmission.cons_cases {queue : QueueKind} {ticket : MatchTicket}
    (submitted : UnderSubmission (stage ::ₘ others) queue ticket) :
    stage.submits = some (queue, ticket) ∨ UnderSubmission others queue ticket := by
  obtain ⟨other, member, submits⟩ := submitted
  rcases Multiset.mem_cons.mp member with rfl | inside
  · exact Or.inl submits
  · exact Or.inr ⟨other, inside, submits⟩

theorem UnderSubmission.of_idle {queue : QueueKind} {ticket : MatchTicket}
    (submitted : UnderSubmission (stage ::ₘ others) queue ticket) (idle : stage.submits = none) :
    UnderSubmission others queue ticket := by
  refine submitted.cons_cases.resolve_left fun submits => ?_
  rw [idle] at submits
  cases submits

theorem World.Submitting.join (submitting : world.Submitting others)
    (idle : stage.submits = none) : world.Submitting (stage ::ₘ others) := by
  refine ⟨fun queue ticket inside => submitting.made queue ticket (inside.of_idle idle),
    fun ticket inside => submitting.fresh ticket (inside.of_idle idle), ?_⟩
  rw [Multiset.filterMap_cons_none _ _ idle]
  exact submitting.apart

theorem World.Submitting.leave (submitting : world.Submitting (stage ::ₘ others)) :
    world.Submitting others := by
  refine ⟨fun queue ticket inside => submitting.made queue ticket inside.cons,
    fun ticket inside => submitting.fresh ticket inside.cons, ?_⟩
  have apart := submitting.apart
  cases submits : stage.submits with
  | none => rwa [Multiset.filterMap_cons_none _ _ submits] at apart
  | some entry =>
      rw [Multiset.filterMap_cons_some _ _ _ submits] at apart
      exact (Multiset.nodup_cons.mp apart).2

/-- No two threads submit one ticket. -/
theorem World.Submitting.foreign (submitting : world.Submitting (stage ::ₘ others))
    {queue : QueueKind} {ticket : MatchTicket} (submitted : UnderSubmission others queue ticket) :
    stage.submits ≠ some (queue, ticket) := by
  intro same
  obtain ⟨other, member, submits⟩ := submitted
  have apart := submitting.apart
  rw [Multiset.filterMap_cons_some _ _ _ same] at apart
  exact (Multiset.nodup_cons.mp apart).1
    ((Multiset.mem_filterMap _ _).mpr ⟨other, member, submits⟩)

/-- The ticket a thread submits was its before, or was just made. -/
theorem Issues.submits_after (issues : Issues deployment permits step world stage stage')
    (sound : world.Sound deployment permits) {queue : QueueKind} {ticket : MatchTicket}
    (submits : stage'.submits = some (queue, ticket)) :
    stage.submits = some (queue, ticket) ∨
      (∀ owner, ¬ world.Made owner ticket) ∧ (perform step world).Made queue ticket ∧
        (perform step world).ticketStatus ticket = .none := by
  rcases issues.submits_cases with ⟨owner, request, rfl, -, created⟩ | ⟨-, same | ⟨none, -⟩⟩
  · rw [created] at submits
    cases submits
    exact Or.inr ⟨fun _ => sound.newMatchTicket_not_made _ _ _, List.mem_cons_self,
      sound.newMatchTicket_status request.worldNo request⟩
  · exact Or.inl (same.symm.trans submits)
  · rw [none] at submits
    cases submits

theorem World.Submitting.perform (submitting : world.Submitting (stage ::ₘ others))
    (issues : Issues deployment permits step world stage stage')
    (sound : world.Sound deployment permits) :
    (MatchmakingMvp.perform step world).Submitting (stage' ::ₘ others) := by
  refine ⟨fun queue ticket submitted => ?_, fun ticket submitted queued => ?_, ?_⟩
  · rcases submitted.cons_cases with own | theirs
    · rcases issues.submits_after sound own with same | ⟨-, made, -⟩
      · exact perform_made (submitting.made _ _ (.own same))
      · exact made
    · exact perform_made (submitting.made _ _ theirs.cons)
  · rcases submitted.cons_cases with own | theirs
    · rcases issues.submits_after sound own with same | ⟨-, -, unqueued⟩
      · rcases issues.queued_cases queued with before | ⟨queue, submits, -, ends⟩
        · exact submitting.fresh _ (.own same) before
        · rw [same] at submits
          cases submits
          rw [ends rfl] at own
          cases own
      · cases unqueued.symm.trans queued
    · rcases issues.queued_cases queued with before | ⟨queue, own, made, -⟩
      · exact submitting.fresh _ theirs.cons before
      · obtain ⟨rfl, -⟩ := sound.eq_of_serial made (submitting.made _ _ theirs.cons) rfl
        exact submitting.foreign theirs own
  · cases submits : stage'.submits with
    | none =>
        rw [Multiset.filterMap_cons_none _ _ submits]
        exact submitting.leave.apart
    | some entry =>
        obtain ⟨queue, ticket⟩ := entry
        rw [Multiset.filterMap_cons_some _ _ _ submits, Multiset.nodup_cons]
        refine ⟨fun inside => ?_, submitting.leave.apart⟩
        obtain ⟨other, member, same⟩ := (Multiset.mem_filterMap _ _).mp inside
        have theirs : UnderSubmission others queue ticket := ⟨other, member, same⟩
        rcases issues.submits_after sound submits with own | ⟨unmade, -, -⟩
        · exact submitting.foreign theirs own
        · exact unmade _ (submitting.made _ _ theirs.cons)

end Submitting

/-! ## All interleavings -/

/-- Queued tickets are kept, and each ticket on its way to a group is in the hands of one
thread. -/
structure World.QueuedKept (deployment : Deployment) (world : World) (stages : Multiset Stage) :
    Prop where
  keyed : world.SoloKeyed
  solo : world.SoloKept deployment stages
  party : world.PartyKept deployment
  submitting : world.Submitting stages

theorem World.QueuedKept.initial : ({} : World).QueuedKept deployment 0 where
  keyed := fun _ _ => ⟨nofun, nofun⟩
  solo := fun _ _ _ inside => (List.not_mem_nil inside.1.1).elim
  party := fun _ _ _ inside => (List.not_mem_nil inside.1.1).elim
  submitting := .initial

theorem World.QueuedKept.join (kept : world.QueuedKept deployment others) :
    world.QueuedKept deployment (.free none ::ₘ others) where
  keyed := kept.keyed
  solo := fun group served ticket inside =>
    (kept.solo group served ticket inside).imp_left UnderSubmission.cons
  party := kept.party
  submitting := kept.submitting.join rfl

theorem World.QueuedKept.perform (kept : world.QueuedKept deployment (stage ::ₘ others))
    (issues : Issues deployment permits step world stage stage')
    (sound : world.Sound deployment permits) (serverIssues : ServerIssues permits) :
    (MatchmakingMvp.perform step world).QueuedKept deployment (stage' ::ₘ others) where
  keyed := kept.keyed.perform step
  solo := issues.soloKept sound serverIssues kept.keyed kept.solo
  party := issues.partyKept sound serverIssues kept.party
    fun ticket submits queued => kept.submitting.fresh ticket (.own submits) queued.2
  submitting := kept.submitting.perform issues sound

/-- What is asserted of all interleavings, together with the stages the threads have reached.
Threads that are done are idle. -/
theorem Interleaved.assertedAtEnd {admissible : Call → Prop} {allowed : Section → World → Prop}
    {trace : List (Executed Section World)} {pool : Pool Section World}
    (permitted : ∀ call, admissible call → ∀ request, call.request = some request →
      permits request)
    (asserts : World → Multiset Stage → Prop) (initially : asserts {} 0)
    (joining : ∀ world stages, asserts world stages → asserts world (.free none ::ₘ stages))
    (preserved : ∀ world others step stage stage', world.Sound deployment permits →
      Issues deployment permits step world stage stage' →
      asserts world (stage ::ₘ others) → asserts (perform step world) (stage' ::ₘ others))
    (execution : Interleaved deployment admissible allowed trace pool) :
    ∃ stages : List Stage, asserts pool.state stages ∧
      (pool.quiet = true → ∀ stage ∈ stages, stage.Idle) := by
  have joins : ∀ program : Operation Unit,
      (∃ call, admissible call ∧ program = call.program deployment) → ∃ stage,
      (∀ seen, program.Follows perform (World.Sound deployment permits) World.Precedes
        (Issues deployment permits) (fun _ stage _ => stage.Idle) seen stage) ∧
      ∀ (_ : List (Executed Section World)) world stages, asserts world stages →
        asserts world (stage ::ₘ stages) := by
    rintro program ⟨call, admits, rfl⟩
    refine ⟨.free none, fun seen => ?_, fun _ => joining⟩
    exact Program.Follows.mono (fun _ _ _ ends => ends.2)
      (adheres_program (permitted call admits))
  have kept : ∀ step world stage stage', World.Sound deployment permits world →
      Issues deployment permits step world stage stage' →
      World.Sound deployment permits (perform step world) :=
    fun _ _ _ _ sound issues => issues.sound sound
  obtain ⟨-, -, stages, asserted, follows⟩ := (execution_iff_poolRun.mp execution).asserted kept
    (fun _ (stage : Stage) _ => stage.Idle) World.Precedes.refl
    (fun _ _ _ => World.Precedes.trans) precedes_perform World.Sound.initial
    ⟨[], .nil, initially⟩ joins
    fun _ _ _ _ _ _ _ sound issues _ _ => preserved _ _ _ _ _ sound issues
  refine ⟨stages, asserted, fun quiet stage inside => ?_⟩
  obtain ⟨program, member, seen, -, follow⟩ := exists_of_forall₂ follows inside
  have finished := List.all_eq_true.mp quiet program member
  cases program with
  | done => exact follow
  | step => cases finished

/-- **Queued tickets are kept.** Where all threads of an interleaving are done, the worker of
a queued solo ticket keeps it. -/
theorem Interleaved.keeps_of_quiet {allowed : Section → World → Prop}
    {trace : List (Executed Section World)} {pool : Pool Section World}
    (execution : Interleaved deployment Call.ServerIssued allowed trace pool)
    (quiet : pool.quiet = true) {group : WorkerGroup}
    (served : deployment.getWorkerGroup .solo group.workerGroupKey = some group)
    {ticket : MatchTicket} (queued : pool.state.QueuedIn .solo group.workerGroupKey ticket) :
    (pool.state.soloWorker group
      (getWorkerIndex group.workerCount ticket.matchTicketId)).Keeps ticket := by
  have permitted : ∀ call : Call, call.ServerIssued → ∀ request, call.request = some request →
      request.matchTicketId = -1 := fun call issued request asks => issued request asks
  obtain ⟨stages, kept, idle⟩ := execution.assertedAtEnd permitted
    (fun world stages => world.QueuedKept deployment stages) .initial
    (fun _ _ kept => kept.join)
    (fun _ _ _ _ _ sound issues kept => kept.perform issues sound fun _ issued => issued)
  refine (kept.solo group served ticket queued).resolve_left ?_
  rintro ⟨stage, member, submits⟩
  rcases idle quiet stage member with ⟨⟨⟩⟩ | _ | _ <;> cases submits

/-- A queued party ticket waits at its base worker, also while other threads are busy. -/
theorem Interleaved.partyKept {allowed : Section → World → Prop}
    {trace : List (Executed Section World)} {pool : Pool Section World}
    (execution : Interleaved deployment Call.ServerIssued allowed trace pool) :
    pool.state.PartyKept deployment := by
  have permitted : ∀ call : Call, call.ServerIssued → ∀ request, call.request = some request →
      request.matchTicketId = -1 := fun call issued request asks => issued request asks
  obtain ⟨stages, kept, -⟩ := execution.assertedAtEnd permitted
    (fun world stages => world.QueuedKept deployment stages) .initial
    (fun _ _ kept => kept.join)
    (fun _ _ _ _ _ sound issues kept => kept.perform issues sound fun _ issued => issued)
  exact kept.party

end MatchmakingMvp
