import MatchmakingMvp.System.Adherence

/-! # The programs of the calls follow the stages

The operations of the two matchmaking managers and of their worker groups, and
from them the programs of all calls. -/

namespace MatchmakingMvp

open Foundation

variable {deployment : Deployment} {permits : MatchTicketRequest → Prop} {seen : World}
  {stage : Stage} {held : Option (MatchId × MatchSession)} {ticket : MatchTicket}
  {group : WorkerGroup}

/-- A starting thread hands its ticket to a worker group, or keeps it. -/
def Enqueued (queue : QueueKind) (ticket : MatchTicket) (stage : Stage) (accepted : Bool) : Prop :=
  if accepted then stage = .free none else ∃ base, stage = .starting queue ticket base

theorem SoloMatchmakingWorkerGroup.adheres_enqueueJobRequest (made : seen.Made .solo ticket)
    (served : deployment.getWorkerGroup .solo ticket.matchingGroupKey = some group)
    {base : Option Int} :
    Adheres deployment permits seen (.starting .solo ticket base)
      (enqueueJobRequest group ticket.matchmakingRequest)
      fun _ stage' accepted => Enqueued .solo ticket stage' accepted := by
  simp only [enqueueJobRequest, MatchTicket.matchmakingRequest_matchTicketPtr]
  split
  · exact adheres_pure ⟨base, rfl⟩
  next admitted =>
  refine Adheres.via (fun world stage' queued =>
      stage' = .starting .solo ticket base ∧ (queued = true → world.ticketStatus ticket ≠ .none))
    (adheres_atomically fun world precedes _ => ⟨_, .queue (precedes.made made) served, rfl, ?_⟩)
    fun world stage' queued precedes same => ?_
  · intro queued
    have can : canChangeStatus (world.ticketStatus ticket) .queued = true := by
      rwa [← MatchTicket.changeStatus_fst]
    simp [perform, MatchTicket.changeStatus_of_can can]
  obtain ⟨rfl, started⟩ := same
  split
  · exact adheres_pure ⟨base, rfl⟩
  next queued =>
  have started := started (by simpa using queued)
  refine Adheres.via (fun _ stage' _ => ∃ base, stage' = .starting .solo ticket base)
    (adheres_atomically fun world later _ =>
      ⟨_, .assign ((precedes.trans later).made made) served, _, rfl⟩)
    fun world stage' _ later same => ?_
  obtain ⟨base, rfl⟩ := same
  split
  · exact adheres_pure ⟨base, rfl⟩
  next present =>
  refine adheres_atomically fun last latest _ => ⟨_, .soloEnqueue
    ⟨((precedes.trans later).trans latest).made made, served, by simpa using admitted,
      fun _ => ((later.trans latest).advances ticket).ne_none started⟩ rfl
    (by simpa using present), ?_⟩
  rw [Enqueued]
  split
  · rfl
  · exact ⟨base, rfl⟩

theorem PartyMatchmakingWorkerGroup.adheres_enqueueJobRequest (made : seen.Made .party ticket)
    (served : deployment.getWorkerGroup .party ticket.matchingGroupKey = some group)
    {base : Option Int} :
    Adheres deployment permits seen (.starting .party ticket base)
      (enqueueJobRequest group ticket.matchmakingRequest)
      fun _ stage' accepted => Enqueued .party ticket stage' accepted := by
  simp only [enqueueJobRequest, MatchTicket.matchmakingRequest_matchTicketPtr]
  split
  · exact adheres_pure ⟨base, rfl⟩
  next admitted =>
  refine Adheres.via (fun _ stage' _ => stage' = .starting .party ticket
      (some (getWorkerIndex group.workerCount ticket.matchTicketId)))
    (adheres_atomically fun world precedes _ =>
      ⟨_, .assign (precedes.made made) served, rfl⟩)
    fun world stage' _ precedes same => ?_
  subst same
  refine adheres_atomically fun last later _ => ⟨_, .partyEnqueue
    ⟨(precedes.trans later).made made, served, by simpa using admitted, nofun⟩ rfl, ?_⟩
  rw [Enqueued]
  split
  · rfl
  · exact ⟨_, rfl⟩

namespace MatchmakingManager

variable {queue : QueueKind} {base : Option Int}

theorem adheres_insertMatchTicket (made : seen.Made queue ticket)
    (served : deployment.getWorkerGroup queue ticket.matchingGroupKey = some group) :
    Adheres deployment permits seen (.starting queue ticket base) (insertMatchTicket queue ticket)
      fun _ stage' _ => stage' = .starting queue ticket base :=
  adheres_atomically fun _ precedes _ => ⟨_, .register (precedes.made made) served, rfl⟩

/-- A starting thread takes its ticket back from the manager. -/
theorem adheres_unregister :
    Adheres deployment permits seen (.starting queue ticket base)
      (eraseMatchTicket queue ticket.matchTicketId)
      fun _ stage' _ => stage' = .starting queue ticket base :=
  adheres_atomically fun _ _ _ => ⟨_, .unregister, rfl⟩

/-- A starting thread gives its ticket up. -/
theorem adheres_abandon (made : seen.Made queue ticket) :
    Adheres deployment permits seen (.starting queue ticket base)
      (changeTicketStatus ticket .failed)
      fun world stage' _ => stage' = .free none ∧ (world.ticketStatus ticket).departed = true :=
  adheres_atomically fun _ precedes _ => ⟨_, .abandon (precedes.made made), rfl,
    MatchTicket.departed_of_changeStatus_failed⟩

/-- Both managers register a ticket and hand it to a worker group. -/
theorem adheres_enqueue {enqueue : WorkerGroup → Operation Bool}
    (made : seen.Made queue ticket)
    (adheres : ∀ world group base, world.Made queue ticket →
      deployment.getWorkerGroup queue ticket.matchingGroupKey = some group →
      Adheres deployment permits world (.starting queue ticket base) (enqueue group)
        fun _ stage' accepted => Enqueued queue ticket stage' accepted) :
    Adheres deployment permits seen (.starting queue ticket base)
      (do
        match deployment.getWorkerGroup queue ticket.matchingGroupKey with
        | none => return false
        | some group =>
            if (← insertMatchTicket queue ticket) = false then
              return false
            if (← enqueue group) = false then
              let _ ← eraseMatchTicket queue ticket.matchTicketId
              return false
            return true)
      fun _ stage' accepted => Enqueued queue ticket stage' accepted := by
  cases served : deployment.getWorkerGroup queue ticket.matchingGroupKey with
  | none => exact adheres_pure ⟨base, rfl⟩
  | some group =>
      refine (adheres_insertMatchTicket made served).bind fun world stage' inserted precedes same =>
        ?_
      subst same
      split
      · exact adheres_pure ⟨base, rfl⟩
      refine (adheres world group base (precedes.made made) served).bind
        fun world stage' accepted _ enqueued => ?_
      cases accepted with
      | true => exact adheres_pure enqueued
      | false =>
          obtain ⟨base, rfl⟩ := enqueued
          exact adheres_unregister.bind fun _ _ _ _ same => adheres_pure ⟨base, same⟩

theorem adheres_makeMatchTicket {request : MatchTicketRequest} (permitted : permits request)
    (single : queue = .solo → request.players.elements.length ≤ 1) :
    Adheres deployment permits seen (.free held) (makeMatchTicket queue request.worldNo request)
      fun world stage' ticket =>
        stage' = .starting queue ticket none ∧ world.Made queue ticket :=
  adheres_atomically fun _ _ _ => ⟨_, .make permitted single, rfl, List.mem_cons_self⟩

/-- Both managers' submissions that fail a ticket before they forget it. -/
theorem adheres_submit {request : MatchTicketRequest} (permitted : permits request)
    (single : queue = .solo → request.players.elements.length ≤ 1)
    {enqueue : MatchTicket → Operation Bool}
    (adheres : ∀ world ticket, world.Made queue ticket →
      Adheres deployment permits world (.starting queue ticket none) (enqueue ticket)
        fun _ stage' accepted => Enqueued queue ticket stage' accepted) :
    Adheres deployment permits seen (.free held)
      (do
        let ticket ← makeMatchTicket queue request.worldNo request
        if (← enqueue ticket) = false then
          let _ ← changeTicketStatus ticket .failed
          let _ ← eraseMatchTicket queue ticket.matchTicketId
          return some ticket
        return some ticket)
      fun _ stage' _ => stage'.Free := by
  refine (adheres_makeMatchTicket permitted single).bind fun world stage' ticket _ same => ?_
  obtain ⟨rfl, made⟩ := same
  refine (adheres world ticket made).bind fun world stage' accepted later enqueued => ?_
  cases accepted with
  | true =>
      cases enqueued
      exact adheres_pure .free
  | false =>
      obtain ⟨base, rfl⟩ := enqueued
      refine (adheres_abandon (later.made made)).bind fun world stage' _ latest same => ?_
      obtain ⟨rfl, departed⟩ := same
      exact (adheres_eraseMatchTicket ((later.trans latest).made made) departed _).bind
        fun _ _ _ _ same => adheres_pure (same ▸ .free)

end MatchmakingManager

/-! ## Stopping -/

theorem SoloMatchmakingWorkerGroup.adheres_cancelMatchTicket (made : seen.Made .solo ticket)
    (served : deployment.getWorkerGroup .solo ticket.matchingGroupKey = some group) :
    Adheres deployment permits seen (.free held) (cancelMatchTicket group ticket)
      fun world stage' cancelled => stage' = .free held ∧
        (cancelled = true → (world.ticketStatus ticket).departed = true) := by
  rw [cancelMatchTicket]
  split
  · refine adheres_atomically fun world precedes _ =>
      ⟨_, .soloCancel (precedes.made made) served rfl, rfl, fun cancelled => ?_⟩
    cases can : canChangeStatus (world.ticketStatus ticket) .cancelled with
    | true =>
        simp [perform, World.soloCancel, SoloMatchmakingWorker.cancel_of_can can,
          MatchTicketStatus.departed]
    | false =>
        rw [World.soloCancel, SoloMatchmakingWorker.cancel_of_cannot can] at cancelled
        cases cancelled
  · exact adheres_pure ⟨rfl, by rintro ⟨⟩⟩

theorem PartyMatchmakingWorkerGroup.adheres_cancel (made : seen.Made .party ticket)
    (served : deployment.getWorkerGroup .party ticket.matchingGroupKey = some group) :
    Adheres deployment permits seen (.free held) (cancel group ticket)
      fun world stage' cancelled => stage' = .free held ∧
        (cancelled = true → (world.ticketStatus ticket).departed = true) := by
  refine adheres_atomically fun world precedes _ =>
    ⟨_, .partyCancel (precedes.made made) served, rfl, fun cancelled => ?_⟩
  cases can : canChangeStatus (world.ticketStatus ticket) .cancelled with
  | true =>
      simp [perform, World.partyCancel, PartyMatchmakingWorkerGroup.cancelMatchTicket_of_can can,
        MatchTicketStatus.departed]
  | false =>
      rw [World.partyCancel, PartyMatchmakingWorkerGroup.cancelMatchTicket_of_cannot can]
        at cancelled
      cases cancelled

namespace SoloMatchmakingManager

/-- Forget a cancelled ticket and penalize its player if that is wanted. -/
private theorem adheres_forgetCancelled {playerKey : PlayerKey} {applyDodgePenalty : Bool}
    (made : seen.Made .solo ticket) (departed : (seen.ticketStatus ticket).departed = true) :
    Adheres deployment permits seen (.free held)
      (do
        let _ ← MatchmakingManager.eraseMatchTicket .solo ticket.matchTicketId
        if applyDodgePenalty then
          MatchPenaltyManager.addDodgePenalty playerKey ((← timeMsec) + 15000)
        return some ticket)
      fun _ stage' _ => stage'.Free := by
  refine (MatchmakingManager.adheres_eraseMatchTicket made departed _).bind
    fun world stage' _ _ same => ?_
  subst same
  split
  · refine (neutral_readWorld _).adheres.bind fun world stage' now _ same => ?_
    subst same
    refine (MatchPenaltyManager.neutral_addDodgePenalty _ _).adheres.bind fun _ _ _ _ same => ?_
    exact adheres_pure (same ▸ .free)
  · exact adheres_pure .free

theorem adheres_stopMatchmaking (playerKey : PlayerKey) (applyDodgePenalty : Bool) :
    Adheres deployment permits seen (.free held)
      (stopMatchmaking deployment playerKey applyDodgePenalty)
      fun _ stage' _ => stage'.Free := by
  refine (MatchmakingManager.adheres_findMatchTicketByPlayerKey _ _).bind
    fun world stage' found _ same => ?_
  obtain ⟨rfl, known⟩ := same
  cases found with
  | none => exact adheres_pure .free
  | some ticket =>
      obtain ⟨made, group, served⟩ := known ticket rfl
      refine (neutral_readWorld _).adheres.bind fun world stage' status precedes same => ?_
      subst same
      split
      · exact (MatchSessionManager.adheres_acceptMatchSession _).bind
          fun _ _ _ _ free => adheres_pure free
      refine (neutral_readWorld _).adheres.bind fun world stage' status later same => ?_
      subst same
      split
      · exact adheres_pure .free
      have made := (precedes.trans later).made made
      simp only [served]
      refine (SoloMatchmakingWorkerGroup.adheres_cancelMatchTicket made served).bind
        fun world stage' cancelled latest same => ?_
      obtain ⟨rfl, departed⟩ := same
      cases cancelled with
      | false => exact adheres_pure .free
      | true => exact adheres_forgetCancelled (latest.made made) (departed rfl)

theorem adheres_cleanupPrevMatchmaking (playerKey : PlayerKey) :
    Adheres deployment permits seen (.free held) (cleanupPrevMatchmaking deployment playerKey)
      fun _ stage' _ => stage'.Free := by
  refine (adheres_stopMatchmaking _ _).bind fun world stage' _ _ free => ?_
  refine (IntegrationZoneInstanceManager.neutral_processPlayerLeaveToIntegrationServer _
    _).adheres.bind fun _ _ _ _ same => ?_
  exact adheres_pure (same ▸ free)

end SoloMatchmakingManager

namespace PartyMatchmakingManager

theorem adheres_cancelFound (made : seen.Made .party ticket)
    (served : deployment.getWorkerGroup .party ticket.matchingGroupKey = some group) :
    Adheres deployment permits seen (.free held) (cancelFound deployment ticket)
      fun _ stage' _ => stage'.Free := by
  rw [cancelFound]
  simp only [served]
  refine (PartyMatchmakingWorkerGroup.adheres_cancel made served).bind
    fun world stage' cancelled precedes same => ?_
  obtain ⟨rfl, departed⟩ := same
  cases cancelled with
  | false => exact adheres_pure .free
  | true =>
      exact (MatchmakingManager.adheres_eraseMatchTicket (precedes.made made) (departed rfl)
        _).bind fun _ _ _ _ same => adheres_pure (same ▸ .free)

theorem adheres_stopMatchmaking (playerKey : PlayerKey) :
    Adheres deployment permits seen (.free held) (stopMatchmaking deployment playerKey)
      fun _ stage' _ => stage'.Free := by
  refine (MatchmakingManager.adheres_findMatchTicketByPlayerKey _ _).bind
    fun world stage' found _ same => ?_
  obtain ⟨rfl, known⟩ := same
  cases found with
  | none => exact adheres_pure .free
  | some ticket =>
      obtain ⟨made, group, served⟩ := known ticket rfl
      exact (adheres_cancelFound made served).bind fun _ _ _ _ free => adheres_pure free

theorem adheres_stopMatchBackfill (matchTicketId : MatchTicketId) :
    Adheres deployment permits seen (.free held) (stopMatchBackfill deployment matchTicketId)
      fun _ stage' _ => stage'.Free := by
  refine (MatchmakingManager.adheres_findMatchTicket _ _).bind fun world stage' found _ same => ?_
  obtain ⟨rfl, known⟩ := same
  cases found with
  | none => exact adheres_pure .free
  | some ticket =>
      obtain ⟨made, group, served⟩ := known ticket rfl
      exact (adheres_cancelFound made served).bind fun _ _ _ _ free => adheres_pure free

theorem adheres_cleanupPrevMatchmaking (playerKey : PlayerKey) :
    Adheres deployment permits seen (.free held) (cleanupPrevMatchmaking deployment playerKey)
      fun _ stage' _ => stage'.Free := by
  refine (MatchmakingManager.adheres_findMatchTicketByPlayerKey _ _).bind
    fun world stage' found _ same => ?_
  obtain ⟨rfl, -⟩ := same
  have leaves : ∀ {world stage} (stopped : Option MatchTicket), Stage.Free stage →
      Adheres deployment permits world stage
        (do
          let left ← IntegrationZoneInstanceManager.processPlayerLeaveToIntegrationServer
            playerKey false
          return stopped.isSome || left)
        fun _ stage' _ => stage'.Free :=
    fun stopped free =>
      have leaving :=
        IntegrationZoneInstanceManager.neutral_processPlayerLeaveToIntegrationServer _ _
      leaving.adheres.bind fun _ _ _ _ same => adheres_pure (same ▸ free)
  simp only
  split
  · exact (adheres_stopMatchmaking playerKey).bind fun _ _ stopped _ free => leaves stopped free
  · exact leaves none .free

end PartyMatchmakingManager

/-! ## Starting -/

theorem adheres_anyOf {Element : Type} {elements : List Element}
    {operation : Element → Operation Bool}
    (adheres : ∀ world held element, Adheres deployment permits world (.free held)
      (operation element) fun _ stage' _ => stage'.Free) :
    Adheres deployment permits seen (.free held) (anyOf elements operation)
      fun _ stage' _ => stage'.Free := by
  induction elements generalizing seen held with
  | nil => exact adheres_pure .free
  | cons element rest ih =>
      refine (adheres seen held element).bind fun world stage' _ _ free => ?_
      cases free with
      | free => exact ih.bind fun _ _ _ _ free => adheres_pure free

theorem SoloMatchmakingManager.adheres_startMatchmaking {request : MatchTicketRequest}
    (permitted : permits request) :
    Adheres deployment permits seen (.free held) (startMatchmaking deployment request)
      fun _ stage' _ => stage'.Free := by
  refine (neutral_readWorld _).adheres.bind fun world stage' running _ same => ?_
  subst same
  split
  · exact adheres_pure .free
  split
  · exact adheres_pure .free
  next single =>
  refine (adheres_anyOf fun _ _ _ => adheres_cleanupPrevMatchmaking _).bind
    fun world stage' cleaned _ free => ?_
  cases free with
  | free =>
      split
      · exact adheres_pure .free
      refine (MatchPenaltyManager.neutral_hasDodgePenalty _).adheres.bind
        fun world stage' penalized _ same => ?_
      subst same
      split
      · exact adheres_pure .free
      exact MatchmakingManager.adheres_submit permitted (fun _ => by omega)
        fun world ticket made => MatchmakingManager.adheres_enqueue made
          fun _ _ _ made served => SoloMatchmakingWorkerGroup.adheres_enqueueJobRequest made served

namespace PartyMatchmakingManager

theorem adheres_enqueueWorkerJobRequest (made : seen.Made .party ticket) :
    Adheres deployment permits seen (.starting .party ticket none)
      (enqueueWorkerJobRequest deployment ticket)
      fun _ stage' accepted => Enqueued .party ticket stage' accepted :=
  MatchmakingManager.adheres_enqueue made fun _ _ _ made served =>
    PartyMatchmakingWorkerGroup.adheres_enqueueJobRequest made served

theorem adheres_startMatchmaking {request : MatchTicketRequest} (permitted : permits request) :
    Adheres deployment permits seen (.free held) (startMatchmaking deployment request)
      fun _ stage' _ => stage'.Free := by
  refine (neutral_readWorld _).adheres.bind fun world stage' running _ same => ?_
  subst same
  split
  · exact adheres_pure .free
  refine (adheres_anyOf fun _ _ _ => adheres_cleanupPrevMatchmaking _).bind
    fun world stage' cleaned _ free => ?_
  cases free with
  | free =>
      split
      · exact adheres_pure .free
      refine (MatchPenaltyManager.neutral_hasDodgePenalty _).adheres.bind
        fun world stage' penalized _ same => ?_
      subst same
      split
      · exact adheres_pure .free
      exact MatchmakingManager.adheres_submit permitted
        (fun solo : QueueKind.party = .solo => nomatch solo)
        fun world ticket made => adheres_enqueueWorkerJobRequest made

theorem adheres_startMatchBackfill {request : MatchTicketRequest} (permitted : permits request) :
    Adheres deployment permits seen (.free held) (startMatchBackfill deployment request)
      fun _ stage' _ => stage'.Free := by
  refine (MatchmakingManager.adheres_makeMatchTicket permitted
    fun solo : QueueKind.party = .solo => nomatch solo).bind fun world stage' ticket _ same => ?_
  obtain ⟨rfl, made⟩ := same
  refine (adheres_enqueueWorkerJobRequest made).bind fun world stage' accepted later enqueued => ?_
  cases accepted with
  | true =>
      cases enqueued
      exact adheres_pure .free
  | false =>
      obtain ⟨base, rfl⟩ := enqueued
      refine MatchmakingManager.adheres_unregister.bind fun world stage' _ latest same => ?_
      subst same
      exact (MatchmakingManager.adheres_abandon ((later.trans latest).made made)).bind
        fun _ _ _ _ same => adheres_pure (same.1 ▸ .free)

end PartyMatchmakingManager

/-! ## Worker runs -/

theorem TicketSet.perm_ofList (order : IterationOrder MatchTicket) {tickets : List MatchTicket}
    (nodup : tickets.Nodup) : (TicketSet.ofList order tickets).1.Perm tickets :=
  (order.2 tickets.dedup).trans (by rw [nodup.dedup])

theorem TicketSet.mem_ofList {order : IterationOrder MatchTicket} {tickets : List MatchTicket}
    {ticket : MatchTicket} : ticket ∈ (TicketSet.ofList order tickets).1 ↔ ticket ∈ tickets :=
  (order.2 _).mem_iff.trans List.mem_dedup

section Runs

variable {world : World} {index : Int}

/-- The requests in progress are carried to the group. -/
theorem World.Sound.progressing_carried (sound : world.Sound deployment permits)
    (served : deployment.getWorkerGroup .solo group.workerGroupKey = some group)
    {request : MatchmakingRequest}
    (member : request ∈ ((world.soloWorker group index).filled
      group.matchmakingRule).sendProgressingList.values) :
    ∃ ticket, request = ticket.matchmakingRequest ∧
      ticket.matchingGroupKey = group.workerGroupKey ∧
      Carried deployment world .solo group ticket :=
  (((sound.solo _ index).filled group.matchmakingRule).progressing.of_mem_values
    member).of_served served

/-- The tickets of a complete list in progress fill a match. -/
theorem World.Sound.progressing_fills (sound : world.Sound deployment permits)
    (served : deployment.getWorkerGroup .solo group.workerGroupKey = some group)
    (complete : sizeAtLeast ((world.soloWorker group index).filled
      group.matchmakingRule).sendProgressingList.size
      group.matchmakingRule.matchPlayerCount = true)
    {tickets : List MatchTicket}
    (ticketsOf : TicketsOf ((world.soloWorker group index).filled
      group.matchmakingRule).sendProgressingList.values tickets) :
    Fills group tickets ∧ ∀ ticket ∈ tickets, world.Made .solo ticket := by
  have known : ∀ ticket ∈ tickets, ticket.matchingGroupKey = group.workerGroupKey ∧
      Carried deployment world .solo group ticket := by
    intro ticket inside
    obtain ⟨request, member, pointer⟩ := ticketsOf.request_of_mem inside
    obtain ⟨other, rfl, keyed, carried⟩ := sound.progressing_carried served member
    cases pointer
    exact ⟨keyed, carried⟩
  refine ⟨⟨fun ticket inside => (known ticket inside).1, ?_⟩,
    fun ticket inside => (known ticket inside).2.made⟩
  have single : ∀ ticket ∈ tickets, (ticket.players.length : Int) = 1 := by
    intro ticket inside
    have carried := (known ticket inside).2
    have least := pos_of_contains carried.admitted
    have most := sound.single ticket carried.made
    omega
  have total : (tickets.map fun ticket => (ticket.players.length : Int)).sum = tickets.length := by
    rw [List.map_congr_left single]
    simp
  have length : tickets.length = ((world.soloWorker group index).filled
      group.matchmakingRule).sendProgressingList.size := by
    have lengths := congrArg List.length ticketsOf
    simp only [List.length_map, OrderedMap.values] at lengths
    exact lengths.symm
  rw [total, length]
  refine SoloMatchmakingWorker.size_eq_of_sizeAtLeast complete ?_
  exact SoloMatchmakingWorker.size_filled_le (sound.progressing group served index)
    fun nonpos => sound.waitingQueue_of_nonpos served nonpos index

/-- What a run of a solo worker leaves in the thread's hands. -/
private def SoloOutcome (group : WorkerGroup) (order : IterationOrder MatchTicket)
    (held : Option (MatchId × MatchSession)) (world : World) (stage : Stage) :
    SoloMatchmakingWorker.JobOutcome → Prop
  | .incomplete => stage = .free held
  | .matched tickets => stage = .claimed .solo group (TicketSet.ofList order tickets).1 ∧
      Fills group (TicketSet.ofList order tickets).1 ∧
      ∀ ticket ∈ (TicketSet.ofList order tickets).1, world.Made .solo ticket ∧
        (world.ticketStatus ticket).engaged = true
  | .rejected tickets => stage = .failing (TicketSet.ofList order tickets).1 ∧
      ∀ ticket ∈ (TicketSet.ofList order tickets).1, world.Made .solo ticket ∧
        (world.ticketStatus ticket).departed = true

private theorem adheres_soloRun (order : IterationOrder MatchTicket)
    (served : deployment.getWorkerGroup .solo group.workerGroupKey = some group)
    (present : hasWorker group.workerCount index = true) :
    Adheres deployment permits seen (.free held)
      (Program.atomically (.soloRun group index) fun world => (world.soloRun group index).1)
      (SoloOutcome group order held) := by
  refine adheres_atomically fun world _ sound => ?_
  have after : ∀ {outcome worker statuses},
      world.soloRun group index = (outcome, worker, statuses) →
      (perform (.soloRun group index) world).ticketStatus = statuses := by
    intro outcome worker statuses run
    simp only [perform, run]
    rfl
  rcases SoloMatchmakingWorker.doWorkerAsyncJob_cases group.matchmakingRule
    (world.soloWorker group index) world.ticketStatus with
    ⟨-, run⟩ | ⟨complete, ⟨success, run⟩ | ⟨-, run⟩⟩
  · have outcome : (world.soloRun group index).1 = .incomplete := congrArg Prod.fst run
    exact ⟨_, .soloWait served present outcome, by rw [outcome]; rfl⟩
  · have outcome := congrArg Prod.fst run
    obtain ⟨ticketsOf, nodup, -, moved⟩ := SoloMatchmakingWorker.searchTickets_success success
    obtain ⟨fills, made⟩ := sound.progressing_fills served complete ticketsOf
    have perm := TicketSet.perm_ofList order nodup
    refine ⟨_, .soloClaim served present outcome perm, ?_⟩
    rw [show (world.soloRun group index).1 = _ from outcome]
    refine ⟨rfl, fills.of_perm perm, fun ticket inside => ?_⟩
    have inside := perm.mem_iff.mp inside
    refine ⟨perform_made (made ticket inside), ?_⟩
    rw [after run, moved, moveAll_of_mem inside]
    rfl
  · have outcome := congrArg Prod.fst run
    refine ⟨_, .soloReject served present outcome
      fun ticket (inside : ticket ∈ (TicketSet.ofList order _).1) =>
        TicketSet.mem_ofList.mp inside, ?_⟩
    rw [show (world.soloRun group index).1 = _ from outcome]
    refine ⟨rfl, fun ticket inside => ?_⟩
    have searched := TicketSet.mem_ofList.mp inside
    obtain ⟨request, member, pointer⟩ := SoloMatchmakingWorker.mem_searchTickets.mp searched
    obtain ⟨other, rfl, -, carried⟩ := sound.progressing_carried served member
    cases pointer
    refine ⟨perform_made carried.made, ?_⟩
    by_contra waiting
    rcases MatchTicketStatus.not_departed_iff.mp waiting with none | queued
    · exact ((precedes_perform _ world).advances ticket).ne_none (carried.started rfl) none
    · rw [after run] at queued
      exact SoloMatchmakingWorker.searchTickets_not_queued searched queued

end Runs

theorem SoloMatchmakingWorkerGroup.adheres_doWorkerAsyncJob
    (served : deployment.getWorkerGroup .solo group.workerGroupKey = some group)
    (workerId : Int) (order : IterationOrder MatchTicket) :
    Adheres deployment permits seen (.free held) (doWorkerAsyncJob group workerId order)
      fun _ stage' _ => stage'.Idle := by
  rw [doWorkerAsyncJob]
  split
  · exact adheres_pure (.free .free)
  next present =>
  refine (adheres_soloRun order served (by simpa using present)).bind
    fun world stage' outcome _ holds => ?_
  cases outcome with
  | incomplete =>
      cases holds
      exact adheres_pure (.free .free)
  | matched tickets =>
      obtain ⟨rfl, fills, known⟩ := holds
      exact (MatchSessionManager.adheres_createMatchSession served fills
        (fun ticket inside => (known ticket inside).1)
        fun ticket inside => (known ticket inside).2).bind fun _ _ _ _ idle => adheres_pure idle
  | rejected tickets =>
      obtain ⟨rfl, known⟩ := holds
      refine (adheres_forAll_failing (fun _ => .solo) (fun ticket inside => (known ticket inside).1)
        fun ticket inside => (known ticket inside).2).bind fun _ _ _ _ same => ?_
      exact adheres_pure (same ▸ .failed)

theorem ticketsOf_matchmakingRequest (tickets : List MatchTicket) :
    TicketsOf (tickets.map MatchTicket.matchmakingRequest) tickets := by
  simp [TicketsOf]

theorem TicketsOf.unique {requests : List MatchmakingRequest} {tickets others : List MatchTicket}
    (first : TicketsOf requests tickets) (second : TicketsOf requests others) :
    tickets = others :=
  List.map_injective_iff.mpr (Option.some_injective _) (first.symm.trans second)

namespace PartyMatchmakingWorkerGroup

/-- The requests are those of tickets carried to the group, and fill a match. -/
private def Matching (deployment : Deployment) (group : WorkerGroup) (world : World)
    (requests : List MatchmakingRequest) : Prop :=
  ∃ tickets : List MatchTicket, requests = tickets.map MatchTicket.matchmakingRequest ∧
    (∀ ticket ∈ tickets, Carried deployment world .party group ticket) ∧ tickets.Nodup ∧
    (requests ≠ [] → Fills group tickets)

private theorem adheres_makeMatchmaking
    (served : deployment.getWorkerGroup .party group.workerGroupKey = some group)
    (workerId : Int) (countOrder : IterationOrder Int) :
    Adheres deployment permits seen stage (makeMatchmaking group workerId countOrder)
      fun world stage' requests => stage' = stage ∧ Matching deployment group world requests := by
  refine adheres_readWorld fun world _ sound => ⟨rfl, ?_⟩
  obtain ⟨every, sum⟩ := PartyMatchmakingWorker.makeMatchmaking_sound
    ((sound.party group.workerGroupKey).workers workerId)
    countOrder group.matchmakingRule
  have distinct : (PartyMatchmakingWorker.makeMatchmaking _ world.ticketStatus countOrder
      group.matchmakingRule).Nodup :=
    PartyMatchmakingWorker.nodup_makeMatchmaking (sound.filed group.workerGroupKey workerId) _ _
  simp only [World.partyGroup]
  generalize PartyMatchmakingWorker.makeMatchmaking _ _ _ _ = requests at every sum distinct
  have known : ∀ request ∈ requests, ∃ ticket : MatchTicket, request = ticket.matchmakingRequest ∧
      ticket.matchingGroupKey = group.workerGroupKey ∧
      Carried deployment world .party group ticket :=
    fun request inside => (every request inside).of_served served
  have tickets : ∃ tickets : List MatchTicket,
      requests = tickets.map MatchTicket.matchmakingRequest ∧
      ∀ ticket ∈ tickets, ticket.matchingGroupKey = group.workerGroupKey ∧
        Carried deployment world .party group ticket := by
    clear every sum distinct
    induction requests with
    | nil => exact ⟨[], rfl, List.forall_mem_nil _⟩
    | cons request rest ih =>
        obtain ⟨ticket, rfl, carried⟩ := known request List.mem_cons_self
        obtain ⟨tickets, rfl, others⟩ :=
          ih fun other inside => known other (List.mem_cons_of_mem _ inside)
        exact ⟨ticket :: tickets, rfl, List.forall_mem_cons.mpr ⟨carried, others⟩⟩
  obtain ⟨tickets, rfl, carried⟩ := tickets
  refine ⟨tickets, rfl, fun ticket inside => (carried ticket inside).2, distinct.of_map _,
    fun nonempty => ⟨fun ticket inside => (carried ticket inside).1, ?_⟩⟩
  have total := sum nonempty
  rw [List.map_map] at total
  exact total

/-- What a commit leaves in the thread's hands. -/
private theorem adheres_tryCommit (order : IterationOrder MatchTicket)
    {tickets : List MatchTicket}
    (carried : ∀ ticket ∈ tickets, Carried deployment seen .party group ticket)
    (distinct : tickets.Nodup) :
    Adheres deployment permits seen (.free held)
      (tryCommit group ((tickets.map MatchTicket.matchmakingRequest).map some))
      fun world stage' committed =>
        if committed then
          stage' = .claimed .party group (TicketSet.ofList order tickets).1 ∧
            (TicketSet.ofList order tickets).1.Perm tickets ∧
            ∀ ticket ∈ tickets, (world.ticketStatus ticket).engaged = true
        else stage' = .free held := by
  refine adheres_atomically fun world precedes _ => ?_
  rcases tryCommit_cases
    ((tickets.map MatchTicket.matchmakingRequest).map some) with
    run | ⟨requests, claimed, same, ticketsOf, -, nodup, -, run⟩
  · have refused := congrArg Prod.fst run
    exact ⟨_, .partyRefuse refused (fun ticket inside => (carried ticket inside).mono precedes) rfl
      distinct, by
      rw [show (world.partyCommit group _).1 = _ from refused]
      rfl⟩
  · have committed := congrArg Prod.fst run
    obtain rfl := List.map_injective_iff.mpr (Option.some_injective _) same
    obtain rfl := (ticketsOf_matchmakingRequest tickets).unique ticketsOf
    have perm := TicketSet.perm_ofList order nodup
    refine ⟨_, .partyClaim committed (fun ticket inside => (carried ticket inside).mono precedes)
      rfl perm distinct, ?_⟩
    rw [show (world.partyCommit group _).1 = _ from committed]
    refine ⟨rfl, perm, fun ticket inside => ?_⟩
    have moved : (perform (.partyCommit group ((tickets.map MatchTicket.matchmakingRequest).map
        some)) world).ticketStatus = moveAll tickets .searching world.ticketStatus := by
      simp only [perform, World.partyCommit, run]
      rfl
    rw [moved, moveAll_of_mem inside]
    rfl

theorem adheres_doWorkerAsyncJob
    (served : deployment.getWorkerGroup .party group.workerGroupKey = some group)
    (workerId : Int) (countOrder : IterationOrder Int) (order : IterationOrder MatchTicket) :
    Adheres deployment permits seen (.free held) (doWorkerAsyncJob group workerId countOrder order)
      fun _ stage' _ => stage'.Idle := by
  rw [doWorkerAsyncJob]
  split
  · exact adheres_pure (.free .free)
  refine (adheres_makeMatchmaking served workerId countOrder).bind
    fun world stage' requests _ holds => ?_
  obtain ⟨rfl, tickets, rfl, carried, distinct, fills⟩ := holds
  split
  · exact adheres_pure (.free .free)
  next nonempty =>
  have nonempty : tickets ≠ [] := by
    rintro rfl
    exact nonempty rfl
  have fills := fills (by simpa using nonempty)
  refine (adheres_tryCommit order carried distinct).bind
    fun world stage' committed precedes holds => ?_
  cases committed with
  | false =>
      cases holds
      exact adheres_pure (.free .free)
  | true =>
      obtain ⟨rfl, perm, engaged⟩ := holds
      have present : (tickets.map MatchTicket.matchmakingRequest).filter
          (fun request => request.matchTicketPtr.isSome) =
          tickets.map MatchTicket.matchmakingRequest := by
        simp [List.filter_eq_self]
      have admitted : ((tickets.map MatchTicket.matchmakingRequest).any fun request =>
          !group.matchmakingRule.combination.contains request.playerCount) = false := by
        simp only [List.any_map, List.any_eq_false, Function.comp_apply, Bool.not_eq_true']
        intro ticket inside
        simpa using (carried ticket inside).admitted
      have total : group.matchmakingRule.matchPlayerCount = ((tickets.map
          MatchTicket.matchmakingRequest).map MatchmakingRequest.playerCount).sum := by
        rw [← fills.count, List.map_map]
        rfl
      have pointers : (tickets.map MatchTicket.matchmakingRequest).filterMap
          MatchmakingRequest.matchTicketPtr = tickets :=
        (ticketsOf_matchmakingRequest tickets).filterMap
      simp only [present, admitted, total, pointers, Bool.true_eq_false, Bool.false_eq_true,
        if_false, and_self, if_true]
      refine (MatchSessionManager.adheres_createMatchSession served (fills.of_perm perm)
        (fun ticket inside => precedes.made (carried ticket (perm.mem_iff.mp inside)).made)
        fun ticket inside => engaged ticket (perm.mem_iff.mp inside)).bind fun _ _ _ _ idle => ?_
      exact adheres_pure idle

end PartyMatchmakingWorkerGroup

/-! ## Calls -/

theorem adheres_onGroup {queue : QueueKind} {key : MatchmakingGroupKey}
    {operation : WorkerGroup → Operation Unit}
    (adheres : ∀ group, deployment.getWorkerGroup queue group.workerGroupKey = some group →
      Adheres deployment permits seen (.free held) (operation group)
        fun _ stage' _ => stage'.Idle) :
    Adheres deployment permits seen (.free held) (onGroup deployment queue key operation)
      fun _ stage' _ => stage'.Idle := by
  rw [onGroup]
  cases served : deployment.getWorkerGroup queue key with
  | none => exact adheres_pure (.free .free)
  | some group => exact adheres group (Deployment.getWorkerGroup_self served)

theorem adheres_sessionWorkerRun :
    Adheres deployment permits seen (.free held) sessionWorkerRun
      fun _ stage' _ => stage'.Free := by
  refine (neutral_atomically rfl _).adheres.bind fun world stage' job _ same => ?_
  subst same
  cases job with
  | none => exact adheres_pure .free
  | some job =>
      cases job with
      | timeOutAccept matchId =>
          exact MatchSessionManager.adheres_onTimeOutAcceptMatchSession matchId
      | accept playerKey => exact MatchSessionManager.adheres_acceptMatchSession _
      | timeOutPlace matchId =>
          exact MatchSessionManager.adheres_onTimeOutPlaceMatchSession matchId
      | complete info => exact MatchSessionManager.adheres_onCompleteMatchSession info true

theorem adheres_processPlayerLogin (playerKey : PlayerKey) :
    Adheres deployment permits seen (.free held) (processPlayerLogin deployment playerKey)
      fun _ stage' _ => stage'.Free := by
  refine (PartyMatchmakingManager.adheres_stopMatchmaking playerKey).bind
    fun world stage' _ _ free => ?_
  cases free with
  | free =>
      refine (SoloMatchmakingManager.adheres_stopMatchmaking playerKey false).bind
        fun world stage' _ _ free => ?_
      refine (IntegrationZoneInstanceManager.neutral_findByPlayerKey playerKey).adheres.bind
        fun _ _ _ _ same => ?_
      exact adheres_pure (same ▸ free)

/-- **The program of every call follows the stages.** -/
theorem adheres_program {call : Call}
    (permitted : ∀ request, call.request = some request → permits request) :
    Adheres deployment permits seen (.free held) (call.program deployment)
      fun _ stage' _ => stage'.Idle := by
  have free : ∀ {Result : Type} {operation : Operation Result},
      Adheres deployment permits seen (.free held) operation (fun _ stage' _ => stage'.Free) →
      Adheres deployment permits seen (.free held) (do let _ ← operation)
        fun _ stage' _ => stage'.Idle :=
    fun adheres => adheres.bind fun _ _ _ _ free => adheres_pure (.free free)
  have ends : ∀ {operation : Operation Unit},
      Adheres deployment permits seen (.free held) operation (fun _ stage' _ => stage'.Free) →
      Adheres deployment permits seen (.free held) operation fun _ stage' _ => stage'.Idle :=
    fun adheres => adheres.mono fun _ _ _ _ free => .free free
  have idles : ∀ {Result : Type} {operation : Operation Result}, Neutral operation →
      Adheres deployment permits seen (.free held) operation fun _ stage' _ => stage'.Idle :=
    fun neutral => neutral.adheres.mono fun _ _ _ _ same => same ▸ .free .free
  cases call with
  | tick timeMsec => exact idles (neutral_atomically rfl _)
  | soloStartMatchmaking request =>
      exact free (SoloMatchmakingManager.adheres_startMatchmaking (permitted request rfl))
  | soloStopMatchmaking playerKey applyDodgePenalty =>
      exact free (SoloMatchmakingManager.adheres_stopMatchmaking playerKey applyDodgePenalty)
  | soloWorkerRun key workerId order =>
      exact adheres_onGroup fun group served =>
        (SoloMatchmakingWorkerGroup.adheres_doWorkerAsyncJob served workerId order).bind
          fun _ _ _ _ idle => adheres_pure idle
  | partyStartMatchmaking request =>
      exact free (PartyMatchmakingManager.adheres_startMatchmaking (permitted request rfl))
  | partyStopMatchmaking playerKey =>
      exact free (PartyMatchmakingManager.adheres_stopMatchmaking playerKey)
  | startMatchBackfill request =>
      exact free (PartyMatchmakingManager.adheres_startMatchBackfill (permitted request rfl))
  | stopMatchBackfill matchTicketId =>
      exact ends (PartyMatchmakingManager.adheres_stopMatchBackfill matchTicketId)
  | partyWorkerRun key workerId countOrder order =>
      exact adheres_onGroup fun group served =>
        (PartyMatchmakingWorkerGroup.adheres_doWorkerAsyncJob served workerId countOrder
          order).bind fun _ _ _ _ idle => adheres_pure idle
  | expandMatchmakingWorkerSlots key =>
      exact adheres_onGroup fun group served =>
        adheres_atomically fun _ _ _ => ⟨_, .partyExpand served, .free .free⟩
  | acceptMatchSession acceptInfo =>
      exact ends (MatchSessionManager.adheres_acceptMatchSession acceptInfo)
  | onTimeOutAcceptMatchSession matchId =>
      exact ends (MatchSessionManager.adheres_onTimeOutAcceptMatchSession matchId)
  | onTimeOutPlaceMatchSession matchId =>
      exact ends (MatchSessionManager.adheres_onTimeOutPlaceMatchSession matchId)
  | onFailedMatchSession matchId =>
      exact ends (MatchSessionManager.adheres_onFailedMatchSession matchId)
  | onCompleteMatchSession info success =>
      exact ends (MatchSessionManager.adheres_onCompleteMatchSession info success)
  | sessionWorkerRun => exact ends adheres_sessionWorkerRun
  | penaltyWorkerRun => exact idles neutral_penaltyWorkerRun
  | zoneWorkerRun => exact idles neutral_zoneWorkerRun
  | playerLogin playerKey => exact ends (adheres_processPlayerLogin playerKey)
  | playerLeave playerKey isDodge =>
      exact idles ((IntegrationZoneInstanceManager.neutral_processPlayerLeaveToIntegrationServer _
        _).bind fun _ => trivial)
  | playerLeaved playerKey isDodge =>
      exact idles
        (IntegrationZoneInstanceManager.neutral_processPlayerLeavedFromIntegrationServer _ _)
  | zoneUpdated key =>
      exact idles (IntegrationZoneInstanceManager.neutral_processZoneInstanceInfoUpdated key)
  | zoneTerminated info =>
      exact idles (IntegrationZoneInstanceManager.neutral_processZoneInstanceTerminated info)
  | integrationServerClosed sessionKey worldNo =>
      exact idles (IntegrationZoneInstanceManager.neutral_processIntegrationServerClosed _ _)

/-! ## Assertions about runs -/

section Runs

variable {admissible : Call → Prop} {allowed : Section → World → Prop}
  {trace : List (Executed Section World)} {pool : Pool Section World}
  (permitted : ∀ call, admissible call → ∀ request, call.request = some request → permits request)

include permitted

/-- **Interleavings.** The state stays sound, every step is issued between two
stages, and an assertion holds throughout when every issued and allowed section
keeps it. -/
theorem Interleaved.asserted
    (asserts : List (Executed Section World) → World → Multiset Stage → Prop)
    (initially : asserts [] {} 0)
    (joining : ∀ trace world stages, asserts trace world stages →
      asserts trace world (.free none ::ₘ stages))
    (preserved : ∀ trace world others step stage stage', world.Sound deployment permits →
      Issues deployment permits step world stage stage' → allowed step world →
      asserts trace world (stage ::ₘ others) →
      asserts (trace ++ [⟨step, world, perform step world⟩]) (perform step world)
        (stage' ::ₘ others))
    (execution : Interleaved deployment admissible allowed trace pool) :
    pool.state.Sound deployment permits ∧
      (∀ executed ∈ trace, executed.before.Sound deployment permits ∧
        ∃ stage stage', Issues deployment permits executed.command executed.before stage stage') ∧
      ∃ stages, asserts trace pool.state stages := by
  refine Execution.asserted (fun _ _ _ _ sound issues => issues.sound sound)
    (fun _ stage _ => stage.Idle) World.Precedes.refl
    (fun _ _ _ => World.Precedes.trans) precedes_perform World.Sound.initial initially ?_
    preserved execution
  rintro program ⟨call, admits, rfl⟩
  refine ⟨.free none, fun seen => ?_, joining⟩
  exact Program.Follows.mono (fun _ _ _ ends => ends.2) (adheres_program (permitted call admits))

/-- Every step of an interleaving is issued in a sound state. -/
theorem Interleaved.issued (execution : Interleaved deployment admissible allowed trace pool) :
    ∀ executed ∈ trace, executed.before.Sound deployment permits ∧
      ∃ stage stage', Issues deployment permits executed.command executed.before stage stage' :=
  (execution.asserted permitted (fun _ _ _ => True) trivial (fun _ _ _ _ => trivial)
    fun _ _ _ _ _ _ _ _ _ _ => trivial).2.1

theorem Interleaved.sound (execution : Interleaved deployment admissible allowed trace pool) :
    pool.state.Sound deployment permits :=
  (execution.asserted permitted (fun _ _ _ => True) trivial (fun _ _ _ _ => trivial)
    fun _ _ _ _ _ _ _ _ _ _ => trivial).1

end Runs

section Order

variable {admissible : Call → Prop} {allowed : Section → World → Prop}
  {steps : List (Executed Section World)} {pool : Pool Section World}
  (execution : Interleaved deployment admissible allowed steps pool)

include execution

theorem Interleaved.precedes_later {first second : Nat} (order : first < second)
    {earlier later : Executed Section World} (atFirst : steps[first]? = some earlier)
    (atSecond : steps[second]? = some later) : earlier.after.Precedes later.before :=
  execution.related_later World.Precedes.refl (fun _ _ _ => World.Precedes.trans)
    (fun _ _ _ => precedes_perform _ _) order atFirst atSecond

end Order

end MatchmakingMvp
