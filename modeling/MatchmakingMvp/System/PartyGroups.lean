import MatchmakingMvp.System.CallAdherence
import MatchmakingMvp.Worker.Range

/-! # Party groups hold exactly their queued tickets

With server-issued ids, the workers of a party group hold a ticket of the group
exactly while it is queued, and exactly in the ticket's range
(`MatchmakingMvp.World.PartyHeld`). Every section keeps this except a cancel that
catches a ticket before its group has queued it (`MatchmakingMvp.Issues.partyHeld`).
-/

namespace MatchmakingMvp

open Foundation

variable {deployment : Deployment} {permits : MatchTicketRequest → Prop}

/-- A queued ticket of a manager. -/
def World.Queued (world : World) (queue : QueueKind) (ticket : MatchTicket) : Prop :=
  world.Made queue ticket ∧ world.ticketStatus ticket = .queued

/-- The queued tickets of a worker group. -/
def World.QueuedIn (world : World) (queue : QueueKind) (key : MatchmakingGroupKey)
    (ticket : MatchTicket) : Prop :=
  world.Queued queue ticket ∧ ticket.matchingGroupKey = key

/-- The workers of every party group hold its queued tickets in their ranges. -/
structure World.PartyHeld (deployment : Deployment) (world : World) : Prop where
  groups : ∀ group : WorkerGroup,
    deployment.getWorkerGroup .party group.workerGroupKey = some group →
    (world.partyGroup group).Holds (PartyMatchmakingWorkerGroup.InRange
      (world.QueuedIn .party group.workerGroupKey) world.workerSlot group.workerCount)
  levels : ∀ request, 0 ≤ (world.workerSlot request).workerExpansionLevel

/-- A ticket on its way to a party group has not been queued, and its request was
at most assigned to its base worker. -/
def World.Awaits (world : World) : Stage → Prop
  | .starting .party ticket base =>
      world.Made .party ticket ∧ world.ticketStatus ticket = .none ∧
        world.workerSlot ticket.matchmakingRequest = { baseWorkerIndex := base.getD 0 }
  | _ => True

/-- The party ticket a thread is about to hand to its group. -/
def Stage.starts : Stage → Option MatchTicket
  | .starting .party ticket _ => some ticket
  | _ => none

section Frames

variable {before after : World}

theorem World.PartyHeld.of_frame (held : before.PartyHeld deployment)
    (workers : ∀ key, (after.partyGroups key).workers = (before.partyGroups key).workers)
    (slots : ∀ ticket, before.Queued .party ticket →
      after.workerSlot ticket.matchmakingRequest = before.workerSlot ticket.matchmakingRequest)
    (levels : ∀ request, 0 ≤ (after.workerSlot request).workerExpansionLevel)
    (queued : ∀ ticket, after.Queued .party ticket ↔ before.Queued .party ticket) :
    after.PartyHeld deployment := by
  refine ⟨fun group served index => ?_, levels⟩
  rw [World.partyGroup, workers]
  refine (held.groups group served index).congr fun ticket => ?_
  simp only [PartyMatchmakingWorkerGroup.InRange, World.QueuedIn, queued]
  refine and_congr_right fun inside => ?_
  rw [slots ticket inside.1]

/-- Sections that change neither party groups nor ranges nor queued tickets. -/
theorem World.PartyHeld.of_same (held : before.PartyHeld deployment)
    (workers : after.partyGroups = before.partyGroups)
    (slots : after.workerSlot = before.workerSlot)
    (queued : ∀ ticket, after.Queued .party ticket ↔ before.Queued .party ticket) :
    after.PartyHeld deployment :=
  held.of_frame (fun key => by rw [workers]) (fun ticket _ => by rw [slots])
    (fun request => by rw [slots]; exact held.levels request) queued

/-- Sections that change one party group and its tickets. -/
theorem World.PartyHeld.of_update (held : before.PartyHeld deployment) {group : WorkerGroup}
    (served : deployment.getWorkerGroup .party group.workerGroupKey = some group)
    (mine : (after.partyGroup group).Holds (PartyMatchmakingWorkerGroup.InRange
      (after.QueuedIn .party group.workerGroupKey) after.workerSlot group.workerCount))
    (others : ∀ key, key ≠ group.workerGroupKey → after.partyGroups key = before.partyGroups key)
    (slots : ∀ ticket : MatchTicket, ticket.matchingGroupKey ≠ group.workerGroupKey →
      after.workerSlot ticket.matchmakingRequest = before.workerSlot ticket.matchmakingRequest)
    (levels : ∀ request, 0 ≤ (after.workerSlot request).workerExpansionLevel)
    (queued : ∀ ticket, ticket.matchingGroupKey ≠ group.workerGroupKey →
      (after.Queued .party ticket ↔ before.Queued .party ticket)) :
    after.PartyHeld deployment := by
  refine ⟨fun other served' => ?_, levels⟩
  by_cases own : other.workerGroupKey = group.workerGroupKey
  · have same : other = group := by
      rw [own, served, Option.some.injEq] at served'
      exact served'.symm
    exact same ▸ mine
  · intro index
    rw [World.partyGroup, others _ own]
    refine (held.groups other served' index).congr fun ticket => ?_
    simp only [PartyMatchmakingWorkerGroup.InRange, World.QueuedIn]
    by_cases keyed : ticket.matchingGroupKey = other.workerGroupKey
    · have away : ticket.matchingGroupKey ≠ group.workerGroupKey := keyed ▸ own
      rw [queued ticket away, slots ticket away]
    · simp only [keyed, and_false, false_and]

/-- A section keeps the set of queued tickets if every ticket it changes was not
queued and is not queued. -/
theorem World.queued_iff {queue : QueueKind} {step : Section} {world : World}
    (made : (perform step world).matchTickets = world.matchTickets)
    (same : ∀ ticket, world.Made queue ticket → (world.ticketStatus ticket).departed = false →
      (perform step world).ticketStatus ticket = world.ticketStatus ticket ∨
        world.ticketStatus ticket ≠ .queued ∧ (perform step world).ticketStatus ticket ≠ .queued)
    (ticket : MatchTicket) :
    (perform step world).Queued queue ticket ↔ world.Queued queue ticket := by
  simp only [World.Queued, World.Made, made]
  refine and_congr_right fun inside => ?_
  cases departed : (world.ticketStatus ticket).departed with
  | false =>
      rcases same ticket inside departed with same | ⟨before, after⟩
      · rw [same]
      · exact iff_of_false after before
  | true =>
      have later := (precedes_perform step world).departed departed
      refine iff_of_false ?_ ?_
      · intro queued
        rw [queued] at later
        cases later
      · intro queued
        rw [queued] at departed
        cases departed

/-- Changing a session changes engaged tickets only. -/
theorem World.changeSessionStatus_of_not_departed {world : World} {session : MatchSession}
    {status : MatchTicketStatus} {ticket : MatchTicket}
    (engaged : ∀ ticket ∈ session.tickets, (world.ticketStatus ticket).engaged = true)
    (waits : (world.ticketStatus ticket).departed = false) :
    (world.changeSessionStatus session status).2.2 ticket = world.ticketStatus ticket := by
  rw [World.changeSessionStatus]
  by_cases changeable : session.Changeable status (world.sessionState session) world.ticketStatus
  · rw [MatchSession.changeStatus_of_changeable changeable]
    refine moveAll_of_not_mem fun inside => ?_
    rw [MatchTicketStatus.departed_of_engaged (engaged ticket inside)] at waits
    cases waits
  · rw [MatchSession.changeStatus_of_not_changeable changeable]

end Frames

section Steps

variable {step : Section} {world : World} {stage stage' : Stage}

/-- A run of a solo worker changes solo tickets only. -/
theorem World.Sound.soloRun_ticketStatus (sound : world.Sound deployment permits)
    {group : WorkerGroup} {index : Int} {ticket : MatchTicket}
    (served : deployment.getWorkerGroup .solo group.workerGroupKey = some group)
    (foreign : ¬ world.Made .solo ticket) :
    (world.soloRun group index).2.2 ticket = world.ticketStatus ticket := by
  have unsearched : ticket ∉ (SoloMatchmakingWorker.searchTickets
      ((world.soloWorker group index).filled group.matchmakingRule).sendProgressingList.values
      world.ticketStatus).2.1 := by
    intro inside
    obtain ⟨request, member, pointer⟩ := SoloMatchmakingWorker.mem_searchTickets.mp inside
    obtain ⟨other, rfl, -, carried⟩ := sound.progressing_carried served member
    cases pointer
    exact foreign carried.made
  have kept := SoloMatchmakingWorker.searchTickets_of_not_mem unsearched
  rw [World.soloRun]
  rcases SoloMatchmakingWorker.doWorkerAsyncJob_cases group.matchmakingRule
    (world.soloWorker group index) world.ticketStatus with
    ⟨-, run⟩ | ⟨-, ⟨-, run⟩ | ⟨-, run⟩⟩
  · rw [run]
  · rw [run]
    exact kept
  · rw [run]
    exact kept

/-- A refused commit changes nothing. -/
theorem World.partyCommit_of_refused {group : WorkerGroup}
    {requests : List (Option MatchmakingRequest)}
    (refused : (world.partyCommit group requests).1 = false) :
    perform (.partyCommit group requests) world = world := by
  rcases PartyMatchmakingWorkerGroup.tryCommit_cases requests with
    same | ⟨_, _, -, -, -, -, -, result⟩
  · rw [perform, World.partyCommit, same]
    simp only [World.withPartyGroup_self]
    rfl
  · rw [World.partyCommit, result] at refused
    cases refused

theorem hasWorker_getWorkerIndex {workerCount : Nat} (hasWorkers : 0 < workerCount)
    {matchTicketId : MatchTicketId} (nonneg : 0 ≤ matchTicketId) :
    hasWorker workerCount (getWorkerIndex workerCount matchTicketId) = true := by
  rw [hasWorker, decide_eq_true_eq, getWorkerIndex]
  exact ⟨Int.tmod_nonneg _ nonneg, Int.tmod_lt_of_pos _ (Int.natCast_pos.mpr hasWorkers)⟩

section Groups

variable {group : WorkerGroup} {ticket : MatchTicket}
  (sound : world.Sound deployment permits) (serverIssues : ServerIssues permits)
  (held : world.PartyHeld deployment)

include sound serverIssues held

/-- **A new ticket** is queued at its base worker. -/
theorem World.PartyHeld.enqueue {base : Int}
    (carried : Carried deployment world .party group ticket)
    (assigned : base = getWorkerIndex group.workerCount ticket.matchTicketId)
    (unqueued : world.ticketStatus ticket = .none)
    (slot : world.workerSlot ticket.matchmakingRequest = { baseWorkerIndex := base }) :
    (world.partyEnqueue group base ticket.matchmakingRequest ticket).1 = true ∧
      (perform (.partyEnqueue group base ticket.matchmakingRequest ticket) world).ticketStatus =
        Function.update world.ticketStatus ticket .queued ∧
      (perform (.partyEnqueue group base ticket.matchmakingRequest ticket) world).PartyHeld
        deployment := by
  have keyed := Deployment.getWorkerGroup_key carried.served
  have served : deployment.getWorkerGroup .party group.workerGroupKey = some group :=
    keyed ▸ carried.served
  have present : hasWorker group.workerCount base = true := assigned ▸
    hasWorker_getWorkerIndex group.hasWorkers (sound.nonneg.2 _ _ carried.made)
  have other : ∀ {rival}, world.Queued .party rival → rival ≠ ticket := by
    rintro rival queued rfl
    rw [queued.2] at unqueued
    cases unqueued
  obtain ⟨enqueued, run, holds⟩ := (held.groups group served).enqueueSection present
    (fun rival inside same => other inside.1.1 (sound.eq_of_matchTicketId serverIssues
      inside.1.1.1 carried.made same).2)
  have can : canChangeStatus (world.ticketStatus ticket) .queued = true := by rw [unqueued]; rfl
  rw [MatchTicket.changeStatus_of_can can] at run
  have result : world.partyEnqueue group base ticket.matchmakingRequest ticket =
      (true, enqueued, Function.update world.ticketStatus ticket .queued) := run
  have statuses : (perform (.partyEnqueue group base ticket.matchmakingRequest ticket)
      world).ticketStatus = Function.update world.ticketStatus ticket .queued := by
    rw [perform, result]
    rfl
  have still : ∀ rival, rival ≠ ticket →
      ((perform (.partyEnqueue group base ticket.matchmakingRequest ticket) world).Queued
        .party rival ↔ world.Queued .party rival) := fun rival different => by
    rw [World.Queued, statuses, Function.update_of_ne different]
    rfl
  have mine : ((perform (.partyEnqueue group base ticket.matchmakingRequest ticket)
      world).partyGroup group) = enqueued := by
    rw [perform, result]
    exact Function.update_self ..
  refine ⟨by rw [result], statuses, held.of_update served ?_ (fun key different => ?_)
    (fun _ _ => rfl) held.levels fun rival away => ?_⟩
  · rw [mine]
    refine holds.congr fun index rival => ?_
    by_cases own : rival = ticket
    · subst own
      have queued : (perform (.partyEnqueue group base rival.matchmakingRequest rival)
          world).Queued .party rival :=
        ⟨perform_made carried.made, by rw [statuses, Function.update_self]⟩
      have covers : WorkerSlot.Covers (world.workerSlot rival.matchmakingRequest)
          group.workerCount index ↔ index = base := by
        rw [slot]
        exact WorkerSlot.covers_base_iff present
      have idle : ¬ world.Queued .party rival := fun queued => other queued rfl
      simp only [PartyMatchmakingWorkerGroup.InRange, World.QueuedIn, queued, keyed, idle,
        false_and, false_or, true_and, and_true]
      exact covers
    · simp only [PartyMatchmakingWorkerGroup.InRange, World.QueuedIn, still rival own, own,
        and_false, or_false]
      rfl
  · rw [perform, result]
    exact Function.update_of_ne different _ _
  · refine still rival ?_
    rintro rfl
    exact away keyed.symm

/-- **A cancelled ticket** leaves all workers of its group. -/
theorem World.PartyHeld.cancel (made : world.Made .party ticket)
    (served : deployment.getWorkerGroup .party ticket.matchingGroupKey = some group)
    (started : world.ticketStatus ticket ≠ .none) :
    (perform (.partyCancel group ticket) world).PartyHeld deployment := by
  have keyed := Deployment.getWorkerGroup_key served
  have found : deployment.getWorkerGroup .party group.workerGroupKey = some group :=
    keyed ▸ served
  cases can : canChangeStatus (world.ticketStatus ticket) .cancelled with
  | false =>
      have same : perform (.partyCancel group ticket) world = world := by
        simp only [perform, World.partyCancel,
          PartyMatchmakingWorkerGroup.cancelMatchTicket_of_cannot can, World.withPartyGroup_self]
        rfl
      rw [same]
      exact held
  | true =>
      have result : (world.partyGroup group).cancelMatchTicket group.workerCount ticket
          world.ticketStatus = _ := PartyMatchmakingWorkerGroup.cancelMatchTicket_of_can can
      have statuses : (perform (.partyCancel group ticket) world).ticketStatus =
          Function.update world.ticketStatus ticket .cancelled := by
        rw [perform, World.partyCancel, result]
        rfl
      have still : ∀ rival, (perform (.partyCancel group ticket) world).Queued .party rival ↔
          world.Queued .party rival ∧ rival ≠ ticket := by
        intro rival
        by_cases own : rival = ticket
        · subst own
          simp [World.Queued, statuses]
        · simp only [World.Queued, statuses, Function.update_of_ne own, ne_eq, own,
            not_false_eq_true, and_true]
          rfl
      have mine : (perform (.partyCancel group ticket) world).partyGroup group =
          (world.partyGroup group).eraseFromWorkers group.workerCount ticket := by
        rw [perform, World.partyCancel, result]
        exact Function.update_self ..
      refine held.of_update found ?_ (fun key different => ?_) (fun _ _ => rfl) held.levels
        fun rival away => ?_
      · rw [mine]
        refine ((held.groups group found).eraseFromWorkers
          (fun index inside => inside.2.hasWorker group.hasWorkers)
          fun index rival inside same => (sound.eq_of_matchTicketId serverIssues
            inside.1.1.1 made same).2).congr fun index rival => ?_
        simp only [PartyMatchmakingWorkerGroup.InRange, World.QueuedIn, still]
        tauto
      · rw [perform, World.partyCancel, result]
        exact Function.update_of_ne different _ _
      · rw [still]
        refine and_iff_left ?_
        rintro rfl
        exact away keyed.symm

/-- **The tickets of a committed match** leave all workers of their ranges. -/
theorem World.PartyHeld.commit {tickets : List MatchTicket}
    (committed : (world.partyCommit group
      ((tickets.map MatchTicket.matchmakingRequest).map some)).1 = true)
    (carried : ∀ ticket ∈ tickets, Carried deployment world .party group ticket) :
    (∀ ticket ∈ tickets, world.ticketStatus ticket = .queued) ∧ tickets.Nodup ∧
      (perform (.partyCommit group ((tickets.map MatchTicket.matchmakingRequest).map some))
        world).ticketStatus = moveAll tickets .searching world.ticketStatus ∧
      (perform (.partyCommit group ((tickets.map MatchTicket.matchmakingRequest).map some))
        world).PartyHeld deployment := by
  set pointers := (tickets.map MatchTicket.matchmakingRequest).map some with pointersOf
  rcases PartyMatchmakingWorkerGroup.tryCommit_cases pointers with
    refused | ⟨requests, claimed, mapped, ticketsOf, nonempty, nodup, queued, result⟩
  · rw [World.partyCommit, refused] at committed
    cases committed
  obtain rfl : tickets.map MatchTicket.matchmakingRequest = requests :=
    List.map_injective_iff.mpr (Option.some_injective _) mapped
  obtain rfl : tickets = claimed := by
    refine List.map_injective_iff.mpr (Option.some_injective _) ?_
    rw [← show _ = claimed.map some from ticketsOf, List.map_map]
    rfl
  obtain ⟨first, firstIn⟩ := List.exists_mem_of_ne_nil _ nonempty
  have keyed : ∀ ticket ∈ tickets, group.workerGroupKey = ticket.matchingGroupKey :=
    fun ticket inside => Deployment.getWorkerGroup_key (carried ticket inside).served
  have found : deployment.getWorkerGroup .party group.workerGroupKey = some group := by
    rw [keyed first firstIn]
    exact (carried first firstIn).served
  have statuses : (perform (.partyCommit group pointers) world).ticketStatus =
      moveAll tickets .searching world.ticketStatus := by
    rw [perform, World.partyCommit, result]
    rfl
  have still : ∀ rival, (perform (.partyCommit group pointers) world).Queued .party rival ↔
      world.Queued .party rival ∧ rival ∉ tickets := by
    intro rival
    by_cases own : rival ∈ tickets
    · simp [World.Queued, statuses, moveAll_of_mem own, own]
    · simp only [World.Queued, statuses, moveAll_of_not_mem own, own, not_false_eq_true, and_true]
      rfl
  have mine : (perform (.partyCommit group pointers) world).partyGroup group =
      (tickets.map MatchTicket.matchmakingRequest).foldl
        (PartyMatchmakingWorkerGroup.eraseFromRange group.workerCount world.workerSlot)
        (world.partyGroup group) := by
    rw [perform, World.partyCommit, result]
    exact Function.update_self ..
  refine ⟨queued, nodup, statuses, held.of_update found ?_ (fun key different => ?_)
    (fun _ _ => rfl) held.levels fun rival away => ?_⟩
  · rw [mine]
    refine ((held.groups group found).eraseAll
      (fun index ticket _ inside => ⟨inside.2, inside.2.hasWorker group.hasWorkers⟩)
      fun ticket member index rival _ _ inside same => (sound.eq_of_matchTicketId serverIssues
        inside.1.1.1 (carried ticket member).made same).2).congr fun index rival => ?_
    simp only [PartyMatchmakingWorkerGroup.InRange, World.QueuedIn, still]
    tauto
  · rw [perform, World.partyCommit, result]
    exact Function.update_of_ne different _ _
  · rw [still]
    exact and_iff_left fun inside => away (keyed rival inside).symm

/-- **Expanded ranges** are held by the workers they reach. -/
theorem World.PartyHeld.expand
    (found : deployment.getWorkerGroup .party group.workerGroupKey = some group) :
    (perform (.partyExpand group) world).PartyHeld deployment := by
  have listed : ∀ entry ∈ (world.partyGroup group).matchmakingRequestSlotExpandTimeMap,
      ∃ ticket, entry.2 = ticket.matchmakingRequest ∧
        ticket.matchingGroupKey = group.workerGroupKey ∧
        Carried deployment world .party group ticket :=
    fun entry inside => ((sound.party group.workerGroupKey).expanding entry inside).of_served found
  obtain ⟨holds, levels⟩ :=
    (held.groups group found).expandMatchmakingWorkerSlot group.hasWorkers held.levels
    (fun ticket rival inside other same =>
      (sound.eq_of_matchTicketId serverIssues other.1.1 inside.1.1 same).2)
    (by
      intro entry inside ticket pointer queued
      obtain ⟨owner, same, keyed, carried⟩ := listed entry inside
      rw [same, MatchTicket.matchmakingRequest_matchTicketPtr, Option.some.injEq] at pointer
      subst pointer
      exact ⟨same, ⟨carried.made, queued⟩, keyed⟩)
  refine held.of_update found ?_ (fun key different => Function.update_of_ne different _ _)
    (fun ticket away => ?_) levels fun _ _ => Iff.rfl
  · have mine : (perform (.partyExpand group) world).partyGroup group =
        (world.partyExpand group).1 := Function.update_self ..
    rw [mine]
    exact holds
  · refine PartyMatchmakingWorkerGroup.expandMatchmakingWorkerSlot_slots fun entry inside same => ?_
    obtain ⟨owner, request, keyed, -⟩ := listed entry inside
    rw [same] at request
    cases congrArg MatchmakingRequest.matchTicketPtr request
    exact away keyed

end Groups

theorem Issues.partyHeld (issues : Issues deployment permits step world stage stage')
    (sound : world.Sound deployment permits) (serverIssues : ServerIssues permits)
    (held : world.PartyHeld deployment) (awaits : world.Awaits stage)
    (cancels : ∀ group ticket, step = .partyCancel group ticket →
      world.ticketStatus ticket ≠ .none) :
    (perform step world).PartyHeld deployment := by
  cases issues with
  | neutral neutral =>
      have same := sameMatchmaking_of_neutral neutral world
      exact held.of_same same.partyGroups same.workerSlot
        (World.queued_iff same.matchTickets fun ticket _ _ => Or.inl (by rw [same.ticketStatus]))
  | make permitted single =>
      refine held.of_same rfl rfl fun ticket => ?_
      simp only [World.Queued, made_newMatchTicket_iff]
      constructor
      · rintro ⟨⟨-, rfl⟩ | made, queued⟩
        · cases (sound.newMatchTicket_status _ _).symm.trans queued
        · exact ⟨made, queued⟩
      · exact fun ⟨made, queued⟩ => ⟨Or.inr made, queued⟩
  | queue made =>
      refine held.of_same rfl rfl (World.queued_iff rfl fun ticket party _ => Or.inl ?_)
      exact MatchTicket.changeStatus_of_ne (sound.party_ne_solo party made)
  | @assign world queue ticket base group made served =>
      refine held.of_frame (fun _ => rfl) (fun other queued => Function.update_of_ne ?_ _ _)
        (fun request => ?_) fun _ => Iff.rfl
      · intro same
        cases congrArg MatchmakingRequest.matchTicketPtr same
        cases queue with
        | solo => exact sound.party_ne_solo queued.1 made rfl
        | party => cases awaits.2.1.symm.trans queued.2
      · by_cases own : request = ticket.matchmakingRequest
        · subst own
          simp only [perform, Function.update_self]
          exact held.levels _
        · simp only [perform, Function.update_of_ne own]
          exact held.levels _
  | partyEnqueue carried assigned =>
      exact (held.enqueue sound serverIssues carried assigned awaits.2.1 awaits.2.2).2.2
  | @abandon world queue ticket base made =>
      refine held.of_same rfl rfl (World.queued_iff rfl fun other party _ => ?_)
      by_cases own : other = ticket
      · subst own
        cases queue with
        | solo => exact (sound.party_ne_solo party made rfl).elim
        | party =>
            refine Or.inr ⟨by rw [awaits.2.1]; rintro ⟨⟩, ?_⟩
            have can : canChangeStatus (world.ticketStatus other) .failed = true := by
              rw [awaits.2.1]
              rfl
            simp [perform, MatchTicket.changeStatus_of_can can]
      · exact Or.inl (MatchTicket.changeStatus_of_ne own)
  | @soloCancel world _ ticket group index made served assigned =>
      refine held.of_same rfl rfl (World.queued_iff rfl fun other party _ => Or.inl ?_)
      exact SoloMatchmakingWorker.cancel_of_ne (sound.party_ne_solo party made)
  | partyCancel made served =>
      exact held.cancel sound serverIssues made served (cancels _ _ rfl)
  | partyExpand served => exact held.expand sound serverIssues served
  | soloWait served | soloClaim served | soloReject served =>
      exact held.of_same rfl rfl (World.queued_iff rfl fun ticket party _ =>
        Or.inl (sound.soloRun_ticketStatus served fun solo => sound.party_ne_solo party solo rfl))
  | partyRefuse refused =>
      rw [World.partyCommit_of_refused refused]
      exact held
  | partyClaim committed carried requested listing =>
      subst requested
      exact (held.commit sound serverIssues committed carried).2.2.2
  | fail made departed =>
      refine held.of_same rfl rfl (World.queued_iff rfl fun ticket party waits => Or.inl ?_)
      refine MatchTicket.changeStatus_of_ne ?_
      rintro rfl
      rw [departed] at waits
      cases waits
  | require engaged | change engaged =>
      exact held.of_same rfl rfl (World.queued_iff rfl fun ticket _ waits =>
        Or.inl (World.changeSessionStatus_of_not_departed engaged waits))
  | _ => exact held.of_same rfl rfl (World.queued_iff rfl fun _ _ _ => Or.inl rfl)

/-- A party ticket that waits to be queued is changed by its own thread only,
unless it is cancelled. -/
theorem Issues.waits (issues : Issues deployment permits step world stage stage')
    (sound : world.Sound deployment permits)
    (cancels : ∀ group ticket, step = .partyCancel group ticket →
      world.ticketStatus ticket ≠ .none)
    {ticket : MatchTicket} (party : world.Made .party ticket)
    (unqueued : world.ticketStatus ticket = .none) (foreign : stage.starts ≠ some ticket) :
    (perform step world).ticketStatus ticket = .none ∧
      (perform step world).workerSlot ticket.matchmakingRequest =
        world.workerSlot ticket.matchmakingRequest := by
  have apart : ∀ {other}, world.Made .solo other → ticket ≠ other := sound.party_ne_solo party
  have own : ∀ {queue other base}, world.Made queue other →
      stage = .starting queue other base → ticket ≠ other := by
    rintro queue _ base made starting rfl
    cases queue with
    | solo => exact apart made rfl
    | party => exact foreign (starting ▸ rfl)
  have waits : (world.ticketStatus ticket).departed = false := by rw [unqueued]; rfl
  cases issues with
  | neutral neutral =>
      have same := sameMatchmaking_of_neutral neutral world
      exact ⟨by rw [same.ticketStatus, unqueued], by rw [same.workerSlot]⟩
  | queue made => exact ⟨(MatchTicket.changeStatus_of_ne (apart made)).trans unqueued, rfl⟩
  | assign made served =>
      refine ⟨unqueued, Function.update_of_ne ?_ _ _⟩
      intro same
      cases congrArg MatchmakingRequest.matchTicketPtr same
      exact own made rfl rfl
  | partyEnqueue carried assigned =>
      refine ⟨?_, rfl⟩
      exact (PartyMatchmakingWorkerGroup.enqueueSection_of_ne (own carried.made rfl)).trans unqueued
  | abandon made => exact ⟨(MatchTicket.changeStatus_of_ne (own made rfl)).trans unqueued, rfl⟩
  | soloCancel made => exact ⟨(SoloMatchmakingWorker.cancel_of_ne (apart made)).trans unqueued, rfl⟩
  | @partyCancel _ _ other group made served =>
      have different : ticket ≠ other := by
        rintro rfl
        exact cancels _ _ rfl unqueued
      exact ⟨(PartyMatchmakingWorkerGroup.cancelMatchTicket_of_ne different).trans unqueued, rfl⟩
  | partyExpand served =>
      refine ⟨unqueued, ?_⟩
      exact PartyMatchmakingWorkerGroup.expandMatchmakingWorkerSlot_slots_of_not_queued
        (by rw [unqueued]; exact nofun)
  | soloWait served | soloClaim served | soloReject served =>
      exact ⟨(sound.soloRun_ticketStatus served fun solo => apart solo rfl).trans unqueued, rfl⟩
  | partyRefuse | partyClaim =>
      refine ⟨?_, rfl⟩
      rcases PartyMatchmakingWorkerGroup.tryCommit_apply ticket with same | ⟨queued, -⟩
      · exact same.trans unqueued
      · cases unqueued.symm.trans queued
  | fail made departed =>
      refine ⟨(MatchTicket.changeStatus_of_ne ?_).trans unqueued, rfl⟩
      rintro rfl
      rw [departed] at waits
      cases waits
  | require engaged | change engaged =>
      exact ⟨(World.changeSessionStatus_of_not_departed engaged waits).trans unqueued, rfl⟩
  | _ => exact ⟨unqueued, rfl⟩

/-- The ticket a thread is about to hand over stays as it was made until the
thread hands it over. -/
theorem Issues.awaits (issues : Issues deployment permits step world stage stage')
    (sound : world.Sound deployment permits) (serverIssues : ServerIssues permits)
    (held : world.PartyHeld deployment) (awaits : world.Awaits stage) :
    (perform step world).Awaits stage' ∧
      (stage'.starts = none ∨ stage'.starts = stage.starts ∨
        ∃ ticket, stage'.starts = some ticket ∧ ∀ queue, ¬ world.Made queue ticket) := by
  have kept : ∀ {stage}, (perform step world).ticketStatus = world.ticketStatus →
      (perform step world).workerSlot = world.workerSlot → world.Awaits stage →
      (perform step world).Awaits stage := by
    intro stage statuses slots awaits
    cases stage with
    | starting queue ticket base =>
        cases queue with
        | solo => trivial
        | party =>
            exact ⟨perform_made awaits.1, by rw [statuses, awaits.2.1], by rw [slots, awaits.2.2]⟩
    | _ => trivial
  cases issues with
  | neutral neutral =>
      have same := sameMatchmaking_of_neutral neutral world
      exact ⟨kept same.ticketStatus same.workerSlot awaits, Or.inr (Or.inl rfl)⟩
  | @make _ _ queue request permitted single =>
      have unmade := fun queue =>
        sound.newMatchTicket_not_made queue request.worldNo request
      cases queue with
      | solo => exact ⟨trivial, Or.inl rfl⟩
      | party =>
          refine ⟨⟨List.mem_cons_self, sound.newMatchTicket_status _ _, ?_⟩,
            Or.inr (Or.inr ⟨_, rfl, unmade⟩)⟩
          by_contra assigned
          obtain ⟨owner, ticket, made, same⟩ := sound.slots _ assigned
          cases congrArg MatchmakingRequest.matchTicketPtr same
          exact unmade owner made
  | register | unregister | forget => exact ⟨kept rfl rfl awaits, Or.inr (Or.inl rfl)⟩
  | queue made => exact ⟨trivial, Or.inl rfl⟩
  | @assign _ queue ticket base group made served =>
      cases queue with
      | solo => exact ⟨trivial, Or.inl rfl⟩
      | party =>
          refine ⟨⟨made, awaits.2.1, ?_⟩, Or.inr (Or.inl rfl)⟩
          simp only [perform, Function.update_self, awaits.2.2]
          rfl
  | soloEnqueue =>
      split_ifs
      · exact ⟨trivial, Or.inl rfl⟩
      · exact ⟨trivial, Or.inl rfl⟩
  | partyEnqueue carried assigned =>
      rw [if_pos (held.enqueue sound serverIssues carried assigned awaits.2.1 awaits.2.2).1]
      exact ⟨trivial, Or.inl rfl⟩
  | change =>
      split_ifs
      · exact ⟨trivial, Or.inl rfl⟩
      · exact ⟨trivial, Or.inl rfl⟩
  | _ => exact ⟨trivial, Or.inl rfl⟩

end Steps

end MatchmakingMvp
