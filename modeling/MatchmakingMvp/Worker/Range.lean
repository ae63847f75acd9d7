import MatchmakingMvp.Worker.Holding

/-! # The range of a ticket in its worker group

A queued party ticket is held by the workers around its base worker, and by no
others. The range starts at the base worker and grows by one worker on each side
whenever the ticket is expanded.
-/

namespace MatchmakingMvp

open Foundation

/-- The workers around the base worker that a request has reached. -/
def WorkerSlot.Covers (slot : WorkerSlot) (workerCount : Nat) (index : Int) : Prop :=
  slot.minWorkerIndex (getMaxWorkerIndex workerCount) ≤ index ∧
    index ≤ slot.maxWorkerIndex (getMaxWorkerIndex workerCount)

namespace WorkerSlot

variable {slot : WorkerSlot} {workerCount : Nat} {index : Int}

theorem hasWorker_clamp (hasWorkers : 0 < workerCount) (value : Int) :
    hasWorker workerCount (clamp value 0 (getMaxWorkerIndex workerCount)) = true := by
  rw [hasWorker, decide_eq_true_eq, clamp, getMaxWorkerIndex]
  split_ifs <;> omega

theorem Covers.hasWorker (covers : slot.Covers workerCount index) (hasWorkers : 0 < workerCount) :
    hasWorker workerCount index = true := by
  have low := hasWorker_clamp hasWorkers (slot.baseWorkerIndex - slot.workerExpansionLevel)
  have high := hasWorker_clamp hasWorkers (slot.baseWorkerIndex + slot.workerExpansionLevel)
  rw [MatchmakingMvp.hasWorker, decide_eq_true_eq] at low high ⊢
  exact ⟨low.1.trans covers.1, covers.2.trans_lt high.2⟩

theorem covers_min (level : 0 ≤ slot.workerExpansionLevel) (hasWorkers : 0 < workerCount) :
    slot.Covers workerCount (slot.minWorkerIndex (getMaxWorkerIndex workerCount)) := by
  refine ⟨le_refl _, ?_⟩
  simp only [minWorkerIndex, maxWorkerIndex, clamp, getMaxWorkerIndex]
  split_ifs <;> omega

theorem covers_base_iff {base : Int} (present : MatchmakingMvp.hasWorker workerCount base = true) :
    WorkerSlot.Covers { baseWorkerIndex := base } workerCount index ↔ index = base := by
  rw [MatchmakingMvp.hasWorker, decide_eq_true_eq] at present
  simp only [Covers, minWorkerIndex, maxWorkerIndex, clamp, getMaxWorkerIndex]
  split_ifs <;> omega

/-- One more level reaches at most one more worker on each side. -/
theorem covers_expand_iff (index : Int) (level : 0 ≤ slot.workerExpansionLevel)
    (hasWorkers : 0 < workerCount) :
    let last := getMaxWorkerIndex workerCount
    let expanded : WorkerSlot :=
      { slot with workerExpansionLevel := slot.workerExpansionLevel + 1 }
    expanded.minWorkerIndex last ≤ slot.minWorkerIndex last ∧
      slot.minWorkerIndex last ≤ slot.maxWorkerIndex last ∧
      slot.maxWorkerIndex last ≤ expanded.maxWorkerIndex last ∧
      (expanded.Covers workerCount index ↔ slot.Covers workerCount index ∨
        index = expanded.minWorkerIndex last ∨ index = expanded.maxWorkerIndex last) := by
  simp only [Covers, minWorkerIndex, maxWorkerIndex, clamp, getMaxWorkerIndex]
  split_ifs <;> omega

end WorkerSlot

namespace PartyMatchmakingWorkerGroup

variable {held kept : Int → MatchTicket → Prop} {group : PartyMatchmakingWorkerGroup}
  {workerCount : Nat} {ticket : MatchTicket}

/-- Every worker of the group holds its set of tickets. -/
def Holds (held : Int → MatchTicket → Prop) (group : PartyMatchmakingWorkerGroup) : Prop :=
  ∀ index, (group.workers index).Holds (held index)

theorem Holds.congr (holds : group.Holds held)
    (same : ∀ index ticket, kept index ticket ↔ held index ticket) : group.Holds kept :=
  fun index => (holds index).congr (same index)

theorem Holds.enqueueAt (holds : group.Holds held) {target : Int}
    (present : hasWorker workerCount target = true)
    (fresh : ∀ other, held target other → other.matchTicketId ≠ ticket.matchTicketId) :
    (group.enqueueAt workerCount target ticket.matchmakingRequest).Holds
      fun index other => held index other ∨ index = target ∧ other = ticket := by
  intro index
  rw [PartyMatchmakingWorkerGroup.enqueueAt, if_pos present]
  by_cases own : index = target
  · subst own
    simp only [updateWorker, Function.update_self, true_and]
    exact ((holds index).enqueueJobRequest fresh).2
  · simp only [updateWorker, Function.update_of_ne own]
    exact (holds index).congr fun other => by simp [own]

/-- Enqueueing a ticket with a new id. -/
theorem Holds.enqueueSection (holds : group.Holds held) {base timeSec : Int}
    {statuses : TicketStatuses} (present : hasWorker workerCount base = true)
    (fresh : ∀ other, held base other → other.matchTicketId ≠ ticket.matchTicketId) :
    ∃ enqueued, group.enqueueSection workerCount base timeSec ticket.matchmakingRequest ticket
        statuses = (true, enqueued, (ticket.changeStatus .queued statuses).2) ∧
      enqueued.Holds fun index other => held index other ∨ index = base ∧ other = ticket := by
  have scheduled : (group.scheduleExpansion workerCount timeSec ticket.matchmakingRequest).Holds
      held := fun index => by
    rw [scheduleExpansion_workers]
    exact holds index
  have enqueued := scheduled.enqueueAt present fresh
  have accepted := ((holds base).enqueueJobRequest fresh).1
  rw [PartyMatchmakingWorkerGroup.enqueueAt, if_pos present] at enqueued
  refine ⟨_, ?_, enqueued⟩
  rw [PartyMatchmakingWorkerGroup.enqueueSection]
  simp only [present, if_true, scheduleExpansion_workers]
  generalize (group.workers base).enqueueJobRequest ticket.matchmakingRequest = result
    at accepted ⊢
  obtain ⟨success, worker⟩ := result
  subst accepted
  rfl

theorem Holds.eraseFromWorkers (holds : group.Holds held)
    (within : ∀ index, held index ticket → hasWorker workerCount index = true)
    (unique : ∀ index other, held index other → other.matchTicketId = ticket.matchTicketId →
      other = ticket) :
    (group.eraseFromWorkers workerCount ticket).Holds
      fun index other => held index other ∧ other ≠ ticket := by
  intro index
  rw [PartyMatchmakingWorkerGroup.eraseFromWorkers]
  simp only
  split_ifs with present
  · exact (holds index).erase (unique index)
  · refine (holds index).congr fun other => ⟨And.left, fun inside => ⟨inside, ?_⟩⟩
    rintro rfl
    exact present (within index inside)

theorem Holds.eraseFromRange (holds : group.Holds held) {slots : MatchmakingRequest → WorkerSlot}
    (within : ∀ index, held index ticket →
      (slots ticket.matchmakingRequest).Covers workerCount index ∧
        hasWorker workerCount index = true)
    (unique : ∀ index other, (slots ticket.matchmakingRequest).Covers workerCount index →
      hasWorker workerCount index = true → held index other →
      other.matchTicketId = ticket.matchTicketId → other = ticket) :
    (group.eraseFromRange workerCount slots ticket.matchmakingRequest).Holds
      fun index other => held index other ∧ other ≠ ticket := by
  intro index
  rw [PartyMatchmakingWorkerGroup.eraseFromRange]
  simp only [MatchTicket.matchmakingRequest_matchTicketPtr]
  split_ifs with inside
  · exact (holds index).erase fun other => unique index other ⟨inside.1, inside.2.1⟩ inside.2.2
  · refine (holds index).congr fun other => ⟨And.left, fun holding => ⟨holding, ?_⟩⟩
    rintro rfl
    obtain ⟨covers, present⟩ := within index holding
    exact inside ⟨covers.1, covers.2, present⟩

/-- Erasing the tickets of a match. -/
theorem Holds.eraseAll {tickets : List MatchTicket} (holds : group.Holds held)
    {slots : MatchmakingRequest → WorkerSlot}
    (within : ∀ index, ∀ ticket ∈ tickets, held index ticket →
      (slots ticket.matchmakingRequest).Covers workerCount index ∧
        hasWorker workerCount index = true)
    (unique : ∀ ticket ∈ tickets, ∀ index other,
      (slots ticket.matchmakingRequest).Covers workerCount index →
      hasWorker workerCount index = true → held index other →
      other.matchTicketId = ticket.matchTicketId → other = ticket) :
    ((tickets.map MatchTicket.matchmakingRequest).foldl
      (PartyMatchmakingWorkerGroup.eraseFromRange workerCount slots) group).Holds
        fun index other => held index other ∧ other ∉ tickets := by
  induction tickets generalizing group held with
  | nil => exact holds.congr fun _ _ => by simp
  | cons head rest ih =>
      have first := holds.eraseFromRange
        (fun index inside => within index head List.mem_cons_self inside)
        (unique head List.mem_cons_self)
      refine (ih first ?_ ?_).congr fun index other => ?_
      · exact fun index ticket member inside =>
          within index ticket (List.mem_cons_of_mem _ member) inside.1
      · exact fun ticket member index other covers present inside =>
          unique ticket (List.mem_cons_of_mem _ member) index other covers present inside.1
      · rw [List.mem_cons, not_or, and_assoc]

/-! ## Expansion -/

section Expansion

variable {queued : MatchTicket → Prop} {slots : MatchmakingRequest → WorkerSlot}

/-- The workers in the range of a queued ticket hold it. -/
def InRange (queued : MatchTicket → Prop) (slots : MatchmakingRequest → WorkerSlot)
    (workerCount : Nat) (index : Int) (ticket : MatchTicket) : Prop :=
  queued ticket ∧ (slots ticket.matchmakingRequest).Covers workerCount index

private theorem Holds.reach (holds : group.Holds held) {target : Int}
    (present : hasWorker workerCount target = true) (grows : Prop) [Decidable grows]
    (already : ¬ grows → held target ticket)
    (fresh : grows → ∀ other, held target other → other.matchTicketId ≠ ticket.matchTicketId) :
    (if grows then group.enqueueAt workerCount target ticket.matchmakingRequest else group).Holds
      fun index other => held index other ∨ index = target ∧ other = ticket := by
  split_ifs with growing
  · exact holds.enqueueAt present (fresh growing)
  · refine holds.congr fun index other => ⟨?_, Or.inl⟩
    rintro (inside | ⟨rfl, rfl⟩)
    · exact inside
    · exact already growing

/-- Expanding a queued ticket extends its range to the workers it is given to. -/
theorem Holds.expandRequest (holds : group.Holds (InRange queued slots workerCount))
    (hasWorkers : 0 < workerCount) (waits : queued ticket)
    (level : 0 ≤ (slots ticket.matchmakingRequest).workerExpansionLevel)
    (unique : ∀ other, queued other → other.matchTicketId = ticket.matchTicketId →
      other = ticket) :
    let expanded := PartyMatchmakingWorkerGroup.expandRequest workerCount
      ticket.matchmakingRequest group slots
    expanded.2.1.Holds (InRange queued expanded.2.2 workerCount) := by
  intro expanded
  have grown := fun index => WorkerSlot.covers_expand_iff index level hasWorkers
  obtain ⟨below, ordered, above, -⟩ := grown 0
  have fresh : ∀ target, ¬ (slots ticket.matchmakingRequest).Covers workerCount target →
      ∀ other, InRange queued slots workerCount target other →
      other.matchTicketId ≠ ticket.matchTicketId := by
    rintro target uncovered other ⟨holding, inside⟩ same
    rw [unique other holding same] at inside
    exact uncovered inside
  have low := holds.reach (WorkerSlot.hasWorker_clamp hasWorkers _)
    (clamp ((slots ticket.matchmakingRequest).baseWorkerIndex -
        ((slots ticket.matchmakingRequest).workerExpansionLevel + 1)) 0
        (getMaxWorkerIndex workerCount) ≠
      (slots ticket.matchmakingRequest).minWorkerIndex (getMaxWorkerIndex workerCount))
    (fun same => ⟨waits, (not_not.mp same).ge, (not_not.mp same).le.trans ordered⟩)
    fun grows => fresh _ fun covers => grows (below.antisymm covers.1)
  have high := low.reach (WorkerSlot.hasWorker_clamp hasWorkers _)
    (clamp ((slots ticket.matchmakingRequest).baseWorkerIndex +
        ((slots ticket.matchmakingRequest).workerExpansionLevel + 1)) 0
        (getMaxWorkerIndex workerCount) ≠
      (slots ticket.matchmakingRequest).maxWorkerIndex (getMaxWorkerIndex workerCount))
    (fun same => Or.inl ⟨waits, ordered.trans (not_not.mp same).ge, (not_not.mp same).le⟩) ?_
  · refine high.congr fun index other => ?_
    by_cases own : other = ticket
    · subst own
      simp only [InRange, PartyMatchmakingWorkerGroup.expandRequest, expanded,
        Function.update_self, waits, true_and, and_true]
      exact (grown index).2.2.2.trans or_assoc.symm
    · have different : other.matchmakingRequest ≠ ticket.matchmakingRequest := fun same =>
        own (Option.some.inj (congrArg MatchmakingRequest.matchTicketPtr same))
      simp only [InRange, PartyMatchmakingWorkerGroup.expandRequest, expanded,
        Function.update_of_ne different, own, and_false, or_false]
  · rintro grows other (inside | ⟨same, rfl⟩)
    · exact fresh _ (fun covers => grows (covers.2.antisymm above)) other inside
    · exact (grows (above.antisymm (same.le.trans (below.trans ordered))).symm).elim

theorem expandRequest_level (request other : MatchmakingRequest)
    (levels : ∀ request, 0 ≤ (slots request).workerExpansionLevel) :
    0 ≤ ((PartyMatchmakingWorkerGroup.expandRequest workerCount request group slots).2.2
      other).workerExpansionLevel := by
  rw [PartyMatchmakingWorkerGroup.expandRequest]
  simp only
  by_cases own : other = request
  · rw [own, Function.update_self]
    exact Int.add_nonneg (levels request) Int.one_nonneg
  · rw [Function.update_of_ne own]
    exact levels other

/-- Expanding the due requests keeps every queued ticket in its range. -/
theorem Holds.expandDue {statuses : TicketStatuses} {due : List (Int × MatchmakingRequest)}
    (holds : group.Holds (InRange queued slots workerCount)) (hasWorkers : 0 < workerCount)
    (levels : ∀ request, 0 ≤ (slots request).workerExpansionLevel)
    (unique : ∀ ticket other, queued ticket → queued other →
      other.matchTicketId = ticket.matchTicketId → other = ticket)
    (scheduled : ∀ entry ∈ due, ∀ ticket, entry.2.matchTicketPtr = some ticket →
      statuses ticket = .queued → entry.2 = ticket.matchmakingRequest ∧ queued ticket) :
    let expanded := PartyMatchmakingWorkerGroup.expandDue workerCount statuses due group slots
    expanded.2.1.Holds (InRange queued expanded.2.2 workerCount) ∧
      ∀ request, 0 ≤ (expanded.2.2 request).workerExpansionLevel := by
  induction due generalizing group slots with
  | nil => exact ⟨holds, levels⟩
  | cons head rest ih =>
      obtain ⟨timeSec, request⟩ := head
      have later : ∀ entry ∈ rest, ∀ ticket, entry.2.matchTicketPtr = some ticket →
          statuses ticket = .queued → entry.2 = ticket.matchmakingRequest ∧ queued ticket :=
        fun entry inside => scheduled entry (List.mem_cons_of_mem _ inside)
      rw [PartyMatchmakingWorkerGroup.expandDue]
      cases pointer : request.matchTicketPtr with
      | none => exact ih holds levels later
      | some ticket =>
          simp only [decide_eq_true_eq]
          by_cases waits : statuses ticket = .queued
          · rw [if_pos waits]
            obtain ⟨rfl, inside⟩ := scheduled _ List.mem_cons_self ticket pointer waits
            have expanded := holds.expandRequest hasWorkers inside (levels _)
              fun other holding same => unique ticket other inside holding same
            exact ih expanded (fun other => expandRequest_level _ other levels) later
          · rw [if_neg waits]
            exact ih holds levels later

theorem Holds.expandMatchmakingWorkerSlot {statuses : TicketStatuses} {timeSec : Int}
    (holds : group.Holds (InRange queued slots workerCount)) (hasWorkers : 0 < workerCount)
    (levels : ∀ request, 0 ≤ (slots request).workerExpansionLevel)
    (unique : ∀ ticket other, queued ticket → queued other →
      other.matchTicketId = ticket.matchTicketId → other = ticket)
    (scheduled : ∀ entry ∈ group.matchmakingRequestSlotExpandTimeMap, ∀ ticket,
      entry.2.matchTicketPtr = some ticket → statuses ticket = .queued →
      entry.2 = ticket.matchmakingRequest ∧ queued ticket) :
    let expanded := group.expandMatchmakingWorkerSlot workerCount timeSec statuses slots
    expanded.1.Holds (InRange queued expanded.2 workerCount) ∧
      ∀ request, 0 ≤ (expanded.2 request).workerExpansionLevel :=
  holds.expandDue hasWorkers levels unique fun entry inside =>
    scheduled entry ((List.takeWhile_sublist _).mem inside)

/-- The range of a ticket that is not queued is not extended. -/
theorem expandMatchmakingWorkerSlot_slots_of_not_queued {statuses : TicketStatuses}
    {timeSec : Int} (idle : statuses ticket ≠ .queued) :
    (group.expandMatchmakingWorkerSlot workerCount timeSec statuses slots).2
      ticket.matchmakingRequest = slots ticket.matchmakingRequest := by
  rw [PartyMatchmakingWorkerGroup.expandMatchmakingWorkerSlot]
  simp only
  generalize group.matchmakingRequestSlotExpandTimeMap.takeWhile (·.1 ≤ timeSec - 1) = due
  induction due generalizing group slots with
  | nil => rfl
  | cons head rest ih =>
      obtain ⟨time, request⟩ := head
      rw [PartyMatchmakingWorkerGroup.expandDue]
      cases pointer : request.matchTicketPtr with
      | none => exact ih
      | some other =>
          simp only [decide_eq_true_eq]
          split_ifs with waits
          · refine ih.trans (Function.update_of_ne ?_ _ _)
            rintro rfl
            cases pointer
            exact idle waits
          · exact ih

end Expansion

end PartyMatchmakingWorkerGroup

end MatchmakingMvp
