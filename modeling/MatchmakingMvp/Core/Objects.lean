import MatchmakingMvp.Core.Types
import Mathlib.Data.List.Nodup
import Mathlib.Logic.Function.Basic
import Mathlib.Logic.Relation
import Mathlib.Data.List.ReduceOption

/-! # Ticket and session objects

The changing members of tickets and sessions, and the member functions that
change them. Moving several tickets at once sets the moved ones back when one
refuses; such a transition either moves all of them or changes nothing
(`changeAllIfCurrent_of_ready`, `changeAllIfCurrent_of_not_ready`). A status only
ever advances along the transition table (`Advances`).
-/

namespace MatchmakingMvp

open Foundation

abbrev TicketStatuses := MatchTicket → MatchTicketStatus

namespace MatchTicket

def changeStatus (ticket : MatchTicket) (status : MatchTicketStatus) (statuses : TicketStatuses) :
    Bool × TicketStatuses :=
  if canChangeStatus (statuses ticket) status = false then (false, statuses)
  else (true, Function.update statuses ticket status)

def changeStatusIfCurrent (ticket : MatchTicket) (expectedStatus nextStatus : MatchTicketStatus)
    (statuses : TicketStatuses) : Bool × TicketStatuses :=
  if statuses ticket ≠ expectedStatus then (false, statuses)
  else if canChangeStatus (statuses ticket) nextStatus = false then (false, statuses)
  else (true, Function.update statuses ticket nextStatus)

def forceSetStatus (ticket : MatchTicket) (status : MatchTicketStatus)
    (statuses : TicketStatuses) : TicketStatuses :=
  Function.update statuses ticket status

end MatchTicket

/-- Set tickets back to the statuses recorded for them. -/
def forceSetAll (changed : List (MatchTicket × MatchTicketStatus)) (statuses : TicketStatuses) :
    TicketStatuses :=
  changed.foldl (fun statuses entry => entry.1.forceSetStatus entry.2 statuses) statuses

/-- Change tickets one after another from the statuses recorded for them. At
the first that refuses, those changed so far are set back. -/
def changeAllIfCurrent (nextStatus : MatchTicketStatus) :
    List (MatchTicket × MatchTicketStatus) → List (MatchTicket × MatchTicketStatus) →
    TicketStatuses → Bool × TicketStatuses
  | _, [], statuses => (true, statuses)
  | changed, (ticket, currentStatus) :: rest, statuses =>
      match ticket.changeStatusIfCurrent currentStatus nextStatus statuses with
      | (true, statuses) =>
          changeAllIfCurrent nextStatus (changed ++ [(ticket, currentStatus)]) rest statuses
      | (false, statuses) => (false, forceSetAll changed statuses)

/-- The changing members of a session. -/
structure MatchSessionState where
  status : MatchTicketStatus := .none
  playerMatchAcceptInfos : OrderedMap PlayerKey PlayerMatchAcceptInfo
deriving DecidableEq

namespace MatchSession

/-- The tickets with their current statuses, unless a pointer is null or a
ticket cannot change to the status. -/
def ticketStatuses (status : MatchTicketStatus) (statuses : TicketStatuses) :
    List (Option MatchTicket) → Option (List (MatchTicket × MatchTicketStatus))
  | [] => some []
  | none :: _ => none
  | some ticket :: rest =>
      if canChangeStatus (statuses ticket) status = false then none
      else (ticketStatuses status statuses rest).map ((ticket, statuses ticket) :: ·)

/-- Change the session and all of its tickets, or nothing. -/
def changeStatus (session : MatchSession) (status : MatchTicketStatus)
    (state : MatchSessionState) (statuses : TicketStatuses) :
    Bool × MatchSessionState × TicketStatuses :=
  if canChangeStatus state.status status = false then (false, state, statuses)
  else
    match ticketStatuses status statuses session.matchTicketList with
    | none => (false, state, statuses)
    | some ticketStatuses =>
        match changeAllIfCurrent status [] ticketStatuses statuses with
        | (false, statuses) => (false, state, statuses)
        | (true, statuses) => (true, { state with status := status }, statuses)

end MatchSession

namespace MatchSessionState

def isAllAcceptPlayerSession (state : MatchSessionState) : Bool :=
  state.playerMatchAcceptInfos.values.all PlayerMatchAcceptInfo.isAccept

/-- Record a player's response unless the player has responded before. -/
def acceptPlayerSession (state : MatchSessionState) (acceptInfo : PlayerMatchAcceptInfo) :
    Bool × MatchSessionState :=
  match state.playerMatchAcceptInfos.find? acceptInfo.playerKey with
  | none => (false, state)
  | some recorded =>
      if recorded.hasResponded then (false, state)
      else (true, { state with
        playerMatchAcceptInfos := state.playerMatchAcceptInfos.insertOrAssign acceptInfo.playerKey
          { acceptInfo with hasResponded := true } })

/-- The players of the session. -/
def players (state : MatchSessionState) : OrderedSet PlayerKey :=
  state.playerMatchAcceptInfos.keySet

end MatchSessionState

/-- A response that is refused is not recorded. -/
theorem MatchSessionState.acceptPlayerSession_of_refused {state : MatchSessionState}
    {acceptInfo : PlayerMatchAcceptInfo}
    (refused : (state.acceptPlayerSession acceptInfo).1 = false) :
    (state.acceptPlayerSession acceptInfo).2 = state := by
  rw [acceptPlayerSession] at refused ⊢
  cases found : state.playerMatchAcceptInfos.find? acceptInfo.playerKey with
  | none => rfl
  | some recorded =>
      rw [found] at refused
      cases responded : recorded.hasResponded with
      | true => simp [responded]
      | false => simp [responded] at refused

/-! ## The order of statuses -/

theorem canChangeStatus_self (status : MatchTicketStatus) :
    canChangeStatus status status = false := by
  cases status <;> rfl

/-- A status is the earlier one or was reached from it through the table. -/
def Advances : MatchTicketStatus → MatchTicketStatus → Prop :=
  Relation.ReflTransGen fun curr next => canChangeStatus curr next = true

/-- A ticket that left its queue for a match, whatever became of the match. -/
def MatchTicketStatus.engaged : MatchTicketStatus → Bool
  | .searching | .requiresAcceptance | .placing | .completed | .failed | .timedOut => true
  | .none | .queued | .cancelled => false

def MatchTicketStatus.terminal : MatchTicketStatus → Bool
  | .completed | .failed | .cancelled | .timedOut => true
  | .none | .queued | .searching | .requiresAcceptance | .placing => false

/-- A ticket that neither waits to be queued nor is queued. -/
def MatchTicketStatus.departed : MatchTicketStatus → Bool
  | .none | .queued => false
  | .searching | .requiresAcceptance | .placing | .completed | .failed | .cancelled
  | .timedOut => true

theorem MatchTicketStatus.departed_of_engaged {status : MatchTicketStatus}
    (engaged : status.engaged = true) : status.departed = true := by
  revert engaged
  cases status <;> decide

theorem MatchTicketStatus.not_departed_iff {status : MatchTicketStatus} :
    ¬ status.departed = true ↔ status = .none ∨ status = .queued := by
  cases status <;> decide

theorem Advances.engaged {earlier later : MatchTicketStatus} (advances : Advances earlier later)
    (engaged : earlier.engaged = true) : later.engaged = true := by
  induction advances with
  | refl => exact engaged
  | @tail middle later _ change ih =>
      revert change ih
      cases middle <;> cases later <;> decide

theorem Advances.departed {earlier later : MatchTicketStatus} (advances : Advances earlier later)
    (departed : earlier.departed = true) : later.departed = true := by
  induction advances with
  | refl => exact departed
  | @tail middle later _ change ih =>
      revert change ih
      cases middle <;> cases later <;> decide

theorem Advances.ne_none {earlier later : MatchTicketStatus} (advances : Advances earlier later)
    (started : earlier ≠ .none) : later ≠ .none := by
  induction advances with
  | refl => exact started
  | @tail middle later _ change ih =>
      revert change ih
      cases middle <;> cases later <;> decide

theorem Advances.of_terminal {earlier later : MatchTicketStatus} (advances : Advances earlier later)
    (terminal : earlier.terminal = true) : later = earlier := by
  induction advances with
  | refl => rfl
  | @tail middle later _ change ih =>
      subst ih
      revert change terminal
      cases middle <;> cases later <;> decide

theorem Advances.queued_of {earlier : MatchTicketStatus} (advances : Advances earlier .queued) :
    earlier = .none ∨ earlier = .queued := by
  cases earlier with
  | none => exact Or.inl rfl
  | queued => exact Or.inr rfl
  | cancelled => exact absurd (advances.of_terminal rfl) (by decide)
  | searching | requiresAcceptance | placing | completed | failed | timedOut =>
      exact absurd (advances.engaged rfl) (by decide)

theorem Advances.searching_of {earlier : MatchTicketStatus}
    (advances : Advances earlier .searching) :
    earlier = .searching ∨ earlier = .none ∨ earlier = .queued := by
  cases advances with
  | refl => exact Or.inl rfl
  | @tail middle _ before change =>
      have queued : middle = .queued := by
        revert change
        cases middle <;> decide
      subst queued
      exact Or.inr (Advances.queued_of before)

/-- A placed ticket stays placed until it ends. -/
theorem Advances.of_placing {later : MatchTicketStatus} (advances : Advances .placing later) :
    later = .placing ∨ later.terminal = true := by
  induction advances with
  | refl => exact Or.inl rfl
  | @tail middle later _ change ih =>
      revert change ih
      cases middle <;> cases later <;> decide

/-- No ticket moves more than one step along the transition table. -/
def StepsAtMostOnce (before after : TicketStatuses) : Prop :=
  ∀ ticket, after ticket = before ticket ∨
    canChangeStatus (before ticket) (after ticket) = true

theorem StepsAtMostOnce.refl (statuses : TicketStatuses) : StepsAtMostOnce statuses statuses :=
  fun _ => Or.inl rfl

theorem StepsAtMostOnce.advances {before after : TicketStatuses}
    (steps : StepsAtMostOnce before after) (ticket : MatchTicket) :
    Advances (before ticket) (after ticket) := by
  rcases steps ticket with same | change
  · rw [same]
    exact Relation.ReflTransGen.refl
  · exact Relation.ReflTransGen.single change

/-! ## One ticket -/

section Ticket

variable {ticket : MatchTicket} {status : MatchTicketStatus} {statuses : TicketStatuses}

theorem MatchTicket.changeStatus_of_can (can : canChangeStatus (statuses ticket) status = true) :
    ticket.changeStatus status statuses = (true, Function.update statuses ticket status) := by
  rw [changeStatus, if_neg (by simp [can])]

theorem MatchTicket.changeStatus_of_cannot
    (cannot : canChangeStatus (statuses ticket) status = false) :
    ticket.changeStatus status statuses = (false, statuses) := by
  rw [changeStatus, if_pos cannot]

theorem MatchTicket.changeStatus_fst :
    (ticket.changeStatus status statuses).1 = canChangeStatus (statuses ticket) status := by
  rw [changeStatus]
  split_ifs with cannot
  · exact cannot.symm
  · simpa using cannot

theorem MatchTicket.changeStatus_of_ne {other : MatchTicket} (different : other ≠ ticket) :
    (ticket.changeStatus status statuses).2 other = statuses other := by
  rw [changeStatus]
  split_ifs
  · rfl
  · exact Function.update_of_ne different _ _

/-- A ticket that was told to fail is not queued any more. -/
theorem MatchTicket.departed_of_changeStatus_failed :
    ((ticket.changeStatus .failed statuses).2 ticket).departed = true := by
  cases can : canChangeStatus (statuses ticket) .failed with
  | true => simp [changeStatus_of_can can, MatchTicketStatus.departed]
  | false =>
      rw [changeStatus_of_cannot can]
      simp only
      generalize statuses ticket = status at can
      revert can
      cases status <;> decide

/-- A ticket that was told to take a first status has a status. -/
theorem MatchTicket.ne_none_of_changeStatus (first : canChangeStatus .none status = true) :
    (ticket.changeStatus status statuses).2 ticket ≠ .none := by
  cases can : canChangeStatus (statuses ticket) status with
  | true =>
      rw [changeStatus_of_can can]
      simp only [Function.update_self]
      rintro rfl
      cases first
  | false =>
      rw [changeStatus_of_cannot can]
      intro unchanged
      rw [show statuses ticket = .none from unchanged, first] at can
      cases can

theorem stepsAtMostOnce_update (can : canChangeStatus (statuses ticket) status = true) :
    StepsAtMostOnce statuses (Function.update statuses ticket status) := by
  intro other
  by_cases same : other = ticket
  · subst same
    rw [Function.update_self]
    exact Or.inr can
  · exact Or.inl (Function.update_of_ne same _ _)

theorem MatchTicket.stepsAtMostOnce_changeStatus :
    StepsAtMostOnce statuses (ticket.changeStatus status statuses).2 := by
  cases can : canChangeStatus (statuses ticket) status with
  | true =>
      rw [changeStatus_of_can can]
      exact stepsAtMostOnce_update can
  | false =>
      rw [changeStatus_of_cannot can]
      exact StepsAtMostOnce.refl statuses

end Ticket

/-! ## Several tickets at once -/

section Several

variable {nextStatus : MatchTicketStatus} {statuses : TicketStatuses}

/-- The tickets are pairwise distinct, still have the statuses recorded for
them and can change to the next status. -/
def Ready (nextStatus : MatchTicketStatus) (entries : List (MatchTicket × MatchTicketStatus))
    (statuses : TicketStatuses) : Prop :=
  (entries.map Prod.fst).Nodup ∧
    ∀ entry ∈ entries, statuses entry.1 = entry.2 ∧ canChangeStatus entry.2 nextStatus = true

instance : Decidable (Ready nextStatus entries statuses) :=
  inferInstanceAs (Decidable (_ ∧ ∀ entry ∈ entries, _ ∧ _))

/-- Move the listed tickets to a status. -/
def moveAll (tickets : List MatchTicket) (nextStatus : MatchTicketStatus)
    (statuses : TicketStatuses) : TicketStatuses :=
  fun ticket => if ticket ∈ tickets then nextStatus else statuses ticket

@[simp] theorem moveAll_nil : moveAll [] nextStatus statuses = statuses := by
  funext ticket
  simp [moveAll]

theorem moveAll_of_mem {tickets : List MatchTicket} {ticket : MatchTicket}
    (member : ticket ∈ tickets) : moveAll tickets nextStatus statuses ticket = nextStatus :=
  if_pos member

theorem moveAll_of_not_mem {tickets : List MatchTicket} {ticket : MatchTicket}
    (outside : ticket ∉ tickets) : moveAll tickets nextStatus statuses ticket = statuses ticket :=
  if_neg outside

theorem update_moveAll (tickets : List MatchTicket) (ticket : MatchTicket) :
    Function.update (moveAll tickets nextStatus statuses) ticket nextStatus =
      moveAll (tickets ++ [ticket]) nextStatus statuses := by
  funext other
  by_cases same : other = ticket
  · subst same
    simp [moveAll]
  · simp [moveAll, same]

theorem forceSetAll_moveAll {changed : List (MatchTicket × MatchTicketStatus)}
    (recorded : ∀ entry ∈ changed, statuses entry.1 = entry.2) :
    forceSetAll changed (moveAll (changed.map Prod.fst) nextStatus statuses) = statuses := by
  have restored : ∀ (entries : List (MatchTicket × MatchTicketStatus)) (current : TicketStatuses),
      (∀ entry ∈ entries, statuses entry.1 = entry.2) →
      (∀ ticket, ticket ∈ entries.map Prod.fst ∨ current ticket = statuses ticket) →
      forceSetAll entries current = statuses := by
    intro entries
    induction entries with
    | nil =>
        intro current _ agrees
        funext ticket
        simpa [forceSetAll] using agrees ticket
    | cons head rest ih =>
        intro current recorded agrees
        refine ih _ (fun entry inside => recorded entry (List.mem_cons_of_mem _ inside)) ?_
        intro ticket
        by_cases same : ticket = head.1
        · subst same
          right
          simp [MatchTicket.forceSetStatus, recorded head List.mem_cons_self]
        · simpa [MatchTicket.forceSetStatus, same] using agrees ticket
  refine restored changed _ recorded fun ticket => ?_
  by_cases inside : ticket ∈ changed.map Prod.fst
  · exact Or.inl inside
  · exact Or.inr (moveAll_of_not_mem inside)

/-- The entries are ready and apart from the tickets changed before them. -/
private def ReadyAfter (nextStatus : MatchTicketStatus)
    (changed pending : List (MatchTicket × MatchTicketStatus)) (statuses : TicketStatuses) : Prop :=
  Ready nextStatus pending statuses ∧ ∀ entry ∈ pending, entry.1 ∉ changed.map Prod.fst

private theorem readyAfter_cons_iff {changed rest : List (MatchTicket × MatchTicketStatus)}
    {ticket : MatchTicket} {currentStatus : MatchTicketStatus} :
    ReadyAfter nextStatus changed ((ticket, currentStatus) :: rest) statuses ↔
      (ticket ∉ changed.map Prod.fst ∧ statuses ticket = currentStatus ∧
        canChangeStatus currentStatus nextStatus = true) ∧
      ReadyAfter nextStatus (changed ++ [(ticket, currentStatus)]) rest statuses := by
  simp only [ReadyAfter, Ready, List.map_append, List.map_cons, List.map_nil, List.mem_append,
    List.mem_singleton, not_or, List.forall_mem_cons, List.nodup_cons]
  constructor
  · rintro ⟨⟨⟨fresh, distinct⟩, ⟨current, can⟩, able⟩, outside, apart⟩
    exact ⟨⟨outside, current, can⟩, ⟨distinct, able⟩, fun entry member =>
      ⟨apart entry member, fun same => fresh (same ▸ List.mem_map_of_mem member)⟩⟩
  · rintro ⟨⟨outside, current, can⟩, ⟨distinct, able⟩, apart⟩
    refine ⟨⟨⟨fun member => ?_, distinct⟩, ⟨current, can⟩, able⟩, outside,
      fun entry member => (apart entry member).1⟩
    obtain ⟨entry, inRest, same⟩ := List.mem_map.mp member
    exact (apart entry inRest).2 same

open Classical in
private theorem changeAllIfCurrent_from (changed pending : List (MatchTicket × MatchTicketStatus))
    (recorded : ∀ entry ∈ changed, statuses entry.1 = entry.2) :
    changeAllIfCurrent nextStatus changed pending
        (moveAll (changed.map Prod.fst) nextStatus statuses) =
      if ReadyAfter nextStatus changed pending statuses then
        (true, moveAll ((changed ++ pending).map Prod.fst) nextStatus statuses)
      else (false, statuses) := by
  induction pending generalizing changed with
  | nil => simp [changeAllIfCurrent, ReadyAfter, Ready]
  | cons head rest ih =>
      obtain ⟨ticket, currentStatus⟩ := head
      rw [changeAllIfCurrent, if_congr readyAfter_cons_iff rfl rfl]
      by_cases takes : ticket ∉ changed.map Prod.fst ∧ statuses ticket = currentStatus ∧
          canChangeStatus currentStatus nextStatus = true
      · have moves : ticket.changeStatusIfCurrent currentStatus nextStatus
            (moveAll (changed.map Prod.fst) nextStatus statuses) =
            (true, moveAll ((changed ++ [(ticket, currentStatus)]).map Prod.fst)
              nextStatus statuses) := by
          obtain ⟨outside, current, can⟩ := takes
          rw [MatchTicket.changeStatusIfCurrent, moveAll_of_not_mem outside, current, can,
            update_moveAll]
          simp
        have recorded' : ∀ entry ∈ changed ++ [(ticket, currentStatus)],
            statuses entry.1 = entry.2 := by
          intro entry member
          rcases List.mem_append.mp member with earlier | last
          · exact recorded entry earlier
          · rw [List.mem_singleton.mp last]
            exact takes.2.1
        rw [moves]
        simp only
        rw [ih _ recorded']
        simp only [takes, not_false_eq_true, and_self, true_and, List.append_assoc,
          List.singleton_append]
      · have refuses : ticket.changeStatusIfCurrent currentStatus nextStatus
            (moveAll (changed.map Prod.fst) nextStatus statuses) =
            (false, moveAll (changed.map Prod.fst) nextStatus statuses) := by
          rw [MatchTicket.changeStatusIfCurrent]
          by_cases inside : ticket ∈ changed.map Prod.fst
          · rw [moveAll_of_mem inside, canChangeStatus_self]
            simp
          · rw [moveAll_of_not_mem inside]
            split_ifs with stale cannot
            · rfl
            · rfl
            · have current := not_not.mp stale
              rw [current] at cannot
              exact (takes ⟨inside, current, by simpa using cannot⟩).elim
        rw [refuses, if_neg fun ready => takes ready.1]
        simp only [forceSetAll_moveAll recorded]

/-- **A joint transition of tickets that are all ready.** -/
theorem changeAllIfCurrent_of_ready {entries : List (MatchTicket × MatchTicketStatus)}
    (ready : Ready nextStatus entries statuses) :
    changeAllIfCurrent nextStatus [] entries statuses =
      (true, moveAll (entries.map Prod.fst) nextStatus statuses) := by
  have spec := @changeAllIfCurrent_from nextStatus statuses [] entries (by simp)
  simpa [ready, ReadyAfter] using spec

/-- **A joint transition that some ticket refuses changes nothing.** -/
theorem changeAllIfCurrent_of_not_ready {entries : List (MatchTicket × MatchTicketStatus)}
    (stuck : ¬ Ready nextStatus entries statuses) :
    changeAllIfCurrent nextStatus [] entries statuses = (false, statuses) := by
  have spec := @changeAllIfCurrent_from nextStatus statuses [] entries (by simp)
  simpa [stuck, ReadyAfter] using spec

theorem stepsAtMostOnce_moveAll {tickets : List MatchTicket}
    (can : ∀ ticket ∈ tickets, canChangeStatus (statuses ticket) nextStatus = true) :
    StepsAtMostOnce statuses (moveAll tickets nextStatus statuses) := by
  intro ticket
  by_cases inside : ticket ∈ tickets
  · rw [moveAll_of_mem inside]
    exact Or.inr (can ticket inside)
  · exact Or.inl (moveAll_of_not_mem inside)

end Several

/-! ## A session with its tickets -/

namespace MatchSession

variable {session : MatchSession} {status : MatchTicketStatus} {state : MatchSessionState}
  {statuses : TicketStatuses}

theorem mem_tickets {ticket : MatchTicket} :
    ticket ∈ session.tickets ↔ some ticket ∈ session.matchTicketList :=
  List.reduceOption_mem_iff

theorem nodup_tickets (session : MatchSession) : session.tickets.Nodup :=
  List.Nodup.filterMap (fun _ _ _ first second => first.trans second.symm) session.distinct

/-- The session and each of its tickets can change to the status, and no ticket
pointer is null. -/
def Changeable (session : MatchSession) (status : MatchTicketStatus) (state : MatchSessionState)
    (statuses : TicketStatuses) : Prop :=
  canChangeStatus state.status status = true ∧
    ∀ pointer ∈ session.matchTicketList, ∃ ticket, pointer = some ticket ∧
      canChangeStatus (statuses ticket) status = true

/-- The statuses of tickets that can all change are collected. -/
theorem ticketStatuses_eq_some {pointers : List (Option MatchTicket)}
    (able : ∀ pointer ∈ pointers, ∃ ticket, pointer = some ticket ∧
      canChangeStatus (statuses ticket) status = true) :
    ticketStatuses status statuses pointers =
      some (pointers.reduceOption.map fun ticket => (ticket, statuses ticket)) := by
  induction pointers with
  | nil => rfl
  | cons head rest ih =>
      obtain ⟨ticket, rfl, can⟩ := able head List.mem_cons_self
      rw [ticketStatuses, if_neg (by simp [can]),
        ih fun pointer inside => able pointer (List.mem_cons_of_mem _ inside),
        List.reduceOption_cons_of_some]
      rfl

/-- Statuses are collected only of tickets that can change. -/
theorem able_of_ticketStatuses {pointers : List (Option MatchTicket)}
    {entries : List (MatchTicket × MatchTicketStatus)}
    (collected : ticketStatuses status statuses pointers = some entries) :
    ∀ pointer ∈ pointers, ∃ ticket, pointer = some ticket ∧
      canChangeStatus (statuses ticket) status = true := by
  induction pointers generalizing entries with
  | nil => simp
  | cons head rest ih =>
      cases head with
      | none => cases collected
      | some ticket =>
          rw [ticketStatuses] at collected
          split_ifs at collected with cannot
          obtain ⟨tail, collectedTail, -⟩ := Option.map_eq_some_iff.mp collected
          intro pointer member
          rcases List.mem_cons.mp member with rfl | inside
          · exact ⟨ticket, rfl, by simpa using cannot⟩
          · exact ih collectedTail pointer inside

/-- **A session changes together with its tickets.** -/
theorem changeStatus_of_changeable (changeable : session.Changeable status state statuses) :
    session.changeStatus status state statuses =
      (true, { state with status := status }, moveAll session.tickets status statuses) := by
  have ready : Ready status (session.tickets.map fun ticket => (ticket, statuses ticket))
      statuses := by
    refine ⟨?_, fun entry member => ?_⟩
    · simpa [List.map_map, Function.comp_def] using session.nodup_tickets
    · obtain ⟨ticket, inside, rfl⟩ := List.mem_map.mp member
      obtain ⟨other, same, can⟩ := changeable.2 _ (mem_tickets.mp inside)
      cases same
      exact ⟨rfl, can⟩
  rw [changeStatus, if_neg (by simp [changeable.1]), ticketStatuses_eq_some changeable.2]
  simp only
  rw [show session.matchTicketList.reduceOption = session.tickets from rfl,
    changeAllIfCurrent_of_ready ready]
  simp [List.map_map, Function.comp_def]

/-- **Otherwise neither the session nor a ticket changes.** -/
theorem changeStatus_of_not_changeable (stuck : ¬ session.Changeable status state statuses) :
    session.changeStatus status state statuses = (false, state, statuses) := by
  rw [changeStatus]
  split_ifs with cannot
  · rfl
  · cases collected : ticketStatuses status statuses session.matchTicketList with
    | none => rfl
    | some entries =>
        exact (stuck ⟨by simpa using cannot, able_of_ticketStatuses collected⟩).elim

theorem stepsAtMostOnce_changeStatus (session : MatchSession) (status : MatchTicketStatus)
    (state : MatchSessionState) (statuses : TicketStatuses) :
    StepsAtMostOnce statuses (session.changeStatus status state statuses).2.2 := by
  by_cases changeable : session.Changeable status state statuses
  · rw [changeStatus_of_changeable changeable]
    refine stepsAtMostOnce_moveAll fun ticket inside => ?_
    obtain ⟨other, same, can⟩ := changeable.2 _ (mem_tickets.mp inside)
    cases same
    exact can
  · rw [changeStatus_of_not_changeable changeable]
    exact StepsAtMostOnce.refl statuses

end MatchSession

end MatchmakingMvp
