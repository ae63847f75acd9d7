import MatchmakingMvp.System.Calls

/-! # Transitions of several tickets, ticket by ticket

A session and a commit of a party group change several tickets while they hold one mutex, but
that mutex is not the tickets': each reading and each change of a ticket's status has a mutex of
its own, and so has each worker a ticket is erased from. Here these are sections of their own
(`MatchmakingMvp.StatusSection`), so that other threads may act between any two of them, also
before tickets that were changed are set back. Where such a transition runs alone it does what
the one section of `MatchmakingMvp.Section` does (`MatchmakingMvp.StatusOperation.run_refine`).
All other sections are as they were. A worker of a solo group changes several tickets in one of
them, with the worker's mutex, and sets none back.
-/

namespace MatchmakingMvp

open Foundation

/-- The mutexes held across several changes: `m_MatchSessionMutex` of a session and
`m_WorkerGroupMutex` of a party group. -/
inductive StatusMutex
  | session (session : MatchSession)
  | group (key : MatchmakingGroupKey)
deriving DecidableEq

/-- The one of these mutexes that a section takes. A commit of no requests returns before. -/
def Section.statusMutex : Section → Option StatusMutex
  | .changeSessionStatus session _ | .forceSessionStatus session _
  | .acceptPlayerSession session _ => some (.session session)
  | .partyCommit _ [] => none
  | .partyCommit group (_ :: _) | .partyEnqueue group _ _ _ | .partyCancel group _
  | .partyExpand group => some (.group group.workerGroupKey)
  | _ => none

/-- The state of the system, and which of the mutexes are held across several sections. -/
structure StatusState where
  world : World := {}
  held : StatusMutex → Bool := fun _ => false

/-- One critical section where the transitions of several tickets are not one. -/
inductive StatusSection
  | whole (step : Section)
  | lock (mutex : StatusMutex)
  | unlock (mutex : StatusMutex)
  | read
  | changeStatusIfCurrent (ticket : MatchTicket) (expectedStatus nextStatus : MatchTicketStatus)
  | forceSetStatus (ticket : MatchTicket) (status : MatchTicketStatus)
  | setStatus (session : MatchSession) (status : MatchTicketStatus)
  | erase (group : WorkerGroup) (index : Int) (ticket : MatchTicket)
deriving DecidableEq

namespace StatusSection

/-- The mutex that a section waits for. -/
def mutex : StatusSection → Option StatusMutex
  | .whole step => step.statusMutex
  | .lock mutex => some mutex
  | _ => none

/-- No thread holds the mutex that the section waits for. -/
def Free (step : StatusSection) (state : StatusState) : Prop :=
  ∀ mutex ∈ step.mutex, state.held mutex = false

instance (step : StatusSection) (state : StatusState) : Decidable (step.Free state) :=
  inferInstanceAs (Decidable (∀ mutex ∈ step.mutex, state.held mutex = false))

end StatusSection

/-- The effect of a section. -/
def performStatus : StatusSection → StatusState → StatusState
  | .whole step, state => { state with world := perform step state.world }
  | .lock mutex, state => { state with held := Function.update state.held mutex true }
  | .unlock mutex, state => { state with held := Function.update state.held mutex false }
  | .read, state => state
  | .changeStatusIfCurrent ticket expectedStatus nextStatus, state =>
      { state with
        world := state.world.withTicketStatus (ticket.changeStatusIfCurrent expectedStatus
          nextStatus state.world.ticketStatus).2 }
  | .forceSetStatus ticket status, state =>
      { state with
        world := state.world.withTicketStatus
          (ticket.forceSetStatus status state.world.ticketStatus) }
  | .setStatus session status, state =>
      { state with
        world := state.world.withSessionState session
          { state.world.sessionState session with status := status } }
  | .erase group index ticket, state =>
      { state with
        world := state.world.withPartyGroup group ((state.world.partyGroup group).updateWorker
          index (((state.world.partyGroup group).workers index).erase ticket)) }

/-- A program of these sections. -/
abbrev StatusOperation (Result : Type) := Program StatusSection StatusState Result

namespace StatusOperation

/-- Read the state without changing it. -/
def readWorld {Result : Type} (reading : World → Result) : StatusOperation Result :=
  Program.atomically .read fun state => reading state.world

/-- `CMatchTicket::GetStatus`. -/
def getStatus (ticket : MatchTicket) : StatusOperation MatchTicketStatus :=
  readWorld fun world => world.ticketStatus ticket

/-- `CMatchTicket::ChangeStatusIfCurrent`. -/
def changeStatusIfCurrent (ticket : MatchTicket) (expectedStatus nextStatus : MatchTicketStatus) :
    StatusOperation Bool :=
  Program.atomically (.changeStatusIfCurrent ticket expectedStatus nextStatus) fun state =>
    (ticket.changeStatusIfCurrent expectedStatus nextStatus state.world.ticketStatus).1

/-- `CMatchTicket::ForceSetStatus` for every ticket that was changed. -/
def forceSetAll : List (MatchTicket × MatchTicketStatus) → StatusOperation Unit
  | [] => pure ()
  | (ticket, previousStatus) :: rest => do
      Program.atomically (.forceSetStatus ticket previousStatus) fun _ => ()
      forceSetAll rest

/-- The second loop of both transitions: change tickets one after another from the statuses
recorded for them. At the first that refuses, those changed so far are set back. -/
def changeAllIfCurrent (nextStatus : MatchTicketStatus) :
    List (MatchTicket × MatchTicketStatus) → List (MatchTicket × MatchTicketStatus) →
    StatusOperation Bool
  | _, [] => pure true
  | changed, (ticket, currentStatus) :: rest => do
      if (← changeStatusIfCurrent ticket currentStatus nextStatus) = false then
        forceSetAll changed
        return false
      changeAllIfCurrent nextStatus (changed ++ [(ticket, currentStatus)]) rest

/-- The first loop of `CMatchSession::ChangeStatus`: the tickets with their statuses, unless a
pointer is null or a ticket cannot change to the status. -/
def ticketStatuses (status : MatchTicketStatus) :
    List (Option MatchTicket) → StatusOperation (Option (List (MatchTicket × MatchTicketStatus)))
  | [] => pure (some [])
  | none :: _ => pure none
  | some ticket :: rest => do
      let currentStatus ← getStatus ticket
      if canChangeStatus currentStatus status = false then
        return none
      return (← ticketStatuses status rest).map ((ticket, currentStatus) :: ·)

/-- `CMatchSession::ChangeStatus`, with the mutex of the session. -/
def changeStatus (session : MatchSession) (status : MatchTicketStatus) : StatusOperation Bool := do
  if canChangeStatus (← readWorld fun world => (world.sessionState session).status) status =
      false then
    return false
  match ← ticketStatuses status session.matchTicketList with
  | none => return false
  | some ticketStatuses =>
      if (← changeAllIfCurrent status [] ticketStatuses) = false then
        return false
      Program.atomically (.setStatus session status) fun _ => ()
      return true

/-- The first loop of `TryCommitMatchmakingRequests`: the tickets, unless a request or ticket
pointer is null or a ticket is not queued. -/
def queuedTickets : List (Option MatchmakingRequest) → StatusOperation (Option (List MatchTicket))
  | [] => pure (some [])
  | none :: _ => pure none
  | some request :: rest =>
      match request.matchTicketPtr with
      | none => pure none
      | some ticket => do
          if (← getStatus ticket) ≠ .queued then
            return none
          return (← queuedTickets rest).map (ticket :: ·)

/-- Erase a ticket from the workers from `slotIndex` on, as far as the range of its request
reaches when each of them is come to. A range has no more indices than there are workers. -/
def eraseFrom (group : WorkerGroup) (request : MatchmakingRequest) (ticket : MatchTicket) :
    Nat → Int → StatusOperation Unit
  | 0, _ => pure ()
  | remaining + 1, slotIndex => do
      let slot ← readWorld fun world => world.workerSlot request
      if slotIndex ≤ slot.maxWorkerIndex (getMaxWorkerIndex group.workerCount) then
        if hasWorker group.workerCount slotIndex then
          Program.atomically (.erase group slotIndex ticket) fun _ => ()
        eraseFrom group request ticket remaining (slotIndex + 1)

/-- The third loop of `TryCommitMatchmakingRequests`: erase each request from the workers of its
range. -/
def eraseAll (group : WorkerGroup) : List MatchmakingRequest → StatusOperation Unit
  | [] => pure ()
  | request :: rest => do
      match request.matchTicketPtr with
      | none => eraseAll group rest
      | some ticket =>
          let slot ← readWorld fun world => world.workerSlot request
          eraseFrom group request ticket group.workerCount
            (slot.minWorkerIndex (getMaxWorkerIndex group.workerCount))
          eraseAll group rest

/-- `TryCommitMatchmakingRequests` of some requests, with the mutex of the group. -/
def tryCommitMatchmakingRequests (group : WorkerGroup)
    (requests : List (Option MatchmakingRequest)) : StatusOperation Bool := do
  match ← queuedTickets requests with
  | none => return false
  | some tickets =>
      if (← changeAllIfCurrent .searching []
          (tickets.map fun ticket => (ticket, .queued))) = false then
        return false
      eraseAll group requests.reduceOption
      return true

end StatusOperation

/-- The transitions of several tickets: the mutex each takes, and what it does with it. -/
def Section.joint : Section → Option (StatusMutex × StatusOperation Bool)
  | .changeSessionStatus session status =>
      some (.session session, StatusOperation.changeStatus session status)
  | .partyCommit _ [] => none
  | .partyCommit group (first :: rest) => some (.group group.workerGroupKey,
      StatusOperation.tryCommitMatchmakingRequests group (first :: rest))
  | _ => none

/-- What a transition of several tickets returns where it is one section. -/
def Section.outcome : Section → World → Bool
  | .changeSessionStatus session status, world => (world.changeSessionStatus session status).1
  | .partyCommit group requests, world => (world.partyCommit group requests).1
  | _, _ => false

namespace StatusOperation

/-- An operation continues from a transition as its result says: from the state the transition
began in where the one section has that result there, and otherwise from a state `others` in
which it has. -/
def answering (others : Section → Bool → World) (step : Section) (taken : World) (result : Bool) :
    World :=
  if step.outcome taken = result then taken else others step result

/-- An operation whose transitions of several tickets are performed ticket by ticket. What is
proved of it holds for all `others`. -/
def refine {Result : Type} (others : Section → Bool → World) :
    Operation Result → StatusOperation Result
  | .done result => pure result
  | .step step next =>
      match step.joint with
      | none => .step (.whole step) fun state => refine others (next state.world)
      | some (mutex, transition) => do
          let taken ← Program.atomically (.lock mutex) fun state => state.world
          let result ← transition
          Program.atomically (.unlock mutex) fun _ => ()
          refine others (next (answering others step taken result))

end StatusOperation

/-- The interleavings of calls whose transitions of several tickets are performed ticket by
ticket. A transition holds its mutex all the while, and whichever result it has the call
continues with that result. -/
abbrev StatusInterleaved (deployment : Deployment) (admissible : Call → Prop) :
    List (Executed StatusSection StatusState) → Pool StatusSection StatusState → Prop :=
  Execution performStatus
    (fun program => ∃ call others, admissible call ∧
      program = StatusOperation.refine others (call.program deployment))
    StatusSection.Free {}

/-! ## Transitions that run alone -/

/-- Writing back what a session has changes nothing. -/
@[simp] theorem World.withSessionState_self (world : World) (session : MatchSession) :
    world.withSessionState session (world.sessionState session) = world := by
  simp [World.withSessionState]

/-- Of two writes of a group the second remains. -/
@[simp] theorem World.withPartyGroup_withPartyGroup (world : World) (group : WorkerGroup)
    (first second : PartyMatchmakingWorkerGroup) :
    (world.withPartyGroup group first).withPartyGroup group second =
      world.withPartyGroup group second := by
  simp [World.withPartyGroup]

@[simp] theorem World.partyGroup_withPartyGroup (world : World) (group : WorkerGroup)
    (state : PartyMatchmakingWorkerGroup) :
    (world.withPartyGroup group state).partyGroup group = state := by
  simp [World.partyGroup, World.withPartyGroup]

namespace StatusOperation

@[simp] theorem run_readWorld {Result : Type} (reading : World → Result) (state : StatusState) :
    (readWorld reading).run performStatus state = (reading state.world, state) := (rfl)

@[simp] theorem run_getStatus (ticket : MatchTicket) (state : StatusState) :
    (getStatus ticket).run performStatus state = (state.world.ticketStatus ticket, state) := (rfl)

@[simp] theorem run_changeStatusIfCurrent (ticket : MatchTicket)
    (expectedStatus nextStatus : MatchTicketStatus) (state : StatusState) :
    (changeStatusIfCurrent ticket expectedStatus nextStatus).run performStatus state =
      ((ticket.changeStatusIfCurrent expectedStatus nextStatus state.world.ticketStatus).1,
        { state with
          world := state.world.withTicketStatus (ticket.changeStatusIfCurrent expectedStatus
            nextStatus state.world.ticketStatus).2 }) := (rfl)

/-- Setting back alone is setting back in one section. -/
theorem run_forceSetAll (changed : List (MatchTicket × MatchTicketStatus)) (state : StatusState) :
    ((forceSetAll changed).run performStatus state).2 =
      { state with
        world := state.world.withTicketStatus
          (MatchmakingMvp.forceSetAll changed state.world.ticketStatus) } := by
  induction changed generalizing state with
  | nil => rfl
  | cons entry rest ih =>
      obtain ⟨ticket, status⟩ := entry
      rw [forceSetAll, Program.run_bind, ih]
      rfl

/-- The second loop alone is that loop in one section. -/
theorem run_changeAllIfCurrent (nextStatus : MatchTicketStatus)
    (changed entries : List (MatchTicket × MatchTicketStatus)) (state : StatusState) :
    (changeAllIfCurrent nextStatus changed entries).run performStatus state =
      ((MatchmakingMvp.changeAllIfCurrent nextStatus changed entries state.world.ticketStatus).1,
        { state with
          world := state.world.withTicketStatus (MatchmakingMvp.changeAllIfCurrent nextStatus
            changed entries state.world.ticketStatus).2 }) := by
  induction entries generalizing changed state with
  | nil => rfl
  | cons entry rest ih =>
      obtain ⟨ticket, status⟩ := entry
      simp only [changeAllIfCurrent, MatchmakingMvp.changeAllIfCurrent, Program.run_bind,
        run_changeStatusIfCurrent, Program.run_ite]
      cases ticket.changeStatusIfCurrent status nextStatus state.world.ticketStatus with
      | mk accepted statuses =>
          cases accepted with
          | false =>
              simp only [if_true, run_forceSetAll, Program.run_pure]
              rfl
          | true =>
              simp only [Bool.true_eq_false, if_false, ih]
              rfl

/-- The first loop of a session alone collects the statuses of one state. -/
theorem run_ticketStatuses (status : MatchTicketStatus) (pointers : List (Option MatchTicket))
    (state : StatusState) :
    (ticketStatuses status pointers).run performStatus state =
      (MatchSession.ticketStatuses status state.world.ticketStatus pointers, state) := by
  induction pointers with
  | nil => rfl
  | cons pointer rest ih =>
      cases pointer with
      | none => rfl
      | some ticket =>
          simp only [ticketStatuses, MatchSession.ticketStatuses, Program.run_bind, run_getStatus,
            Program.run_ite, Program.run_pure, ih]
          split_ifs <;> rfl

/-- `CMatchSession::ChangeStatus` alone is its one section. -/
theorem run_changeStatus (session : MatchSession) (status : MatchTicketStatus)
    (state : StatusState) :
    (changeStatus session status).run performStatus state =
      ((state.world.changeSessionStatus session status).1,
        { state with world := perform (.changeSessionStatus session status) state.world }) := by
  simp only [changeStatus, Program.run_bind, run_readWorld, Program.run_ite, Program.run_pure,
    run_ticketStatuses, perform, World.changeSessionStatus, MatchSession.changeStatus]
  split_ifs
  · rw [World.withSessionState_self]
    rfl
  · cases MatchSession.ticketStatuses status state.world.ticketStatus session.matchTicketList with
    | none =>
        simp only [Program.run_pure, World.withSessionState_self]
        rfl
    | some entries =>
        simp only [Program.run_bind, run_changeAllIfCurrent, Program.run_ite]
        cases changed : MatchmakingMvp.changeAllIfCurrent status [] entries
            state.world.ticketStatus with
        | mk accepted statuses =>
            cases accepted with
            | false => simp only [if_true, Program.run_pure, World.withSessionState_self]
            | true =>
                simp only [Bool.true_eq_false, if_false, Program.run_atomically,
                  Program.run_pure]
                rfl

/-- The first loop of a commit alone finds the queued tickets of one state. -/
theorem run_queuedTickets (pointers : List (Option MatchmakingRequest)) (state : StatusState) :
    (queuedTickets pointers).run performStatus state =
      (PartyMatchmakingWorkerGroup.queuedTickets state.world.ticketStatus pointers, state) := by
  induction pointers with
  | nil => rfl
  | cons pointer rest ih =>
      cases pointer with
      | none => rfl
      | some request =>
          simp only [queuedTickets, PartyMatchmakingWorkerGroup.queuedTickets]
          cases request.matchTicketPtr with
          | none => rfl
          | some ticket =>
              simp only [Program.run_bind, run_getStatus, Program.run_ite, Program.run_pure, ih]
              split_ifs <;> rfl

/-- The workers from one index on, up to the end of a range, lose a ticket. -/
def erasedFrom (group : WorkerGroup) (last : Int) (ticket : MatchTicket) (slotIndex : Int)
    (state : PartyMatchmakingWorkerGroup) : PartyMatchmakingWorkerGroup :=
  { state with workers := fun index =>
      if slotIndex ≤ index ∧ index ≤ last ∧ hasWorker group.workerCount index then
        (state.workers index).erase ticket
      else state.workers index }

/-- No worker lies beyond the end of the range. -/
theorem erasedFrom_of_lt {group : WorkerGroup} {last slotIndex : Int} (ticket : MatchTicket)
    (past : last < slotIndex) (state : PartyMatchmakingWorkerGroup) :
    erasedFrom group last ticket slotIndex state = state := by
  have none : ∀ index, ¬ (slotIndex ≤ index ∧ index ≤ last ∧
      hasWorker group.workerCount index) := fun index ⟨low, high, _⟩ => by omega
  simp only [erasedFrom, none, if_false]

/-- The first worker of the range loses the ticket before the others. -/
theorem erasedFrom_of_le {group : WorkerGroup} {last slotIndex : Int} (ticket : MatchTicket)
    (within : slotIndex ≤ last) (state : PartyMatchmakingWorkerGroup) :
    erasedFrom group last ticket slotIndex state = erasedFrom group last ticket (slotIndex + 1)
      (if hasWorker group.workerCount slotIndex then
        state.updateWorker slotIndex ((state.workers slotIndex).erase ticket) else state) := by
  rw [erasedFrom, erasedFrom]
  split_ifs with present
  · refine congrArg (fun workers => { state with workers }) (funext fun index => ?_)
    by_cases own : index = slotIndex
    · subst own
      simp [PartyMatchmakingWorkerGroup.updateWorker, within, present]
    · have beyond : slotIndex ≤ index ↔ slotIndex + 1 ≤ index := by omega
      simp [PartyMatchmakingWorkerGroup.updateWorker, own, beyond]
  · refine congrArg (fun workers => { state with workers }) (funext fun index => ?_)
    by_cases own : index = slotIndex
    · subst own
      simp [present]
    · have beyond : slotIndex ≤ index ↔ slotIndex + 1 ≤ index := by omega
      simp [beyond]

/-- The loop over the workers alone, with enough of them to come to. -/
theorem run_eraseFrom (group : WorkerGroup) (request : MatchmakingRequest) (ticket : MatchTicket)
    {remaining : Nat} {slotIndex : Int} (state : StatusState)
    (reaches : (state.world.workerSlot request).maxWorkerIndex
      (getMaxWorkerIndex group.workerCount) < slotIndex + remaining) :
    ((eraseFrom group request ticket remaining slotIndex).run performStatus state).2 =
      { state with
        world := state.world.withPartyGroup group (erasedFrom group
          ((state.world.workerSlot request).maxWorkerIndex (getMaxWorkerIndex group.workerCount))
          ticket slotIndex (state.world.partyGroup group)) } := by
  induction remaining generalizing slotIndex state with
  | zero =>
      rw [erasedFrom_of_lt ticket (by omega), World.withPartyGroup_self]
      rfl
  | succ remaining ih =>
      simp only [eraseFrom, Program.run_bind, run_readWorld, Program.run_ite]
      split_ifs with within present
      · rw [erasedFrom_of_le ticket within, if_pos present]
        simp only [Program.run_atomically]
        rw [ih]
        · simp [performStatus]
        · simp only [performStatus, World.withPartyGroup_workerSlot]
          omega
      · rw [erasedFrom_of_le ticket within, if_neg present]
        exact ih state (by omega)
      · rw [erasedFrom_of_lt ticket (not_le.mp within), World.withPartyGroup_self]
        rfl

/-- A range of a request ends at the last worker at the latest. -/
theorem maxWorkerIndex_lt (group : WorkerGroup) (slot : WorkerSlot) :
    slot.maxWorkerIndex (getMaxWorkerIndex group.workerCount) <
      slot.minWorkerIndex (getMaxWorkerIndex group.workerCount) + group.workerCount := by
  have positive := group.hasWorkers
  simp only [WorkerSlot.maxWorkerIndex, WorkerSlot.minWorkerIndex, clamp, getMaxWorkerIndex]
  split_ifs <;> omega

/-- The third loop of a commit alone is that loop in one section. -/
theorem run_eraseAll (group : WorkerGroup) (requests : List MatchmakingRequest)
    (state : StatusState) :
    ((eraseAll group requests).run performStatus state).2 =
      { state with
        world := state.world.withPartyGroup group (requests.foldl
          (PartyMatchmakingWorkerGroup.eraseFromRange group.workerCount state.world.workerSlot)
          (state.world.partyGroup group)) } := by
  induction requests generalizing state with
  | nil =>
      rw [List.foldl_nil, World.withPartyGroup_self]
      rfl
  | cons request rest ih =>
      rw [eraseAll, List.foldl_cons]
      cases pointer : request.matchTicketPtr with
      | none =>
          have kept : (state.world.partyGroup group).eraseFromRange group.workerCount
              state.world.workerSlot request = state.world.partyGroup group := by
            rw [PartyMatchmakingWorkerGroup.eraseFromRange, pointer]
          rw [kept]
          exact ih state
      | some ticket =>
          have erased : (state.world.partyGroup group).eraseFromRange group.workerCount
              state.world.workerSlot request = erasedFrom group
                ((state.world.workerSlot request).maxWorkerIndex
                  (getMaxWorkerIndex group.workerCount)) ticket
                ((state.world.workerSlot request).minWorkerIndex
                  (getMaxWorkerIndex group.workerCount)) (state.world.partyGroup group) := by
            rw [PartyMatchmakingWorkerGroup.eraseFromRange, pointer]
            rfl
          simp only [Program.run_bind, run_readWorld]
          rw [run_eraseFrom _ _ _ _ (maxWorkerIndex_lt _ _), ih, erased]
          simp only [World.partyGroup_withPartyGroup, World.withPartyGroup_withPartyGroup]
          rfl

/-- `TryCommitMatchmakingRequests` alone is its one section. -/
theorem run_tryCommitMatchmakingRequests (group : WorkerGroup)
    {requests : List (Option MatchmakingRequest)} (nonempty : requests ≠ [])
    (state : StatusState) :
    (tryCommitMatchmakingRequests group requests).run performStatus state =
      ((state.world.partyCommit group requests).1,
        { state with world := perform (.partyCommit group requests) state.world }) := by
  simp only [tryCommitMatchmakingRequests, Program.run_bind, run_queuedTickets, perform,
    World.partyCommit, PartyMatchmakingWorkerGroup.tryCommitMatchmakingRequests,
    List.isEmpty_iff, nonempty, if_false]
  cases PartyMatchmakingWorkerGroup.queuedTickets state.world.ticketStatus requests with
  | none =>
      simp only [Program.run_pure, World.withPartyGroup_self]
      rfl
  | some tickets =>
      simp only [Program.run_bind, run_changeAllIfCurrent, Program.run_ite]
      cases changed : MatchmakingMvp.changeAllIfCurrent .searching []
          (tickets.map fun ticket => (ticket, MatchTicketStatus.queued))
          state.world.ticketStatus with
      | mk accepted statuses =>
          cases accepted with
          | false => simp only [if_true, Program.run_pure, World.withPartyGroup_self]
          | true =>
              simp only [Bool.true_eq_false, if_false, run_eraseAll, Program.run_pure]
              rfl

end StatusOperation

/-- A transition that runs alone does what the one section does. -/
theorem Section.run_joint {step : Section} {mutex : StatusMutex}
    {transition : StatusOperation Bool} (joint : step.joint = some (mutex, transition))
    (state : StatusState) :
    transition.run performStatus state =
      (step.outcome state.world, { state with world := perform step state.world }) := by
  cases step with
  | changeSessionStatus session status =>
      cases joint
      exact StatusOperation.run_changeStatus session status state
  | partyCommit group requests =>
      cases requests with
      | nil => cases joint
      | cons first rest =>
          cases joint
          exact StatusOperation.run_tryCommitMatchmakingRequests group (List.cons_ne_nil _ _) state
  | _ => cases joint

/-- **Transitions that run alone.** An operation whose transitions are performed ticket by ticket
does what the operation does, where it runs alone. -/
theorem StatusOperation.run_refine {Result : Type} (others : Section → Bool → World)
    (operation : Operation Result) (world : World) :
    (refine others operation).run performStatus { world := world } =
      ((operation.run perform world).1, { world := (operation.run perform world).2 }) := by
  induction operation generalizing world with
  | done result => rfl
  | step step next ih =>
      rw [refine]
      cases joint : step.joint with
      | none => exact ih world (perform step world)
      | some entry =>
          obtain ⟨mutex, transition⟩ := entry
          simp only [Program.run_bind, Program.run_atomically, Section.run_joint joint]
          have same : answering others step world (step.outcome world) = world := if_pos rfl
          have released : performStatus (.unlock mutex)
              { performStatus (.lock mutex) { world := world } with world := perform step world } =
              { world := perform step world } := by
            simp [performStatus]
          change Program.run performStatus
            (refine others (next (answering others step world (step.outcome world))))
            (performStatus (.unlock mutex) { performStatus (.lock mutex) { world := world } with
              world := perform step world }) = _
          rw [same, released]
          exact ih world (perform step world)

end MatchmakingMvp
