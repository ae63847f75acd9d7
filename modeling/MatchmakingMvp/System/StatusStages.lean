import MatchmakingMvp.System.Custody
import MatchmakingMvp.System.StatusSections
import MatchmakingMvp.Worker.Commit

/-! # The stages of a transition

A thread that performs a transition ticket by ticket is inside it from the moment it takes the
mutex (`MatchmakingMvp.Transition`). As long as its tickets have the statuses that it expects
(`MatchmakingMvp.Transition.Agrees`), it changes them one after another and has the result that
the one section has in the state the transition began in. Otherwise the thread is astray: it may
do anything, and set statuses back too. Every call follows these stages
(`MatchmakingMvp.strides_refine`).
-/

namespace MatchmakingMvp

open Foundation

/-- The tickets of a transition. -/
def Section.jointTickets : Section → List MatchTicket
  | .changeSessionStatus session _ => session.tickets
  | .partyCommit _ requests => requests.reduceOption.filterMap MatchmakingRequest.matchTicketPtr
  | _ => []

/-- The status that a transition gives its tickets. -/
def Section.jointTarget : Section → MatchTicketStatus
  | .changeSessionStatus _ status => status
  | .partyCommit _ _ => .searching
  | _ => .none

/-- What a ticket keeps of its status until the transition changes it: all of it if the ticket
is a session's, and whether it is queued if the ticket is to be committed. -/
def Section.Keeps (step : Section) (earlier later : MatchTicketStatus) : Prop :=
  match step with
  | .partyCommit _ _ => later = .queued ↔ earlier = .queued
  | _ => later = earlier

/-- A ticket that has not changed keeps all of its status. -/
theorem Section.Keeps.of_eq (step : Section) {earlier later : MatchTicketStatus}
    (same : later = earlier) : step.Keeps earlier later := by
  cases step <;> simp [Section.Keeps, same]

theorem Section.Keeps.trans {step : Section} {first second third : MatchTicketStatus}
    (earlier : step.Keeps first second) (later : step.Keeps second third) :
    step.Keeps first third := by
  cases step with
  | partyCommit => exact Iff.trans later earlier
  | _ => exact Eq.trans later earlier

/-- A ticket that can be changed as the transition changes it keeps its status. -/
theorem Section.Keeps.eq {step : Section} {earlier later : MatchTicketStatus}
    (keeps : step.Keeps earlier later)
    (can : canChangeStatus earlier step.jointTarget = true) : later = earlier := by
  cases step with
  | partyCommit =>
      have queued : earlier = .queued := by
        change canChangeStatus earlier .searching = true at can
        revert can
        cases earlier <;> decide
      exact (keeps.mpr queued).trans queued.symm
  | _ => exact keeps

section Effect

variable {step : Section} {world : World}

/-- A commit claims the tickets of its requests, or has no effect. -/
theorem World.partyCommit_cases (world : World) (group : WorkerGroup)
    (requests : List (Option MatchmakingRequest)) :
    ((world.partyCommit group requests).1 = false ∧
      (world.partyCommit group requests).2.2 = world.ticketStatus) ∨
    (world.partyCommit group requests).1 = true ∧
      (world.partyCommit group requests).2.2 = moveAll
        (Section.partyCommit group requests).jointTickets .searching world.ticketStatus := by
  rcases PartyMatchmakingWorkerGroup.tryCommit_cases requests with
    refused | ⟨listed, tickets, rfl, ticketsOf, -, -, -, committed⟩
  · rw [World.partyCommit, refused]
    exact Or.inl ⟨rfl, rfl⟩
  · have same : (Section.partyCommit group (listed.map some)).jointTickets = tickets := by
      simpa [Section.jointTickets, List.reduceOption] using ticketsOf.filterMap
    rw [World.partyCommit, committed, same]
    exact Or.inr ⟨rfl, rfl⟩

/-- What a transition does to the tickets where it is one section. -/
theorem Section.perform_joint {mutex : StatusMutex} {transition : StatusOperation Bool}
    (joint : step.joint = some (mutex, transition)) (world : World) :
    (perform step world).matchTickets = world.matchTickets ∧
      (perform step world).ticketStatus =
        if step.outcome world then moveAll step.jointTickets step.jointTarget world.ticketStatus
        else world.ticketStatus := by
  cases step with
  | changeSessionStatus session status =>
      refine ⟨rfl, ?_⟩
      by_cases changeable :
          session.Changeable status (world.sessionState session) world.ticketStatus
      · have result := MatchSession.changeStatus_of_changeable changeable
        simp only [perform, World.changeSessionStatus, result, Section.outcome, if_true]
        rfl
      · have result := MatchSession.changeStatus_of_not_changeable changeable
        simp only [perform, World.changeSessionStatus, result, Section.outcome,
          Bool.false_eq_true, if_false]
        rfl
  | partyCommit group requests =>
      refine ⟨rfl, ?_⟩
      rcases world.partyCommit_cases group requests with ⟨refused, same⟩ | ⟨committed, moved⟩
      · simp only [Section.outcome, refused, Bool.false_eq_true, if_false]
        exact same
      · simp only [Section.outcome, committed, if_true]
        exact moved
  | _ => cases joint

end Effect

/-- A thread inside a transition: what it performs, in which state it began, between which stages
it would be one section, and how far it has come. -/
structure Transition where
  step : Section
  taken : World
  stage : Stage
  stage' : Stage
  moved : List MatchTicket := []
  set : Bool := false

namespace Transition

/-- The tickets of the transition that have not moved have the statuses it began with, as far as
that concerns it, and the others the one it gives them. -/
structure Agrees (transition : Transition) (world : World) : Prop where
  precedes : transition.taken.Precedes world
  moved : ∀ ticket ∈ transition.moved, world.ticketStatus ticket = transition.step.jointTarget
  waiting : ∀ ticket ∈ transition.step.jointTickets, ticket ∉ transition.moved →
    transition.step.Keeps (transition.taken.ticketStatus ticket) (world.ticketStatus ticket)
  session : ∀ session status, transition.step = .changeSessionStatus session status →
    transition.set = false →
    (world.sessionState session).status = (transition.taken.sessionState session).status

/-- The tickets that have moved at its end. -/
def result (transition : Transition) : List MatchTicket :=
  if transition.step.outcome transition.taken then transition.step.jointTickets else []

/-- At its end a transition has done to the tickets what the one section does. -/
theorem Agrees.perform_precedes {transition : Transition} {world : World}
    (agrees : transition.Agrees world) {mutex : StatusMutex} {body : StatusOperation Bool}
    (joint : transition.step.joint = some (mutex, body))
    (complete : transition.moved = transition.result) :
    (perform transition.step transition.taken).Precedes world := by
  obtain ⟨matchTickets, statuses⟩ := Section.perform_joint joint transition.taken
  refine ⟨fun made => agrees.precedes.made ?_, fun ticket => ?_⟩
  · rwa [World.Made, matchTickets] at made
  rw [statuses]
  rw [result] at complete
  split_ifs at complete ⊢
  · by_cases inside : ticket ∈ transition.step.jointTickets
    · rw [moveAll_of_mem inside, agrees.moved ticket (complete ▸ inside)]
      exact Relation.ReflTransGen.refl
    · rw [moveAll_of_not_mem inside]
      exact agrees.precedes.advances ticket
  · exact agrees.precedes.advances ticket

end Transition

/-- The stage of a thread whose transitions are performed ticket by ticket. -/
inductive StatusStage
  | outside (stage : Stage)
  | inside (transition : Transition)
  | astray

/-- The tickets have the statuses that the thread expects. -/
def StatusStage.Agrees : StatusStage → World → Prop
  | .outside _, _ => True
  | .inside transition, world => transition.Agrees world
  | .astray, _ => False

variable (deployment : Deployment) (permits : MatchTicketRequest → Prop)

/-- The sections a thread performs, from stage to stage. A thread whose tickets have other
statuses than it expects goes astray, whatever it performs. -/
inductive StatusIssues : StatusSection → StatusState → StatusStage → StatusStage → Prop
  | whole {step state stage stage'} (whole : step.joint = none)
      (issues : Issues deployment permits step state.world stage stage') :
      StatusIssues (.whole step) state (.outside stage) (.outside stage')
  | lock {step state stage stage' mutex body} (joint : step.joint = some (mutex, body))
      (issues : Issues deployment permits step state.world stage stage') :
      StatusIssues (.lock mutex) state (.outside stage)
        (.inside { step, taken := state.world, stage, stage' })
  | read {state stage} : StatusIssues .read state stage stage
  | move {state transition ticket} (member : ticket ∈ transition.step.jointTickets)
      (unmoved : ticket ∉ transition.moved)
      (can : canChangeStatus (transition.taken.ticketStatus ticket)
        transition.step.jointTarget = true) :
      StatusIssues (.changeStatusIfCurrent ticket (transition.taken.ticketStatus ticket)
          transition.step.jointTarget) state (.inside transition)
        (.inside { transition with moved := transition.moved ++ [ticket] })
  | set {state transition session status}
      (own : transition.step = .changeSessionStatus session status) :
      StatusIssues (.setStatus session status) state (.inside transition)
        (.inside { transition with set := true })
  | erase {state transition group index ticket} :
      StatusIssues (.erase group index ticket) state (.inside transition) (.inside transition)
  | unlock {state transition mutex body} (joint : transition.step.joint = some (mutex, body))
      (complete : transition.moved = transition.result) :
      StatusIssues (.unlock mutex) state (.inside transition) (.outside transition.stage')
  | stray {step state stage} (lost : ¬ stage.Agrees state.world) :
      StatusIssues step state stage .astray

/-- The statuses of tickets only advance, and tickets made stay made. -/
def StatusState.Precedes (first second : StatusState) : Prop := first.world.Precedes second.world

theorem StatusState.Precedes.refl (state : StatusState) : state.Precedes state :=
  World.Precedes.refl state.world

theorem StatusState.Precedes.trans {first second third : StatusState}
    (earlier : first.Precedes second) (later : second.Precedes third) : first.Precedes third :=
  World.Precedes.trans earlier later

/-- The operation follows these stages, and ends astray or as the postcondition says. -/
def Strides {Result : Type} (state : StatusState) (stage : StatusStage)
    (operation : StatusOperation Result) (post : StatusStage → Result → Prop) : Prop :=
  operation.Follows performStatus (fun state => state.world.Sound deployment permits)
    StatusState.Precedes (StatusIssues deployment permits)
    (fun _ stage result => stage = .astray ∨ post stage result) state stage

variable {deployment permits} {state : StatusState} {stage : StatusStage} {First Second : Type}

/-- A thread that is astray may do anything. -/
theorem strides_astray {operation : StatusOperation First} {post : StatusStage → First → Prop} :
    Strides deployment permits state .astray operation post := by
  induction operation generalizing state with
  | done result => exact Or.inl rfl
  | step step next ih => exact fun state _ _ => ⟨.astray, .stray id, ih state⟩

/-- An operation that is done has its result in the stage it is in. -/
theorem strides_pure {result : First} {post : StatusStage → First → Prop}
    (holds : post stage result) : Strides deployment permits state stage (pure result) post :=
  Or.inr holds

/-- Operations one after the other. A thread that has gone astray stays so. -/
theorem Strides.bind {middle : StatusStage → First → Prop} {post : StatusStage → Second → Prop}
    {operation : StatusOperation First} {continuation : First → StatusOperation Second}
    (first : Strides deployment permits state stage operation middle)
    (second : ∀ state stage result, middle stage result →
      Strides deployment permits state stage (continuation result) post) :
    Strides deployment permits state stage (operation >>= continuation) post := by
  refine Program.Follows.bind first fun state stage result ends => ?_
  rcases ends with rfl | holds
  · exact strides_astray
  · exact second state stage result holds

/-- An operation that ends in one stage whatever its result. -/
theorem Strides.proceed {ends : StatusStage} {post : StatusStage → Second → Prop}
    {operation : StatusOperation First} {continuation : First → StatusOperation Second}
    (first : Strides deployment permits state stage operation fun stage' _ => stage' = ends)
    (second : ∀ state result, Strides deployment permits state ends (continuation result) post) :
    Strides deployment permits state stage (operation >>= continuation) post := by
  refine first.bind ?_
  rintro state _ result rfl
  exact second state result

/-- What a section is to be in states where the tickets have the statuses that the thread
expects. -/
theorem strides_step {step : StatusSection} {next : StatusState → StatusOperation First}
    {post : StatusStage → First → Prop}
    (agreeing : ∀ current : StatusState, state.world.Precedes current.world →
      stage.Agrees current.world → ∃ stage',
        StatusIssues deployment permits step current stage stage' ∧
          Strides deployment permits (performStatus step current) stage' (next current) post) :
    Strides deployment permits state stage (.step step next) post := by
  intro current precedes _
  by_cases agrees : stage.Agrees current.world
  · exact agreeing current precedes agrees
  · exact ⟨.astray, .stray agrees, strides_astray⟩

/-- The same for a single section. -/
theorem strides_atomically {step : StatusSection} {reading : StatusState → First}
    {post : StatusStage → First → Prop}
    (agreeing : ∀ current : StatusState, state.world.Precedes current.world →
      stage.Agrees current.world → ∃ stage',
        StatusIssues deployment permits step current stage stage' ∧
          post stage' (reading current)) :
    Strides deployment permits state stage (Program.atomically step reading) post :=
  strides_step fun current precedes agrees => by
    obtain ⟨stage', issues, holds⟩ := agreeing current precedes agrees
    exact ⟨stage', issues, strides_pure holds⟩

/-! ## Inside a transition -/

variable {transition : Transition}

/-- A reading inside a transition. -/
theorem strides_readWorld {reading : World → First} {post : StatusStage → First → Prop}
    (reads : ∀ world, transition.Agrees world → post (.inside transition) (reading world)) :
    Strides deployment permits state (.inside transition) (StatusOperation.readWorld reading)
      post :=
  strides_atomically fun current _ agrees => ⟨_, .read, reads current.world agrees⟩

/-- The status of a ticket that has not moved. -/
theorem strides_getStatus {ticket : MatchTicket} (fresh : transition.moved = [])
    (member : ticket ∈ transition.step.jointTickets) :
    Strides deployment permits state (.inside transition) (StatusOperation.getStatus ticket)
      fun stage result => stage = .inside transition ∧
        transition.step.Keeps (transition.taken.ticketStatus ticket) result :=
  strides_readWorld fun _ agrees =>
    ⟨rfl, agrees.waiting ticket member (fresh ▸ List.not_mem_nil)⟩

/-- The second loop of a transition whose tickets can all be changed changes them all. -/
theorem strides_changeAllIfCurrent {pending : List MatchTicket}
    {changed : List (MatchTicket × MatchTicketStatus)}
    (split : transition.moved ++ pending = transition.step.jointTickets)
    (nodup : transition.step.jointTickets.Nodup)
    (can : ∀ ticket ∈ pending, canChangeStatus (transition.taken.ticketStatus ticket)
      transition.step.jointTarget = true) :
    Strides deployment permits state (.inside transition)
      (StatusOperation.changeAllIfCurrent transition.step.jointTarget changed
        (pending.map fun ticket => (ticket, transition.taken.ticketStatus ticket)))
      fun stage result => result = true ∧ stage = .inside { transition with
        moved := transition.step.jointTickets } := by
  induction pending generalizing state transition changed with
  | nil =>
      rw [List.append_nil] at split
      exact strides_pure ⟨rfl, by rw [← split]⟩
  | cons ticket rest ih =>
      have ahead : ticket ∉ transition.moved := by
        have apart := nodup
        rw [← split] at apart
        exact fun moved => (List.nodup_append.mp apart).2.2 _ moved _ List.mem_cons_self rfl
      have member : ticket ∈ transition.step.jointTickets := by
        rw [← split]
        exact List.mem_append_right _ List.mem_cons_self
      have able := can ticket List.mem_cons_self
      have first : Strides deployment permits state (.inside transition)
          (StatusOperation.changeStatusIfCurrent ticket (transition.taken.ticketStatus ticket)
            transition.step.jointTarget) fun stage result => result = true ∧
              stage = .inside { transition with moved := transition.moved ++ [ticket] } := by
        refine strides_atomically fun current _ agrees => ⟨_, .move member ahead able, ?_, rfl⟩
        have same := (agrees.waiting ticket member ahead).eq able
        simp [MatchTicket.changeStatusIfCurrent, same, able]
      refine first.bind ?_
      rintro current _ _ ⟨rfl, rfl⟩
      rw [if_neg (by decide)]
      exact ih (by simpa using split) nodup fun other inside =>
        can other (List.mem_cons_of_mem _ inside)

/-- The first loop of a session's transition. -/
theorem strides_ticketStatuses {session : MatchSession} {status : MatchTicketStatus}
    (own : transition.step = .changeSessionStatus session status) (fresh : transition.moved = [])
    {pointers : List (Option MatchTicket)}
    (within : ∀ ticket, some ticket ∈ pointers → ticket ∈ session.tickets) :
    Strides deployment permits state (.inside transition)
      (StatusOperation.ticketStatuses status pointers) fun stage result =>
        stage = .inside transition ∧
          result = MatchSession.ticketStatuses status transition.taken.ticketStatus pointers := by
  induction pointers generalizing state with
  | nil => exact strides_pure ⟨rfl, rfl⟩
  | cons pointer rest ih =>
      cases pointer with
      | none => exact strides_pure ⟨rfl, rfl⟩
      | some ticket =>
          have member : ticket ∈ transition.step.jointTickets := by
            rw [own]
            exact within ticket List.mem_cons_self
          refine (strides_getStatus fresh member).bind ?_
          rintro current _ result ⟨rfl, keeps⟩
          have same : result = transition.taken.ticketStatus ticket := by
            rwa [own] at keeps
          rw [same, MatchSession.ticketStatuses]
          split_ifs
          · exact strides_pure ⟨rfl, rfl⟩
          · refine (ih fun other inside => within other (List.mem_cons_of_mem _ inside)).bind ?_
            rintro _ _ _ ⟨rfl, rfl⟩
            exact strides_pure ⟨rfl, rfl⟩

/-- The first loop of a commit. -/
theorem strides_queuedTickets {group : WorkerGroup} {requests : List (Option MatchmakingRequest)}
    (own : transition.step = .partyCommit group requests) (fresh : transition.moved = [])
    {pointers : List (Option MatchmakingRequest)}
    (within : ∀ request, some request ∈ pointers → some request ∈ requests) :
    Strides deployment permits state (.inside transition)
      (StatusOperation.queuedTickets pointers) fun stage result =>
        stage = .inside transition ∧ result =
          PartyMatchmakingWorkerGroup.queuedTickets transition.taken.ticketStatus pointers := by
  induction pointers generalizing state with
  | nil => exact strides_pure ⟨rfl, rfl⟩
  | cons pointer rest ih =>
      cases pointer with
      | none => exact strides_pure ⟨rfl, rfl⟩
      | some request =>
          rw [StatusOperation.queuedTickets, PartyMatchmakingWorkerGroup.queuedTickets]
          cases found : request.matchTicketPtr with
          | none => exact strides_pure ⟨rfl, rfl⟩
          | some ticket =>
              have member : ticket ∈ transition.step.jointTickets := by
                rw [own]
                exact List.mem_filterMap.mpr
                  ⟨request, List.reduceOption_mem_iff.mpr (within _ List.mem_cons_self), found⟩
              refine (strides_getStatus fresh member).bind ?_
              rintro current _ result ⟨rfl, keeps⟩
              have same : result = .queued ↔ transition.taken.ticketStatus ticket = .queued := by
                rwa [own] at keeps
              by_cases queued : transition.taken.ticketStatus ticket = .queued
              · simp only [same.mpr queued, queued, ne_eq, not_true_eq_false, if_false]
                refine (ih fun other inside =>
                  within other (List.mem_cons_of_mem _ inside)).bind ?_
                rintro _ _ _ ⟨rfl, rfl⟩
                exact strides_pure ⟨rfl, rfl⟩
              · simp only [mt same.mp queued, queued, ne_eq, not_false_eq_true, if_true]
                exact strides_pure ⟨rfl, rfl⟩

/-- The workers of one range lose a ticket inside the transition. -/
theorem strides_eraseFrom {group : WorkerGroup} {request : MatchmakingRequest}
    {ticket : MatchTicket} {remaining : Nat} {slotIndex : Int} :
    Strides deployment permits state (.inside transition)
      (StatusOperation.eraseFrom group request ticket remaining slotIndex)
      fun stage _ => stage = .inside transition := by
  induction remaining generalizing state slotIndex with
  | zero => exact strides_pure rfl
  | succ remaining ih =>
      refine Strides.proceed (strides_readWorld fun _ _ => rfl) fun _ _ => ?_
      split_ifs
      · exact Strides.proceed (strides_atomically fun _ _ _ => ⟨_, .erase, rfl⟩) fun _ _ => ih
      · exact ih
      · exact strides_pure rfl

/-- The third loop of a commit stays inside the transition. -/
theorem strides_eraseAll {group : WorkerGroup} {requests : List MatchmakingRequest} :
    Strides deployment permits state (.inside transition)
      (StatusOperation.eraseAll group requests) fun stage _ => stage = .inside transition := by
  induction requests generalizing state with
  | nil => exact strides_pure rfl
  | cons request rest ih =>
      rw [StatusOperation.eraseAll]
      cases request.matchTicketPtr with
      | none => exact ih
      | some ticket =>
          refine Strides.proceed (strides_readWorld fun _ _ => rfl) fun _ _ => ?_
          exact strides_eraseFrom.proceed fun _ _ => ih

/-- At the end of a transition the thread has the result of the one section. -/
def Transition.Ends (transition : Transition) (stage : StatusStage) (result : Bool) : Prop :=
  result = transition.step.outcome transition.taken ∧
    ∃ set, stage = .inside { transition with moved := transition.result, set }

/-- A transition that is refused ends before any ticket has moved. -/
theorem Transition.ends_of_refused (fresh : transition.moved = [])
    (refused : transition.step.outcome transition.taken = false) :
    transition.Ends (.inside transition) false := by
  refine ⟨refused.symm, transition.set, ?_⟩
  rw [Transition.result, if_neg (by simp [refused]), ← fresh]

/-- A transition of a session ends as its one section does. -/
theorem strides_changeStatus {session : MatchSession} {status : MatchTicketStatus}
    (own : transition.step = .changeSessionStatus session status) (fresh : transition.moved = [])
    (unset : transition.set = false) :
    Strides deployment permits state (.inside transition)
      (StatusOperation.changeStatus session status) transition.Ends := by
  have outcome : transition.step.outcome transition.taken =
      (transition.taken.changeSessionStatus session status).1 := by rw [own, Section.outcome]
  have read : Strides deployment permits state (.inside transition)
      (StatusOperation.readWorld fun world => (world.sessionState session).status)
      fun stage result => stage = .inside transition ∧
        result = (transition.taken.sessionState session).status :=
    strides_readWorld fun _ agrees => ⟨rfl, agrees.session session status own unset⟩
  refine read.bind ?_
  rintro _ _ _ ⟨rfl, rfl⟩
  by_cases changeable : session.Changeable status (transition.taken.sessionState session)
      transition.taken.ticketStatus
  swap
  · have refused : transition.step.outcome transition.taken = false := by
      rw [outcome, World.changeSessionStatus,
        MatchSession.changeStatus_of_not_changeable changeable]
    split_ifs with cannot
    · exact strides_pure (Transition.ends_of_refused fresh refused)
    · refine (strides_ticketStatuses own fresh fun _ => MatchSession.mem_tickets.mpr).bind ?_
      rintro _ _ _ ⟨rfl, rfl⟩
      cases collected : MatchSession.ticketStatuses status transition.taken.ticketStatus
          session.matchTicketList with
      | none => exact strides_pure (Transition.ends_of_refused fresh refused)
      | some entries =>
          exact (changeable ⟨by simpa using cannot,
            MatchSession.able_of_ticketStatuses collected⟩).elim
  have accepted : transition.step.outcome transition.taken = true := by
    rw [outcome, World.changeSessionStatus, MatchSession.changeStatus_of_changeable changeable]
  have tickets : transition.step.jointTickets = session.tickets := by
    rw [own, Section.jointTickets]
  have target : transition.step.jointTarget = status := by rw [own, Section.jointTarget]
  rw [if_neg (by simp [changeable.1])]
  refine (strides_ticketStatuses own fresh fun _ => MatchSession.mem_tickets.mpr).bind ?_
  rintro _ _ _ ⟨rfl, rfl⟩
  rw [MatchSession.ticketStatuses_eq_some changeable.2]
  have able : ∀ ticket ∈ session.tickets, canChangeStatus
      (transition.taken.ticketStatus ticket) transition.step.jointTarget = true := by
    intro ticket inside
    obtain ⟨other, same, can⟩ := changeable.2 _ (MatchSession.mem_tickets.mp inside)
    cases same
    exact target ▸ can
  have changes : ∀ current : StatusState, Strides deployment permits current (.inside transition)
      (StatusOperation.changeAllIfCurrent transition.step.jointTarget []
        (session.tickets.map fun ticket => (ticket, transition.taken.ticketStatus ticket))) _ :=
    fun _ => strides_changeAllIfCurrent (by rw [fresh, tickets, List.nil_append])
      (tickets ▸ session.nodup_tickets) able
  rw [target] at changes
  refine (changes _).bind ?_
  rintro _ _ _ ⟨rfl, rfl⟩
  rw [if_neg (by decide)]
  refine Strides.proceed (strides_atomically fun _ _ _ => ⟨_, .set own, rfl⟩) fun _ _ => ?_
  exact strides_pure ⟨accepted.symm, true, by rw [Transition.result, if_pos accepted]⟩

/-- The first loop of a commit collects nothing where some ticket is not queued. -/
theorem PartyMatchmakingWorkerGroup.queuedTickets_eq_none {tickets : List MatchTicket}
    {ticketStatus : MatchTicket → MatchTicketStatus}
    (unqueued : ¬ ∀ ticket ∈ tickets, ticketStatus ticket = .queued) :
    PartyMatchmakingWorkerGroup.queuedTickets ticketStatus
      ((tickets.map MatchTicket.matchmakingRequest).map some) = none := by
  by_contra collected
  obtain ⟨others, found⟩ := Option.ne_none_iff_exists'.mp collected
  obtain ⟨requests, same, theirs, queued⟩ :=
    PartyMatchmakingWorkerGroup.queuedTickets_eq_some_iff.mp found
  obtain rfl := List.map_injective_iff.mpr (Option.some_injective _) same
  exact unqueued ((ticketsOf_matchmakingRequest tickets).unique theirs ▸ queued)

/-- A commit of distinct tickets ends as its one section does. -/
theorem strides_tryCommit {group : WorkerGroup} {tickets : List MatchTicket}
    (own : transition.step =
      .partyCommit group ((tickets.map MatchTicket.matchmakingRequest).map some))
    (fresh : transition.moved = []) (nonempty : tickets ≠ []) (nodup : tickets.Nodup) :
    Strides deployment permits state (.inside transition)
      (StatusOperation.tryCommitMatchmakingRequests group
        ((tickets.map MatchTicket.matchmakingRequest).map some)) transition.Ends := by
  have outcome : transition.step.outcome transition.taken = (transition.taken.partyCommit group
      ((tickets.map MatchTicket.matchmakingRequest).map some)).1 := by rw [own, Section.outcome]
  have ticketsOf := ticketsOf_matchmakingRequest tickets
  have listed : transition.step.jointTickets = tickets := by
    rw [own]
    simpa [Section.jointTickets, List.reduceOption] using ticketsOf.filterMap
  have target : transition.step.jointTarget = .searching := by rw [own, Section.jointTarget]
  refine (strides_queuedTickets own fresh fun _ => id).bind ?_
  rintro _ _ _ ⟨rfl, rfl⟩
  by_cases queued : ∀ ticket ∈ tickets, transition.taken.ticketStatus ticket = .queued
  · have accepted : transition.step.outcome transition.taken = true := by
      rw [outcome, World.partyCommit, List.map_map,
        PartyMatchmakingWorkerGroup.tryCommit_of_queued nonempty nodup queued]
    rw [PartyMatchmakingWorkerGroup.queuedTickets_eq_some_iff.mpr ⟨_, rfl, ticketsOf, queued⟩]
    have entries : (tickets.map fun ticket => (ticket, MatchTicketStatus.queued)) =
        tickets.map fun ticket => (ticket, transition.taken.ticketStatus ticket) :=
      List.map_congr_left fun ticket inside => by rw [queued ticket inside]
    have able : ∀ ticket ∈ tickets, canChangeStatus
        (transition.taken.ticketStatus ticket) transition.step.jointTarget = true := by
      intro ticket inside
      rw [queued ticket inside, target]
      rfl
    have changes : ∀ current : StatusState, Strides deployment permits current
        (.inside transition) (StatusOperation.changeAllIfCurrent transition.step.jointTarget []
          (tickets.map fun ticket => (ticket, transition.taken.ticketStatus ticket))) _ :=
      fun _ => strides_changeAllIfCurrent (by rw [fresh, listed, List.nil_append])
        (listed ▸ nodup) able
    rw [target, ← entries] at changes
    refine (changes _).bind ?_
    rintro _ _ _ ⟨rfl, rfl⟩
    rw [if_neg (by decide)]
    refine strides_eraseAll.proceed fun _ _ => ?_
    exact strides_pure ⟨accepted.symm, transition.set, by rw [Transition.result, if_pos accepted]⟩
  · have none := PartyMatchmakingWorkerGroup.queuedTickets_eq_none queued
    rw [none]
    refine strides_pure (Transition.ends_of_refused fresh ?_)
    rw [outcome, World.partyCommit, PartyMatchmakingWorkerGroup.tryCommitMatchmakingRequests, none]
    split_ifs <;> rfl

/-- What a thread has in hand around a transition. -/
theorem Issues.changeSession {world : World} {stage stage' : Stage} {session : MatchSession}
    {status : MatchTicketStatus}
    (issues : Issues deployment permits (.changeSessionStatus session status) world stage stage') :
    stage.attends = some session ∧ stage.carries = [] ∧ stage'.carries = [] ∧
      stage.submits = none ∧ stage'.submits = none ∧
      ∀ other, stage'.attends = some other → other = session := by
  cases issues with
  | neutral neutral => cases neutral
  | require => exact ⟨rfl, rfl, rfl, rfl, rfl, nofun⟩
  | change =>
      split_ifs
      · exact ⟨rfl, rfl, rfl, rfl, rfl, fun other same => (Option.some.inj same).symm⟩
      · exact ⟨rfl, rfl, rfl, rfl, rfl, nofun⟩

/-- A commit is one of distinct tickets of the group. A thread that commits carries none before,
and the tickets it has claimed after. -/
theorem Issues.commit {world : World} {stage stage' : Stage} {group : WorkerGroup}
    {requests : List (Option MatchmakingRequest)}
    (issues : Issues deployment permits (.partyCommit group requests) world stage stage') :
    ∃ tickets : List MatchTicket,
      requests = (tickets.map MatchTicket.matchmakingRequest).map some ∧ tickets.Nodup ∧
      (∀ ticket ∈ tickets, Carried deployment world .party group ticket) ∧
      stage.carries = [] ∧
      stage'.carries.Perm (if (world.partyCommit group requests).1 then tickets else []) ∧
      stage.submits = none ∧ stage'.submits = none ∧
      ∀ other, stage'.attends = some other → stage.attends = some other := by
  cases issues with
  | neutral neutral => cases neutral
  | partyRefuse refused carried requested distinct =>
      refine ⟨_, requested, distinct, carried, rfl, ?_, rfl, rfl, fun _ => id⟩
      rw [refused]
      exact List.Perm.refl _
  | partyClaim committed carried requested listing distinct =>
      subst requested
      refine ⟨_, rfl, distinct, carried, rfl, ?_, rfl, rfl, nofun⟩
      rw [committed]
      exact listing

/-- Every transition that a thread issues ends as its one section does. -/
theorem strides_joint {step : Section} {mutex : StatusMutex} {body : StatusOperation Bool}
    {stage stage' : Stage} {taken : World} (joint : step.joint = some (mutex, body))
    (issues : Issues deployment permits step taken stage stage') :
    Strides deployment permits state (.inside { step, taken, stage, stage' }) body
      (Transition.Ends { step, taken, stage, stage' }) := by
  cases step with
  | changeSessionStatus session status =>
      cases joint
      exact strides_changeStatus rfl rfl rfl
  | partyCommit group requests =>
      obtain ⟨tickets, rfl, distinct, -⟩ := issues.commit
      cases tickets with
      | nil => cases joint
      | cons first rest =>
          cases joint
          exact strides_tryCommit rfl rfl (List.cons_ne_nil _ _) distinct
  | _ => cases joint

/-- **A call follows these stages** as its operation follows those of `MatchmakingMvp.Stage`. -/
theorem strides_refine {Result : Type} {others : Section → Bool → World}
    {operation : Operation Result} {post : World → Stage → Result → Prop} {seen : World}
    {stage : Stage}
    (follows : operation.Follows perform (World.Sound deployment permits) World.Precedes
      (Issues deployment permits) post seen stage)
    (reached : seen.Precedes state.world) :
    Strides deployment permits state (.outside stage) (StatusOperation.refine others operation)
      fun _ _ => True := by
  induction operation generalizing seen state stage with
  | done result => exact strides_pure trivial
  | step step next ih =>
      rw [StatusOperation.refine]
      cases joint : step.joint with
      | none =>
          intro current precedes sound
          obtain ⟨stage', issues, rest⟩ := follows current.world (reached.trans precedes) sound
          exact ⟨.outside stage', .whole joint issues,
            ih current.world rest (World.Precedes.refl _)⟩
      | some entry =>
          obtain ⟨mutex, body⟩ := entry
          intro current precedes sound
          obtain ⟨stage', issues, rest⟩ := follows current.world (reached.trans precedes) sound
          refine ⟨.inside { step, taken := current.world, stage, stage' }, .lock joint issues, ?_⟩
          refine (strides_joint joint issues).bind ?_
          rintro ended _ result ⟨rfl, set, rfl⟩
          have same : StatusOperation.answering others step current.world
              (step.outcome current.world) = current.world := if_pos rfl
          refine strides_step fun later _ agrees => ⟨_, .unlock joint rfl, ?_⟩
          rw [same]
          exact ih current.world rest (agrees.perform_precedes joint rfl)

end MatchmakingMvp
