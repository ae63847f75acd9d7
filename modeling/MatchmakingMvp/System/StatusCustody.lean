import MatchmakingMvp.System.StatusStages

/-! # No transition goes astray

While a thread is inside a transition, nobody else moves its tickets: those of a session change
with the session only, and the queued ones of a commit with the mutex of their group only
(`MatchmakingMvp.StatusState.Upheld`). So every ticket has the status the thread expects when the
thread comes to it, and no status is ever set back (`MatchmakingMvp.StatusState.Upheld.perform`).
-/

namespace MatchmakingMvp

open Foundation

variable {deployment : Deployment} {permits : MatchTicketRequest → Prop} {world later : World}

/-! ## Single changes of a transition -/

/-- What a section inside a transition may change: tickets that have started advance, but none
becomes queued, and workers of party groups lose tickets. -/
structure World.Retouches (world later : World) : Prop where
  matchTickets : later.matchTickets = world.matchTickets
  nextMatchTicketId : later.nextMatchTicketId = world.nextMatchTicketId
  workerSlot : later.workerSlot = world.workerSlot
  tickets : later.tickets = world.tickets
  soloWorkers : later.soloWorkers = world.soloWorkers
  matchSessions : later.matchSessions = world.matchSessions
  advances : ∀ ticket, Advances (world.ticketStatus ticket) (later.ticketStatus ticket)
  started : ∀ ticket, later.ticketStatus ticket ≠ .none → world.ticketStatus ticket ≠ .none
  queued : ∀ ticket, later.ticketStatus ticket = .queued → world.ticketStatus ticket = .queued
  party : ∀ key property, (world.partyGroups key).Every property →
    (later.partyGroups key).Every property
  filed : ∀ key index, ((world.partyGroups key).workers index).Filed →
    ((later.partyGroups key).workers index).Filed

namespace World.Retouches

theorem made (retouches : world.Retouches later) {queue : QueueKind} {ticket : MatchTicket} :
    later.Made queue ticket ↔ world.Made queue ticket := by
  rw [World.Made, World.Made, retouches.matchTickets]

/-- Such a section moves the statuses forward. -/
theorem precedes (retouches : world.Retouches later) : world.Precedes later :=
  ⟨retouches.made.mpr, retouches.advances⟩

/-- Such a section keeps the state sound. -/
theorem sound (retouches : world.Retouches later) (sound : world.Sound deployment permits) :
    later.Sound deployment permits where
  serials := by
    rw [retouches.matchTickets]
    exact sound.serials
  single := fun ticket made => sound.single ticket (retouches.made.mp made)
  nonneg := by
    rw [retouches.nextMatchTicketId]
    exact ⟨sound.nonneg.1, fun queue ticket made =>
      sound.nonneg.2 queue ticket (retouches.made.mp made)⟩
  issued := fun serverIssues => by
    obtain ⟨next, ids⟩ := sound.issued serverIssues
    rw [retouches.nextMatchTicketId, retouches.matchTickets]
    exact ⟨next, fun queue ticket made => ids queue ticket (retouches.made.mp made)⟩
  started := fun ticket started =>
    (sound.started ticket (retouches.started ticket started)).imp fun _ => retouches.made.mpr
  served := fun queue ticket made queued =>
    sound.served queue ticket (retouches.made.mp made) (retouches.queued ticket queued)
  registered := fun queue id ticket found => by
    rw [retouches.tickets] at found
    exact (sound.registered queue id ticket found).imp_left retouches.made.mpr
  solo := fun key index => by
    rw [retouches.soloWorkers]
    exact (sound.solo key index).mono fun _ => World.Entry.mono retouches.precedes
  party := fun key =>
    retouches.party key _ ((sound.party key).mono fun _ => World.Entry.mono retouches.precedes)
  filed := fun key index => retouches.filed key index (sound.filed key index)
  progressing := fun group served index => by
    rw [retouches.soloWorkers]
    exact sound.progressing group served index
  seated := fun id session found ticket inside => by
    rw [retouches.matchSessions] at found
    exact retouches.precedes.engaged (sound.seated id session found ticket inside)
  slots := fun request moved => by
    rw [retouches.workerSlot] at moved
    obtain ⟨queue, ticket, made, same⟩ := sound.slots request moved
    exact ⟨queue, ticket, retouches.made.mpr made, same⟩

/-- Solo tickets that wait and tickets under submission are none that such a section moves. -/
theorem queueing (retouches : world.Retouches later) {stages : Multiset Stage}
    (queueing : world.Queueing deployment stages)
    (kept : ∀ ticket, (world.Queued .solo ticket ∨ ∃ queue, UnderSubmission stages queue ticket) →
      later.ticketStatus ticket = world.ticketStatus ticket) :
    later.Queueing deployment stages where
  submitting := ⟨fun queue ticket inside =>
      retouches.made.mpr (queueing.submitting.made queue ticket inside),
    fun ticket inside => by
      rw [kept ticket (Or.inr ⟨_, inside⟩)]
      exact queueing.submitting.fresh ticket inside,
    queueing.submitting.apart⟩
  idle := fun queue ticket inside => by
    rw [kept ticket (Or.inr ⟨_, inside⟩)]
    exact queueing.idle queue ticket inside
  ready := fun key index => by
    rw [retouches.soloWorkers]
    refine (queueing.ready key index).mono fun ticket delivered => ⟨⟨?_, ?_⟩, delivered.arrived,
      delivered.keyed, delivered.assigned⟩
    · exact retouches.made.mpr delivered.queued.1
    · rw [kept ticket (Or.inl delivered.queued)]
      exact delivered.queued.2

/-- Such a section leaves carried tickets in search. -/
theorem custody (retouches : world.Retouches later) {known : Set MatchSession}
    {carried : Multiset MatchTicket} (custody : world.Custody known carried)
    (kept : ∀ ticket ∈ carried, later.ticketStatus ticket = world.ticketStatus ticket) :
    later.Custody known carried where
  distinct := custody.distinct
  searching := fun ticket inside => (kept ticket inside).trans (custody.searching ticket inside)
  engaged := fun session member ticket inside =>
    retouches.precedes.engaged (custody.engaged session member ticket inside)
  outside := custody.outside
  apart := custody.apart
  registered := fun id session found => by
    rw [retouches.matchSessions] at found
    exact custody.registered id session found

/-- A queued ticket that is set in search is carried from then on. -/
theorem custody_cons (retouches : world.Retouches later) {known : Set MatchSession}
    {carried : Multiset MatchTicket} (custody : world.Custody known carried)
    {ticket : MatchTicket} (queued : world.ticketStatus ticket = .queued)
    (searching : later.ticketStatus ticket = .searching)
    (kept : ∀ other, other ≠ ticket → later.ticketStatus other = world.ticketStatus other) :
    later.Custody known (ticket ::ₘ carried) := by
  have fresh : ticket ∉ carried := fun inside => by
    cases queued.symm.trans (custody.searching ticket inside)
  have rest := retouches.custody custody fun other inside =>
    kept other fun same => fresh (same ▸ inside)
  refine { rest with
    distinct := Multiset.nodup_cons.mpr ⟨fresh, rest.distinct⟩, searching := ?_, outside := ?_ }
  · intro other inside
    rcases Multiset.mem_cons.mp inside with rfl | earlier
    · exact searching
    · exact rest.searching other earlier
  · intro session member other inside carries
    rcases Multiset.mem_cons.mp carries with rfl | earlier
    · have engaged := custody.engaged session member other inside
      rw [queued] at engaged
      cases engaged
    · exact rest.outside session member other inside earlier

end World.Retouches

/-- A ticket advances, but not into a queue. -/
theorem World.retouches_update {ticket : MatchTicket} {status : MatchTicketStatus}
    (started : world.ticketStatus ticket ≠ .none)
    (can : canChangeStatus (world.ticketStatus ticket) status = true) :
    world.Retouches (world.withTicketStatus
      (Function.update world.ticketStatus ticket status)) where
  matchTickets := rfl
  nextMatchTicketId := rfl
  workerSlot := rfl
  tickets := rfl
  soloWorkers := rfl
  matchSessions := rfl
  advances := (stepsAtMostOnce_update can).advances
  started := fun other moved => by
    by_cases own : other = ticket
    · exact own ▸ started
    · rwa [World.withTicketStatus_ticketStatus, Function.update_of_ne own] at moved
  queued := fun other queued => by
    by_cases own : other = ticket
    · subst own
      rw [World.withTicketStatus_ticketStatus, Function.update_self] at queued
      subst queued
      revert started can
      cases world.ticketStatus other <;> decide
    · rwa [World.withTicketStatus_ticketStatus, Function.update_of_ne own] at queued
  party := fun _ _ => id
  filed := fun _ _ => id

/-- A session changes, but none of its tickets. -/
theorem World.retouches_withSessionState (session : MatchSession) (state : MatchSessionState) :
    world.Retouches (world.withSessionState session state) where
  matchTickets := rfl
  nextMatchTicketId := rfl
  workerSlot := rfl
  tickets := rfl
  soloWorkers := rfl
  matchSessions := rfl
  advances := fun _ => Relation.ReflTransGen.refl
  started := fun _ => id
  queued := fun _ => id
  party := fun _ _ => id
  filed := fun _ _ => id

/-- A worker of a party group loses a ticket. -/
theorem World.retouches_erase (group : WorkerGroup) (index : Int) (ticket : MatchTicket) :
    world.Retouches (world.withPartyGroup group ((world.partyGroup group).updateWorker index
      (((world.partyGroup group).workers index).erase ticket))) where
  matchTickets := rfl
  nextMatchTicketId := rfl
  workerSlot := rfl
  tickets := rfl
  soloWorkers := rfl
  matchSessions := rfl
  advances := fun _ => Relation.ReflTransGen.refl
  started := fun _ => id
  queued := fun _ => id
  party := fun key property every => by
    refine World.withPartyGroup_every every fun same => ?_
    subst same
    refine ⟨fun other => ?_, every.expanding⟩
    rw [PartyMatchmakingWorkerGroup.workers_updateWorker]
    by_cases own : other = index
    · subst own
      rw [Function.update_self]
      exact (every.workers other).erase ticket
    · rw [Function.update_of_ne own]
      exact every.workers other
  filed := fun key other filed => by
    rw [World.withPartyGroup_partyGroups]
    by_cases same : key = group.workerGroupKey
    · subst same
      rw [Function.update_self, PartyMatchmakingWorkerGroup.workers_updateWorker]
      by_cases own : other = index
      · subst own
        rw [Function.update_self]
        exact filed.erase ticket
      · rw [Function.update_of_ne own]
        exact filed
    · rw [Function.update_of_ne same]
      exact filed

/-! ## Threads inside and outside of transitions -/

/-- The stage that a thread was in when it took the mutex. -/
def StatusStage.origin : StatusStage → Stage
  | .outside stage => stage
  | .inside transition => transition.stage
  | .astray => .free none

/-- The mutex that a thread holds. -/
def StatusStage.mutex : StatusStage → Option StatusMutex
  | .inside transition => transition.step.statusMutex
  | .outside _ | .astray => none

/-- The tickets that a transition has claimed so far. -/
def Transition.claims (transition : Transition) : List MatchTicket :=
  match transition.step with
  | .partyCommit _ _ => transition.moved
  | _ => []

/-- The tickets that a thread carries. -/
def StatusStage.carries : StatusStage → List MatchTicket
  | .outside stage => stage.carries
  | .inside transition => transition.claims
  | .astray => []

/-- The tickets that the threads carry. -/
def claimedBy (stages : Multiset StatusStage) : Multiset MatchTicket :=
  stages.bind fun stage => (stage.carries : Multiset MatchTicket)

theorem claimedBy_cons (stage : StatusStage) (stages : Multiset StatusStage) :
    claimedBy (stage ::ₘ stages) = ↑stage.carries + claimedBy stages :=
  Multiset.cons_bind _ _ _

theorem mem_claimedBy {ticket : MatchTicket} {stage : StatusStage} {stages : Multiset StatusStage}
    (member : stage ∈ stages) (inside : ticket ∈ stage.carries) : ticket ∈ claimedBy stages :=
  Multiset.mem_bind.mpr ⟨stage, member, Multiset.mem_coe.mpr inside⟩

/-- A transition holds the mutex that its one section takes. -/
theorem Section.statusMutex_of_joint {step : Section} {mutex : StatusMutex}
    {body : StatusOperation Bool} (joint : step.joint = some (mutex, body)) :
    step.statusMutex = some mutex := by
  cases step with
  | changeSessionStatus => exact congrArg (Option.map Prod.fst) joint
  | partyCommit group requests =>
      cases requests with
      | nil => cases joint
      | cons => exact congrArg (Option.map Prod.fst) joint
  | _ => cases joint

/-- A transition that a thread has begun. -/
structure Transition.Begun (deployment : Deployment) (permits : MatchTicketRequest → Prop)
    (transition : Transition) : Prop where
  joint : ∃ mutex body, transition.step.joint = some (mutex, body)
  issues : Issues deployment permits transition.step transition.taken transition.stage
    transition.stage'
  within : ∀ ticket ∈ transition.moved, ticket ∈ transition.step.jointTickets

/-- What a thread has in hand around a transition: it carries nothing before, and what the
transition has claimed after. -/
theorem Transition.Begun.around {transition : Transition}
    (begun : transition.Begun deployment permits) :
    transition.stage.carries = [] ∧ transition.stage.submits = none ∧
      transition.stage'.submits = none ∧
      (∀ session, transition.stage'.attends = some session →
        transition.stage.attends = some session) ∧
      (transition.moved = transition.result →
        transition.stage'.carries.Perm transition.claims) := by
  obtain ⟨step, taken, stage, stage', moved, set⟩ := transition
  obtain ⟨⟨mutex, body, joint⟩, issues, -⟩ := begun
  cases step with
  | changeSessionStatus session status =>
      obtain ⟨attends, carries, carries', submits, submits', only⟩ := issues.changeSession
      refine ⟨carries, submits, submits', fun other attended => ?_, fun _ => ?_⟩
      · rw [only other attended]
        exact attends
      · rw [carries']
        exact List.Perm.refl _
  | partyCommit group requests =>
      obtain ⟨tickets, rfl, -, -, carries, carries', submits, submits', only⟩ := issues.commit
      refine ⟨carries, submits, submits', only, fun complete => ?_⟩
      have listed : (Section.partyCommit group
          ((tickets.map MatchTicket.matchmakingRequest).map some)).jointTickets = tickets := by
        simpa [Section.jointTickets, List.reduceOption] using
          (ticketsOf_matchmakingRequest tickets).filterMap
      rw [Transition.claims, show moved = _ from complete, Transition.result, listed]
      exact carries'
  | _ => cases joint

/-- Where no thread is astray: all have the statuses they expect and hold their mutexes, and
claimed tickets are in one place. -/
structure StatusState.Upheld (deployment : Deployment) (permits : MatchTicketRequest → Prop)
    (state : StatusState) (stages : Multiset StatusStage) (known : Set MatchSession) : Prop where
  agrees : ∀ stage ∈ stages, stage.Agrees state.world
  begun : ∀ transition, .inside transition ∈ stages → transition.Begun deployment permits
  held : ∀ stage ∈ stages, ∀ mutex ∈ stage.mutex, state.held mutex = true
  apart : (stages.filterMap StatusStage.mutex).Nodup
  queueing : state.world.Queueing deployment (stages.map StatusStage.origin)
  custody : state.world.Custody known (claimedBy stages)
  attended : ∀ stage ∈ stages, ∀ session, stage.origin.attends = some session → session ∈ known

namespace StatusState.Upheld

variable {state : StatusState} {stage stage' : StatusStage} {stages others : Multiset StatusStage}
  {known : Set MatchSession}

/-- Before any thread has joined. -/
theorem initial : ({} : StatusState).Upheld deployment permits 0 ∅ where
  agrees := fun stage member => (Multiset.notMem_zero stage member).elim
  begun := fun _ member => (Multiset.notMem_zero _ member).elim
  held := fun stage member => (Multiset.notMem_zero stage member).elim
  apart := List.nodup_nil
  queueing := .initial
  custody := .initial
  attended := fun stage member => (Multiset.notMem_zero stage member).elim

/-- A thread joins. -/
theorem join (upheld : state.Upheld deployment permits stages known) :
    state.Upheld deployment permits (.outside (.free none) ::ₘ stages) known where
  agrees := fun stage member => by
    rcases Multiset.mem_cons.mp member with rfl | inside
    · trivial
    · exact upheld.agrees stage inside
  begun := fun transition member => by
    rcases Multiset.mem_cons.mp member with own | inside
    · cases own
    · exact upheld.begun transition inside
  held := fun stage member mutex holds => by
    rcases Multiset.mem_cons.mp member with rfl | inside
    · cases holds
    · exact upheld.held stage inside mutex holds
  apart := by
    rw [Multiset.filterMap_cons_none _ _ rfl]
    exact upheld.apart
  queueing := by
    rw [Multiset.map_cons]
    exact upheld.queueing.join rfl
  custody := by
    rw [claimedBy_cons, show (StatusStage.outside (.free none)).carries = [] from rfl,
      Multiset.coe_nil, zero_add]
    exact upheld.custody
  attended := fun stage member session attends => by
    rcases Multiset.mem_cons.mp member with rfl | inside
    · cases attends
    · exact upheld.attended stage inside session attends

/-- What one thread submits, beside the others. -/
theorem queueing_cons (upheld : state.Upheld deployment permits (stage ::ₘ others) known) :
    state.world.Queueing deployment (stage.origin ::ₘ others.map StatusStage.origin) := by
  have queueing := upheld.queueing
  rwa [Multiset.map_cons] at queueing

/-- What one thread carries, beside the others. -/
theorem custody_cons (upheld : state.Upheld deployment permits (stage ::ₘ others) known) :
    state.world.Custody known (↑stage.carries + claimedBy others) := by
  have custody := upheld.custody
  rwa [claimedBy_cons] at custody

/-- Whose the tickets of a transition are: a session's that was registered, or a group's. -/
theorem owns (upheld : state.Upheld deployment permits stages known) {transition : Transition}
    (member : .inside transition ∈ stages) :
    (∃ session status, transition.step = .changeSessionStatus session status ∧ session ∈ known) ∨
    ∃ group requests, transition.step = .partyCommit group requests ∧
      ∀ ticket ∈ transition.step.jointTickets,
        Carried deployment state.world .party group ticket := by
  obtain ⟨step, taken, stage, stage', moved, set⟩ := transition
  obtain ⟨⟨mutex, body, joint⟩, issues, -⟩ := upheld.begun _ member
  have agrees := upheld.agrees _ member
  cases step with
  | changeSessionStatus session status =>
      exact Or.inl ⟨session, status, rfl,
        upheld.attended _ member session issues.changeSession.1⟩
  | partyCommit group requests =>
      obtain ⟨tickets, rfl, -, carried, -⟩ := issues.commit
      refine Or.inr ⟨group, _, rfl, fun ticket inside => ?_⟩
      have listed : ticket ∈ tickets := by
        rw [← (ticketsOf_matchmakingRequest tickets).filterMap]
        simpa [Section.jointTickets, List.reduceOption] using inside
      exact (carried ticket listed).mono agrees.precedes
  | _ => cases joint

end StatusState.Upheld

/-! ## Sections of other threads -/

/-- A session changes under its mutex only. -/
theorem World.sessionState_perform {step : Section} {session : MatchSession}
    (free : step.statusMutex ≠ some (.session session)) :
    (perform step world).sessionState session = world.sessionState session := by
  have other : ∀ {changing : MatchSession}, step.statusMutex = some (.session changing) →
      session ≠ changing := by
    rintro _ mutex rfl
    exact free mutex
  cases step with
  | forceSessionStatus changing | acceptPlayerSession changing =>
      exact Function.update_of_ne (other rfl) _ _
  | changeSessionStatus changing =>
      exact Function.update_of_ne (other rfl) _ _
  | nextIntegrationWorldNo =>
      simp only [perform]
      split_ifs <;> rfl
  | _ => rfl

/-- Whether a party ticket is queued changes with the mutex of its group only, apart from the
commits. -/
theorem Issues.queued_iff {step : Section} {stage stage' : Stage} {others : Multiset Stage}
    (issues : Issues deployment permits step world stage stage')
    (sound : world.Sound deployment permits)
    (queueing : world.Queueing deployment (stage ::ₘ others)) (whole : step.joint = none)
    {group : WorkerGroup} {ticket : MatchTicket}
    (carried : Carried deployment world .party group ticket)
    (free : step.statusMutex ≠ some (.group group.workerGroupKey)) :
    (perform step world).ticketStatus ticket = .queued ↔ world.ticketStatus ticket = .queued := by
  have keyed : ∀ {other : WorkerGroup},
      deployment.getWorkerGroup .party ticket.matchingGroupKey = some other →
      other.workerGroupKey = group.workerGroupKey := fun served =>
    (Deployment.getWorkerGroup_key served).trans
      (Deployment.getWorkerGroup_key carried.served).symm
  rcases issues.shift sound ticket with same | shift
  · rw [same]
  generalize result : (perform step world).ticketStatus ticket = later at shift ⊢
  cases shift with
  | queues made | soloCancels made | runs made =>
      exact (sound.party_ne_solo carried.made made rfl).elim
  | enqueues own => exact (free (congrArg (some ∘ StatusMutex.group) (keyed own.served))).elim
  | partyCancels _ served =>
      exact (free (congrArg (some ∘ StatusMutex.group) (keyed served))).elim
  | abandons made =>
      obtain ⟨rfl, -⟩ := sound.eq_of_serial made carried.made rfl
      have fresh := queueing.submitting.fresh ticket (.own rfl)
      exact iff_of_false (by decide) fresh
  | @commits _ _ _ requests _ _ _ queued =>
      cases requests with
      | nil => cases queued.symm.trans result
      | cons => cases whole
  | fails _ departed =>
      refine iff_of_false (by decide) fun queued => ?_
      rw [queued] at departed
      cases departed
  | changes => cases whole

namespace StatusState.Upheld

variable {state : StatusState} {stages others : Multiset StatusStage} {known : Set MatchSession}

/-- A thread that commits holds the mutex of the group. -/
theorem statusMutex_of_commit (upheld : state.Upheld deployment permits stages known)
    {transition : Transition} (member : .inside transition ∈ stages) {group : WorkerGroup}
    {requests : List (Option MatchmakingRequest)}
    (own : transition.step = .partyCommit group requests) :
    transition.step.statusMutex = some (.group group.workerGroupKey) := by
  obtain ⟨⟨mutex, body, joint⟩, -, -⟩ := upheld.begun transition member
  rw [own] at joint ⊢
  cases requests with
  | nil => cases joint
  | cons => rfl

/-- Nobody outside of transitions moves the tickets of one. -/
theorem agrees_whole {step : Section} {stage stage' : Stage}
    (upheld : state.Upheld deployment permits (.outside stage ::ₘ others) known)
    (whole : step.joint = none) (free : ∀ mutex ∈ step.statusMutex, state.held mutex = false)
    (issues : Issues deployment permits step state.world stage stage')
    (sound : state.world.Sound deployment permits) {transition : Transition}
    (member : .inside transition ∈ others) : transition.Agrees (perform step state.world) := by
  have inside : .inside transition ∈ StatusStage.outside stage ::ₘ others :=
    Multiset.mem_cons_of_mem member
  have agrees : transition.Agrees state.world := upheld.agrees _ inside
  have avoids : ∀ mutex, transition.step.statusMutex = some mutex →
      step.statusMutex ≠ some mutex := by
    intro mutex holds waits
    cases (free mutex waits).symm.trans (upheld.held _ inside mutex holds)
  have custody : state.world.Custody known (↑stage.carries + claimedBy others) :=
    upheld.custody_cons
  have queueing := upheld.queueing_cons
  have attended := upheld.attended _ (Multiset.mem_cons_self _ _)
  have precedes := precedes_perform step state.world
  have within := (upheld.begun transition inside).within
  rcases upheld.owns inside with
    ⟨session, status, own, registered⟩ | ⟨group, requests, own, carried⟩
  · have same : ∀ ticket ∈ transition.step.jointTickets,
        (perform step state.world).ticketStatus ticket = state.world.ticketStatus ticket := by
      intro ticket ours
      rw [own] at ours
      refine (custody.settled attended queueing issues sound registered ours).resolve_right ?_
      rintro ⟨-, _, rfl⟩
      cases whole
    refine ⟨agrees.precedes.trans precedes, fun ticket moved => ?_, fun ticket ours waits => ?_,
      fun other status' changing unset => ?_⟩
    · exact (same ticket (within ticket moved)).trans (agrees.moved ticket moved)
    · exact (agrees.waiting ticket ours waits).trans (.of_eq _ (same ticket ours))
    · rw [World.sessionState_perform (avoids _ (by rw [changing]; rfl))]
      exact agrees.session other status' changing unset
  · have claimed : transition.claims = transition.moved := by rw [Transition.claims, own]
    have named := upheld.statusMutex_of_commit inside own
    refine ⟨agrees.precedes.trans precedes, fun ticket moved => ?_, fun ticket ours waits => ?_,
      fun other status' changing _ => ?_⟩
    · rw [own]
      refine custody.foreign attended queueing issues sound (mem_claimedBy member ?_)
      change ticket ∈ transition.claims
      rwa [claimed]
    · have kept := issues.queued_iff sound queueing whole (carried ticket ours) (avoids _ named)
      have keeps := agrees.waiting ticket ours waits
      rw [own] at keeps ⊢
      exact kept.trans keeps
    · cases own.symm.trans changing

/-- A ticket that a transition comes to has the status it began with: it is engaged if it is a
session's, and queued if it is to be committed. -/
theorem comes (upheld : state.Upheld deployment permits stages known) {transition : Transition}
    (inside : .inside transition ∈ stages) {ticket : MatchTicket}
    (member : ticket ∈ transition.step.jointTickets) (unmoved : ticket ∉ transition.moved)
    (can : canChangeStatus (transition.taken.ticketStatus ticket)
      transition.step.jointTarget = true) :
    state.world.ticketStatus ticket = transition.taken.ticketStatus ticket ∧
      ((∃ session status, transition.step = .changeSessionStatus session status ∧
          session ∈ known ∧ ticket ∈ session.tickets ∧
          (state.world.ticketStatus ticket).engaged = true) ∨
        ∃ group requests, transition.step = .partyCommit group requests ∧
          Carried deployment state.world .party group ticket ∧
          state.world.ticketStatus ticket = .queued) := by
  have agrees : transition.Agrees state.world := upheld.agrees _ inside
  have same := (agrees.waiting ticket member unmoved).eq can
  refine ⟨same, ?_⟩
  rcases upheld.owns inside with
    ⟨session, status, own, registered⟩ | ⟨group, requests, own, carried⟩
  · rw [own] at member
    exact Or.inl ⟨session, status, own, registered, member,
      upheld.custody.engaged session registered ticket member⟩
  · refine Or.inr ⟨group, requests, own, carried ticket member, same.trans ?_⟩
    rw [own] at can
    change canChangeStatus _ .searching = true at can
    revert can
    cases transition.taken.ticketStatus ticket <;> decide

/-- What a transition does to a ticket it comes to. -/
theorem retouches_move (upheld : state.Upheld deployment permits stages known)
    {transition : Transition} (inside : .inside transition ∈ stages) {ticket : MatchTicket}
    (member : ticket ∈ transition.step.jointTickets) (unmoved : ticket ∉ transition.moved)
    (can : canChangeStatus (transition.taken.ticketStatus ticket)
      transition.step.jointTarget = true) :
    state.world.Retouches (state.world.withTicketStatus
      (Function.update state.world.ticketStatus ticket transition.step.jointTarget)) := by
  obtain ⟨same, whose⟩ := upheld.comes inside member unmoved can
  refine World.retouches_update (fun none => ?_) (same ▸ can)
  rcases whose with ⟨_, _, -, -, -, engaged⟩ | ⟨_, _, -, -, queued⟩
  · rw [none] at engaged
    cases engaged
  · cases none.symm.trans queued

/-- No two threads hold one mutex. -/
theorem other_mutex {stage other : StatusStage}
    (upheld : state.Upheld deployment permits (stage ::ₘ others) known) {mutex : StatusMutex}
    (mine : stage.mutex = some mutex) (inside : other ∈ others) : other.mutex ≠ some mutex := by
  intro theirs
  have apart := upheld.apart
  rw [Multiset.filterMap_cons_some _ _ _ mine] at apart
  exact (Multiset.nodup_cons.mp apart).1 ((Multiset.mem_filterMap _ _).mpr ⟨_, inside, theirs⟩)

/-- No transition moves the tickets of another one. -/
theorem agrees_move {acting transition : Transition}
    (upheld : state.Upheld deployment permits (.inside acting ::ₘ others) known)
    {ticket : MatchTicket} (member : ticket ∈ acting.step.jointTickets)
    (unmoved : ticket ∉ acting.moved)
    (can : canChangeStatus (acting.taken.ticketStatus ticket) acting.step.jointTarget = true)
    (inside : .inside transition ∈ others) :
    transition.Agrees (state.world.withTicketStatus
      (Function.update state.world.ticketStatus ticket acting.step.jointTarget)) := by
  have acts : .inside acting ∈ StatusStage.inside acting ::ₘ others := Multiset.mem_cons_self _ _
  have also : .inside transition ∈ StatusStage.inside acting ::ₘ others :=
    Multiset.mem_cons_of_mem inside
  have agrees : transition.Agrees state.world := upheld.agrees _ also
  have retouches := upheld.retouches_move acts member unmoved can
  have within := (upheld.begun transition also).within
  have different : ∀ mutex, acting.step.statusMutex = some mutex →
      transition.step.statusMutex ≠ some mutex := fun _ mine => upheld.other_mutex mine inside
  obtain ⟨-, whose⟩ := upheld.comes acts member unmoved can
  suffices kept : ∀ other ∈ transition.step.jointTickets, other = ticket →
      ticket ∉ transition.moved ∧ transition.step.Keeps (state.world.ticketStatus ticket)
        acting.step.jointTarget by
    have others : ∀ other, other ≠ ticket → (state.world.withTicketStatus (Function.update
        state.world.ticketStatus ticket acting.step.jointTarget)).ticketStatus other =
          state.world.ticketStatus other := fun other away => Function.update_of_ne away _ _
    refine ⟨agrees.precedes.trans retouches.precedes, fun other moved => ?_,
      fun other ours waits => (agrees.waiting other ours waits).trans ?_, agrees.session⟩
    · refine (others other fun same => ?_).trans (agrees.moved other moved)
      exact (kept other (within other moved) same).1 (same ▸ moved)
    · by_cases own : other = ticket
      · have keeps := (kept other ours own).2
        subst own
        rwa [World.withTicketStatus_ticketStatus, Function.update_self]
      · exact .of_eq _ (others other own)
  rintro _ ours rfl
  rcases whose with ⟨session, status, own, registered, listed, engaged⟩ |
      ⟨group, requests, own, carried, queued⟩ <;>
    rcases upheld.owns also with ⟨rival, status', theirs, known'⟩ | ⟨rival, requests', theirs, wait⟩
  · rw [theirs] at ours
    obtain rfl := upheld.custody.apart session registered rival known' _ listed ours
    exact (different (.session session) (by rw [own]; rfl) (by rw [theirs]; rfl)).elim
  · refine ⟨fun moved => ?_, ?_⟩
    · have claimed : transition.claims = transition.moved := by rw [Transition.claims, theirs]
      refine upheld.custody.outside session registered _ listed (mem_claimedBy also ?_)
      change _ ∈ transition.claims
      rwa [claimed]
    · have later := retouches.precedes.engaged engaged
      rw [World.withTicketStatus_ticketStatus, Function.update_self] at later
      rw [theirs]
      refine iff_of_false (fun same => ?_) fun same => ?_
      · rw [same] at later
        cases later
      · rw [same] at engaged
        cases engaged
  · rw [theirs] at ours
    have engaged := upheld.custody.engaged rival known' _ ours
    rw [queued] at engaged
    cases engaged
  · have same : rival.workerGroupKey = group.workerGroupKey :=
      (Deployment.getWorkerGroup_key (wait _ ours).served).trans
        (Deployment.getWorkerGroup_key carried.served).symm
    refine (different _ (upheld.statusMutex_of_commit acts own) ?_).elim
    rw [upheld.statusMutex_of_commit also theirs, same]

section Perform

variable {step : StatusSection} {stage stage' : StatusStage}

/-- What a thread comes to from a stage to another, where the others keep theirs. -/
theorem next {after : StatusState} {known' : Set MatchSession}
    (upheld : state.Upheld deployment permits (stage ::ₘ others) known)
    (agrees : stage'.Agrees after.world)
    (foreign : ∀ transition, .inside transition ∈ others → transition.Agrees after.world)
    (begun : ∀ transition, stage' = .inside transition → transition.Begun deployment permits)
    (held : ∀ other ∈ stage' ::ₘ others, ∀ mutex ∈ other.mutex, after.held mutex = true)
    (apart : ((stage' ::ₘ others).filterMap StatusStage.mutex).Nodup)
    (queueing : after.world.Queueing deployment
      (stage'.origin ::ₘ others.map StatusStage.origin))
    (custody : after.world.Custody known' (↑stage'.carries + claimedBy others))
    (wider : known ⊆ known')
    (attended : ∀ session, stage'.origin.attends = some session → session ∈ known') :
    after.Upheld deployment permits (stage' ::ₘ others) known' where
  agrees := fun other member => by
    rcases Multiset.mem_cons.mp member with rfl | inside
    · exact agrees
    cases other with
    | outside => trivial
    | inside transition => exact foreign transition inside
    | astray => exact upheld.agrees _ (Multiset.mem_cons_of_mem inside)
  begun := fun transition member => by
    rcases Multiset.mem_cons.mp member with own | inside
    · exact begun transition own.symm
    · exact upheld.begun transition (Multiset.mem_cons_of_mem inside)
  held := held
  apart := apart
  queueing := by
    rw [Multiset.map_cons]
    exact queueing
  custody := by
    rw [claimedBy_cons]
    exact custody
  attended := fun other member session attends => by
    rcases Multiset.mem_cons.mp member with rfl | inside
    · exact attended session attends
    · exact wider (upheld.attended other (Multiset.mem_cons_of_mem inside) session attends)

/-- A section inside a transition, which keeps its mutex. -/
theorem retouch {transition transition' : Transition} {later : World}
    (upheld : state.Upheld deployment permits (.inside transition ::ₘ others) known)
    (same : transition'.step = transition.step ∧ transition'.stage = transition.stage)
    (retouches : state.world.Retouches later) (agrees : transition'.Agrees later)
    (foreign : ∀ other, .inside other ∈ others → other.Agrees later)
    (begun : transition'.Begun deployment permits)
    (kept : ∀ ticket, (state.world.Queued .solo ticket ∨ ∃ queue, UnderSubmission
        (transition.stage ::ₘ others.map StatusStage.origin) queue ticket) →
      later.ticketStatus ticket = state.world.ticketStatus ticket)
    (custody : later.Custody known (↑transition'.claims + claimedBy others)) :
    ({ state with world := later } : StatusState).Upheld deployment permits
      (.inside transition' ::ₘ others) known := by
  have mutex : StatusStage.mutex (.inside transition') = StatusStage.mutex (.inside transition) :=
    congrArg Section.statusMutex same.1
  have queueing := upheld.queueing_cons
  have apart := upheld.apart
  refine upheld.next agrees foreign (fun other own => ?_) (fun other member holder holds => ?_) ?_
    ?_ custody subset_rfl fun session attends => ?_
  · cases own
    exact begun
  · rcases Multiset.mem_cons.mp member with rfl | inside
    · exact upheld.held _ (Multiset.mem_cons_self _ _) holder (mutex ▸ holds)
    · exact upheld.held _ (Multiset.mem_cons_of_mem inside) holder holds
  · cases found : StatusStage.mutex (.inside transition) with
    | none =>
        rw [Multiset.filterMap_cons_none _ _ found] at apart
        rwa [Multiset.filterMap_cons_none _ _ (mutex.trans found)]
    | some holder =>
        rw [Multiset.filterMap_cons_some _ _ _ found] at apart
        rwa [Multiset.filterMap_cons_some _ _ _ (mutex.trans found)]
  · rw [show StatusStage.origin (.inside transition') = transition.stage from same.2]
    exact retouches.queueing queueing kept
  · exact upheld.attended _ (Multiset.mem_cons_self _ _) session
      ((congrArg Stage.attends same.2).symm.trans attends)

/-- A thread performs a section outside of transitions. -/
theorem perform_whole {step : Section} {stage stage' : Stage}
    (upheld : state.Upheld deployment permits (.outside stage ::ₘ others) known)
    (whole : step.joint = none) (free : ∀ mutex ∈ step.statusMutex, state.held mutex = false)
    (issues : Issues deployment permits step state.world stage stage')
    (sound : state.world.Sound deployment permits) :
    ({ state with world := perform step state.world } : StatusState).Upheld deployment permits
      (.outside stage' ::ₘ others) (known ∪ state.world.registers step) := by
  have queueing := upheld.queueing_cons
  have custody : state.world.Custody known (↑stage.carries + claimedBy others) :=
    upheld.custody_cons
  have attended := upheld.attended _ (Multiset.mem_cons_self _ _)
  have apart := upheld.apart
  rw [Multiset.filterMap_cons_none _ _ rfl] at apart
  refine upheld.next trivial (fun _ => upheld.agrees_whole whole free issues sound)
    (fun _ own => by cases own) (fun other member mutex holds => ?_) ?_
    (queueing.perform issues sound) (custody.perform attended queueing issues sound)
    Set.subset_union_left
    fun session attends => ?_
  · rcases Multiset.mem_cons.mp member with rfl | inside
    · cases holds
    · exact upheld.held other (Multiset.mem_cons_of_mem inside) mutex holds
  · rwa [Multiset.filterMap_cons_none _ _ rfl]
  · rcases issues.attends_cases attends with earlier | ⟨id, found⟩ | registers
    · exact Or.inl (attended session earlier)
    · exact Or.inl (custody.registered id session found)
    · exact Or.inr registers

/-- A thread takes the mutex of a transition. -/
theorem perform_lock {step : Section} {stage stage' : Stage} {mutex : StatusMutex}
    {body : StatusOperation Bool}
    (upheld : state.Upheld deployment permits (.outside stage ::ₘ others) known)
    (joint : step.joint = some (mutex, body)) (free : state.held mutex = false)
    (issues : Issues deployment permits step state.world stage stage') :
    ({ state with held := Function.update state.held mutex true } : StatusState).Upheld deployment
      permits (.inside { step, taken := state.world, stage, stage' } ::ₘ others) known := by
  have begun : Transition.Begun deployment permits { step, taken := state.world, stage, stage' } :=
    ⟨⟨mutex, body, joint⟩, issues, nofun⟩
  have takes := Section.statusMutex_of_joint joint
  have queueing := upheld.queueing_cons
  have custody := upheld.custody_cons
  rw [show (StatusStage.outside stage).carries = [] from begun.around.1] at custody
  have apart := upheld.apart
  rw [Multiset.filterMap_cons_none _ _ rfl] at apart
  refine upheld.next ?_ (fun other inside => upheld.agrees _ (Multiset.mem_cons_of_mem inside))
    (fun other own => ?_) (fun other member holder holds => ?_) ?_ queueing ?_ subset_rfl
    (upheld.attended (.outside stage) (Multiset.mem_cons_self _ _))
  · exact ⟨World.Precedes.refl _, nofun, fun _ _ _ => .of_eq _ rfl, fun _ _ _ _ => rfl⟩
  · cases own
    exact begun
  · by_cases same : holder = mutex
    · subst same
      exact Function.update_self ..
    rcases Multiset.mem_cons.mp member with rfl | inside
    · exact (same (Option.some.inj (holds.symm.trans takes))).elim
    · exact (Function.update_of_ne same _ _).trans
        (upheld.held other (Multiset.mem_cons_of_mem inside) holder holds)
  · rw [Multiset.filterMap_cons_some StatusStage.mutex
      (.inside { step, taken := state.world, stage, stage' }) _ takes]
    refine Multiset.nodup_cons.mpr ⟨fun taken => ?_, apart⟩
    obtain ⟨other, inside, holds⟩ := (Multiset.mem_filterMap _ _).mp taken
    cases free.symm.trans (upheld.held other (Multiset.mem_cons_of_mem inside) mutex holds)
  · have nothing : Transition.claims { step, taken := state.world, stage, stage' } = [] := by
      rw [Transition.claims]
      split <;> rfl
    rw [show StatusStage.carries (.inside _) = _ from nothing]
    exact custody

/-- A thread gives the mutex of a transition back. -/
theorem perform_unlock {transition : Transition} {mutex : StatusMutex}
    {body : StatusOperation Bool}
    (upheld : state.Upheld deployment permits (.inside transition ::ₘ others) known)
    (joint : transition.step.joint = some (mutex, body))
    (complete : transition.moved = transition.result) :
    ({ state with held := Function.update state.held mutex false } : StatusState).Upheld deployment
      permits (.outside transition.stage' ::ₘ others) known := by
  have begun := upheld.begun transition (Multiset.mem_cons_self _ _)
  obtain ⟨-, idle, idle', attends, claims⟩ := begun.around
  have takes := Section.statusMutex_of_joint joint
  have queueing := upheld.queueing_cons
  have custody : state.world.Custody known (↑transition.claims + claimedBy others) :=
    upheld.custody_cons
  rw [← Multiset.coe_eq_coe.mpr (claims complete)] at custody
  have apart := upheld.apart
  rw [Multiset.filterMap_cons_some StatusStage.mutex (.inside transition) _ takes] at apart
  refine upheld.next trivial
    (fun other inside => upheld.agrees _ (Multiset.mem_cons_of_mem inside))
    (fun _ own => by cases own) (fun other member holder holds => ?_) ?_
    (queueing.leave.join idle') custody subset_rfl fun session attended => ?_
  · rcases Multiset.mem_cons.mp member with rfl | inside
    · cases holds
    · have different : holder ≠ mutex := by
        rintro rfl
        exact upheld.other_mutex takes inside holds
      exact (Function.update_of_ne different _ _).trans
        (upheld.held other (Multiset.mem_cons_of_mem inside) holder holds)
  · rw [Multiset.filterMap_cons_none _ _ rfl]
    exact (Multiset.nodup_cons.mp apart).2
  · exact upheld.attended _ (Multiset.mem_cons_self _ _) session (attends session attended)

/-- A transition comes to its next ticket. -/
theorem perform_move {transition : Transition} {ticket : MatchTicket}
    (upheld : state.Upheld deployment permits (.inside transition ::ₘ others) known)
    (sound : state.world.Sound deployment permits)
    (member : ticket ∈ transition.step.jointTickets) (unmoved : ticket ∉ transition.moved)
    (can : canChangeStatus (transition.taken.ticketStatus ticket)
      transition.step.jointTarget = true) :
    ({ state with
      world := state.world.withTicketStatus (Function.update state.world.ticketStatus ticket
        transition.step.jointTarget) } : StatusState).Upheld deployment permits
      (.inside { transition with moved := transition.moved ++ [ticket] } ::ₘ others) known := by
  have inside : .inside transition ∈ StatusStage.inside transition ::ₘ others :=
    Multiset.mem_cons_self _ _
  have agrees : transition.Agrees state.world := upheld.agrees _ inside
  have begun := upheld.begun transition inside
  have retouches := upheld.retouches_move inside member unmoved can
  have elsewhere : ∀ other, other ≠ ticket → (state.world.withTicketStatus (Function.update
      state.world.ticketStatus ticket transition.step.jointTarget)).ticketStatus other =
        state.world.ticketStatus other := fun other away => Function.update_of_ne away _ _
  have here : (state.world.withTicketStatus (Function.update state.world.ticketStatus ticket
      transition.step.jointTarget)).ticketStatus ticket = transition.step.jointTarget :=
    Function.update_self ..
  obtain ⟨-, whose⟩ := upheld.comes inside member unmoved can
  have queueing := upheld.queueing_cons
  have custody : state.world.Custody known (↑transition.claims + claimedBy others) :=
    upheld.custody_cons
  refine upheld.retouch ⟨rfl, rfl⟩ retouches ?_
    (fun other theirs => upheld.agrees_move member unmoved can theirs)
    ⟨begun.joint, begun.issues, fun other moved => ?_⟩ (fun other waits => elsewhere other ?_) ?_
  · refine ⟨agrees.precedes.trans retouches.precedes, fun other moved => ?_,
      fun other ours waits => ?_, agrees.session⟩
    · rcases List.mem_append.mp moved with earlier | last
      · refine (elsewhere other ?_).trans (agrees.moved other earlier)
        exact fun same => unmoved (same ▸ earlier)
      · rw [List.mem_singleton.mp last]
        exact here
    · obtain ⟨earlier, away⟩ := not_or.mp (mt List.mem_append.mpr waits)
      have same := elsewhere other (mt List.mem_singleton.mpr away)
      exact (agrees.waiting other ours earlier).trans (.of_eq _ same)
  · rcases List.mem_append.mp moved with earlier | last
    · exact begun.within other earlier
    · exact List.mem_singleton.mp last ▸ member
  · rintro rfl
    rcases whose with ⟨_, _, -, -, -, engaged⟩ | ⟨_, _, -, carried, queued⟩ <;>
      rcases waits with ⟨made, waiting⟩ | ⟨queue, submitted⟩
    · rw [waiting] at engaged
      cases engaged
    · have idle := queueing.idle queue other submitted
      rw [engaged] at idle
      cases idle
    · exact sound.party_ne_solo carried.made made rfl
    · obtain ⟨rfl, -⟩ := sound.eq_of_serial (queueing.submitting.made queue other submitted)
        carried.made rfl
      exact queueing.submitting.fresh other submitted queued
  · rcases whose with ⟨session, status, own, known', listed, -⟩ | ⟨group, requests, own, -, queued⟩
    · have claims : Transition.claims { transition with moved := transition.moved ++ [ticket] } =
          transition.claims := by simp only [Transition.claims, own]
      rw [claims]
      refine retouches.custody custody fun other carried => elsewhere other ?_
      rintro rfl
      exact custody.outside session known' other listed carried
    · have claims : (↑(Transition.claims { transition with
          moved := transition.moved ++ [ticket] }) : Multiset MatchTicket) =
            ticket ::ₘ ↑transition.claims := by
        simp only [Transition.claims, own]
        exact Multiset.coe_eq_coe.mpr (List.perm_append_singleton ticket transition.moved)
      rw [claims, Multiset.cons_add]
      refine retouches.custody_cons custody queued (here.trans ?_) elsewhere
      rw [own, Section.jointTarget]

/-- A transition moves no ticket. -/
theorem perform_still {transition : Transition} {set : Bool} {later : World}
    (upheld : state.Upheld deployment permits (.inside transition ::ₘ others) known)
    (retouches : state.world.Retouches later)
    (statuses : later.ticketStatus = state.world.ticketStatus)
    (own : ∀ session status, transition.step = .changeSessionStatus session status →
      set = false → (later.sessionState session).status =
        (transition.taken.sessionState session).status)
    (foreign : ∀ session, transition.step.statusMutex ≠ some (.session session) →
      later.sessionState session = state.world.sessionState session) :
    ({ state with world := later } : StatusState).Upheld deployment permits
      (.inside { transition with set } ::ₘ others) known := by
  have inside : .inside transition ∈ StatusStage.inside transition ::ₘ others :=
    Multiset.mem_cons_self _ _
  have agrees : transition.Agrees state.world := upheld.agrees _ inside
  have begun := upheld.begun transition inside
  have custody := upheld.custody_cons
  refine upheld.retouch ⟨rfl, rfl⟩ retouches ⟨agrees.precedes.trans retouches.precedes,
      fun ticket moved => ?_, fun ticket ours waits => ?_, own⟩ (fun other theirs => ?_)
    ⟨begun.joint, begun.issues, begun.within⟩ (fun ticket _ => by rw [statuses])
    (retouches.custody custody fun ticket _ => by rw [statuses])
  · rw [statuses]
    exact agrees.moved ticket moved
  · rw [statuses]
    exact agrees.waiting ticket ours waits
  · have holds : other.Agrees state.world := upheld.agrees _ (Multiset.mem_cons_of_mem theirs)
    refine ⟨holds.precedes.trans retouches.precedes, fun ticket moved => ?_,
      fun ticket ours waits => ?_, fun session status changing unset => ?_⟩
    · rw [statuses]
      exact holds.moved ticket moved
    · rw [statuses]
      exact holds.waiting ticket ours waits
    · have named : StatusStage.mutex (.inside other) = some (.session session) := by
        rw [StatusStage.mutex, changing]
        rfl
      rw [foreign session fun mine => upheld.other_mutex mine theirs named]
      exact holds.session session status changing unset

end Perform

/-- **No transition goes astray.** -/
theorem perform {step : StatusSection} {stage stage' : StatusStage}
    (upheld : state.Upheld deployment permits (stage ::ₘ others) known)
    (issues : StatusIssues deployment permits step state stage stage') (free : step.Free state)
    (sound : state.world.Sound deployment permits) :
    state.world.Precedes (performStatus step state).world ∧
      (performStatus step state).world.Sound deployment permits ∧
      ∃ known',
        (performStatus step state).Upheld deployment permits (stage' ::ₘ others) known' := by
  have inside := Multiset.mem_cons_self stage others
  cases issues with
  | whole whole issues =>
      exact ⟨precedes_perform _ _, issues.sound sound, _,
        upheld.perform_whole whole free issues sound⟩
  | lock joint issues =>
      exact ⟨World.Precedes.refl _, sound, _,
        upheld.perform_lock joint (free _ rfl) issues⟩
  | read => exact ⟨World.Precedes.refl _, sound, _, upheld⟩
  | @move _ transition ticket member unmoved can =>
      have retouches := upheld.retouches_move inside member unmoved can
      obtain ⟨current, -⟩ := upheld.comes inside member unmoved can
      have moves : performStatus (.changeStatusIfCurrent ticket
          (transition.taken.ticketStatus ticket) transition.step.jointTarget) state =
          { state with
            world := state.world.withTicketStatus (Function.update state.world.ticketStatus ticket
              transition.step.jointTarget) } := by
        simp [performStatus, MatchTicket.changeStatusIfCurrent, current, can]
      rw [moves]
      exact ⟨retouches.precedes, retouches.sound sound, _,
        upheld.perform_move sound member unmoved can⟩
  | @set _ transition session status own =>
      have retouches := state.world.retouches_withSessionState session
        { state.world.sessionState session with status := status }
      refine ⟨retouches.precedes, retouches.sound sound, _,
        upheld.perform_still retouches rfl (fun _ _ _ unset => by cases unset)
          fun other free => ?_⟩
      refine Function.update_of_ne (fun same => free ?_) _ _
      rw [own, same]
      rfl
  | @erase _ transition group index ticket =>
      have agrees : transition.Agrees state.world := upheld.agrees _ inside
      have retouches := state.world.retouches_erase group index ticket
      exact ⟨retouches.precedes, retouches.sound sound, _,
        upheld.perform_still retouches rfl agrees.session fun _ _ => rfl⟩
  | unlock joint complete =>
      exact ⟨World.Precedes.refl _, sound, _, upheld.perform_unlock joint complete⟩
  | stray lost => exact (lost (upheld.agrees stage inside)).elim

end StatusState.Upheld

end MatchmakingMvp
