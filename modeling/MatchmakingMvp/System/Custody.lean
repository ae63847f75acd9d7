import MatchmakingMvp.System.Shifts
import MatchmakingMvp.Worker.HoldsOnly

/-! # Claimed tickets are in one place

Whatever ids the callers choose and however the threads interleave, a solo worker holds none
but queued tickets that were delivered to it (`MatchmakingMvp.World.Queueing`). A claimed ticket
is in the hands of one thread or in one session that was registered
(`MatchmakingMvp.World.Custody`), so no thread changes a ticket that another one has claimed.
-/

namespace MatchmakingMvp

open Foundation

variable {deployment : Deployment} {permits : MatchTicketRequest → Prop} {step : Section}
  {world before after : World} {stage stage' : Stage} {others : Multiset Stage}

/-! ## Delivered tickets -/

/-- A queued solo ticket that its thread handed to the worker it is assigned to. -/
structure World.Delivered (deployment : Deployment) (world : World) (stages : Multiset Stage)
    (key : MatchmakingGroupKey) (index : Int) (ticket : MatchTicket) : Prop where
  queued : world.Queued .solo ticket
  arrived : ¬ UnderSubmission stages .solo ticket
  keyed : ticket.matchingGroupKey = key
  assigned : ∀ group, deployment.getWorkerGroup .solo key = some group →
    index = getWorkerIndex group.workerCount ticket.matchTicketId

/-- Solo workers hold none but tickets delivered to them, and no ticket that a thread still
submits is claimed. -/
structure World.Queueing (deployment : Deployment) (world : World) (stages : Multiset Stage) :
    Prop where
  submitting : world.Submitting stages
  idle : ∀ queue ticket, UnderSubmission stages queue ticket →
    (world.ticketStatus ticket).engaged = false
  ready : ∀ key index, (world.soloWorkers key index).HoldsOnly
    (world.Delivered deployment stages key index)

theorem World.Queueing.initial : ({} : World).Queueing deployment 0 where
  submitting := .initial
  idle := fun _ _ ⟨stage, member, _⟩ => (Multiset.notMem_zero stage member).elim
  ready := fun _ _ => .default

theorem World.Queueing.join (queueing : world.Queueing deployment others)
    (free : stage.submits = none) : world.Queueing deployment (stage ::ₘ others) where
  submitting := queueing.submitting.join free
  idle := fun queue ticket inside => queueing.idle queue ticket (inside.of_idle free)
  ready := fun key index => (queueing.ready key index).mono fun _ delivered =>
    ⟨delivered.queued, fun inside => delivered.arrived (inside.of_idle free), delivered.keyed,
      delivered.assigned⟩

theorem World.Queueing.leave (queueing : world.Queueing deployment (stage ::ₘ others)) :
    world.Queueing deployment others where
  submitting := queueing.submitting.leave
  idle := fun queue ticket inside => queueing.idle queue ticket inside.cons
  ready := fun key index => (queueing.ready key index).mono fun _ delivered =>
    ⟨delivered.queued, fun inside => delivered.arrived inside.cons, delivered.keyed,
      delivered.assigned⟩

section Queueing

/-- A run of a solo worker finds too few tickets, or claims distinct ones that were delivered. -/
theorem World.Queueing.run (queueing : world.Queueing deployment others) (group : WorkerGroup)
    (index : Int) :
    ((world.soloRun group index).1 = .incomplete ∧
      (world.soloRun group index).2.2 = world.ticketStatus ∧
      (world.soloRun group index).2.1.HoldsOnly
        (world.Delivered deployment others group.workerGroupKey index)) ∨
    ∃ tickets, (world.soloRun group index).1 = .matched tickets ∧ tickets.Nodup ∧
      (∀ ticket ∈ tickets, world.Delivered deployment others group.workerGroupKey index ticket) ∧
      (world.soloRun group index).2.2 = moveAll tickets .searching world.ticketStatus ∧
      (world.soloRun group index).2.1.HoldsOnly fun ticket =>
        world.Delivered deployment others group.workerGroupKey index ticket ∧ ticket ∉ tickets :=
  (queueing.ready group.workerGroupKey index).doWorkerAsyncJob group.matchmakingRule
    fun _ delivered => delivered.queued.2

theorem World.Queueing.delivered_of_soloRun (queueing : world.Queueing deployment others)
    {group : WorkerGroup} {index : Int} {ticket : MatchTicket}
    (moved : (world.soloRun group index).2.2 ticket ≠ world.ticketStatus ticket) :
    world.Delivered deployment others group.workerGroupKey index ticket := by
  rcases queueing.run group index with ⟨-, same, -⟩ | ⟨tickets, -, -, delivered, statuses, -⟩
  · exact (moved (congrFun same ticket)).elim
  · by_contra outside
    refine moved ((congrFun statuses ticket).trans (moveAll_of_not_mem fun inside => ?_))
    exact outside (delivered ticket inside)

/-- A ticket that was made and is not under submission stays so. -/
theorem Issues.not_submitted (issues : Issues deployment permits step world stage stage')
    (sound : world.Sound deployment permits) {queue : QueueKind} {ticket : MatchTicket}
    (made : world.Made queue ticket) (arrived : ¬ UnderSubmission (stage ::ₘ others) queue ticket) :
    ¬ UnderSubmission (stage' ::ₘ others) queue ticket := by
  intro submitted
  rcases submitted.cons_cases with own | theirs
  · rcases issues.submits_after sound own with same | ⟨unmade, -⟩
    · exact arrived (.own same)
    · exact unmade queue made
  · exact arrived theirs.cons

/-- No ticket that a thread submits is claimed. -/
theorem Issues.idle (issues : Issues deployment permits step world stage stage')
    (sound : world.Sound deployment permits)
    (queueing : world.Queueing deployment (stage ::ₘ others)) {queue : QueueKind}
    {ticket : MatchTicket} (submitted : UnderSubmission (stage' ::ₘ others) queue ticket) :
    ((perform step world).ticketStatus ticket).engaged = false := by
  have earlier : UnderSubmission (stage ::ₘ others) queue ticket ∨
      (perform step world).ticketStatus ticket = .none := by
    rcases submitted.cons_cases with own | theirs
    · exact (issues.submits_after sound own).imp .own fun created => created.2.2
    · exact Or.inl theirs.cons
  rcases earlier with inside | unqueued
  swap
  · rw [unqueued]
    rfl
  have idle := queueing.idle queue ticket inside
  have made := queueing.submitting.made queue ticket inside
  have steps := perform_stepsAtMostOnce step world ticket
  rcases issues.shift sound ticket with same | shift
  · rw [same]
    exact idle
  rcases steps with same | can
  · rw [same]
    exact idle
  generalize result : (perform step world).ticketStatus ticket = later at shift can ⊢
  cases shift with
  | queues | enqueues | soloCancels | partyCancels => rfl
  | @abandons _ owner _ base own =>
      obtain ⟨rfl, -⟩ := sound.eq_of_serial own made rfl
      rcases submitted.cons_cases with none | theirs
      · cases none
      · exact (queueing.submitting.foreign theirs rfl).elim
  | @runs _ _ group index _ _ solo queued =>
      have moved : (world.soloRun group index).2.2 ticket ≠ world.ticketStatus ticket := by
        rw [show (world.soloRun group index).2.2 ticket = .searching from result, queued]
        decide
      obtain ⟨rfl, -⟩ := sound.eq_of_serial solo made rfl
      exact ((queueing.delivered_of_soloRun moved).arrived inside).elim
  | commits carried queued =>
      obtain ⟨rfl, -⟩ := sound.eq_of_serial carried.made made rfl
      exact (queueing.submitting.fresh ticket inside queued).elim
  | fails _ departed =>
      revert departed idle can
      cases world.ticketStatus ticket <;> decide
  | changes attends member engaged =>
      rw [engaged] at idle
      cases idle

/-- One worker changes. -/
theorem World.holdsOnly_withSoloWorker {held : MatchmakingGroupKey → Int → MatchTicket → Prop}
    {group : WorkerGroup} {index : Int} {worker : SoloMatchmakingWorker}
    (elsewhere : ∀ key other, ¬ (key = group.workerGroupKey ∧ other = index) →
      (world.soloWorkers key other).HoldsOnly (held key other))
    (mine : worker.HoldsOnly (held group.workerGroupKey index)) (key : MatchmakingGroupKey)
    (other : Int) :
    ((world.withSoloWorker group index worker).soloWorkers key other).HoldsOnly
      (held key other) := by
  rw [World.withSoloWorker_soloWorkers]
  by_cases sameKey : key = group.workerGroupKey
  · subst sameKey
    rw [Function.update_self]
    by_cases same : other = index
    · subst same
      rw [Function.update_self]
      exact mine
    · rw [Function.update_of_ne same]
      exact elsewhere _ _ fun both => same both.2
  · rw [Function.update_of_ne sameKey]
    exact elsewhere _ _ fun both => sameKey both.1

/-- What a solo worker makes of a ticket that is handed to it. -/
theorem World.soloEnqueue_cases (world : World) (group : WorkerGroup) (index : Int)
    (ticket : MatchTicket) :
    (world.soloEnqueue group index ticket.matchmakingRequest ticket =
        (false, (world.soloWorker group index).erase ticket)) ∨
      world.ticketStatus ticket = .queued ∧
        world.soloEnqueue group index ticket.matchmakingRequest ticket =
          (true, { world.soloWorker group index with
            waitingQueue := (world.soloWorker group index).waitingQueue.insertOrAssign
              ticket.matchTicketId ticket.matchmakingRequest }) := by
  by_cases queued : world.ticketStatus ticket = .queued
  · rw [World.soloEnqueue_of_queued group index queued]
    split_ifs
    · exact Or.inl rfl
    · exact Or.inr ⟨queued, rfl⟩
  · refine Or.inl ?_
    simp [World.soloEnqueue, SoloMatchmakingWorker.enqueueJobRequest, queued]

section Ready

variable (issues : Issues deployment permits step world stage stage')
  (sound : world.Sound deployment permits)

include issues sound

theorem Issues.delivered {key : MatchmakingGroupKey} {index : Int} {ticket : MatchTicket}
    (delivered : world.Delivered deployment (stage ::ₘ others) key index ticket)
    (queued : (perform step world).ticketStatus ticket = .queued) :
    (perform step world).Delivered deployment (stage' ::ₘ others) key index ticket where
  queued := ⟨perform_made delivered.queued.1, queued⟩
  arrived := issues.not_submitted sound delivered.queued.1 delivered.arrived
  keyed := delivered.keyed
  assigned := delivered.assigned

/-- The sections that take tickets out of solo workers. -/
def Section.takes : Section → Bool
  | .soloCancel _ _ _ | .soloRun _ _ => true
  | _ => false

/-- Only a cancel and a run of its worker take a delivered ticket away. -/
theorem Issues.taken_cases {key : MatchmakingGroupKey} {index : Int} {ticket : MatchTicket}
    (delivered : world.Delivered deployment (stage ::ₘ others) key index ticket) :
    (perform step world).Delivered deployment (stage' ::ₘ others) key index ticket ∨
      (∃ group base, step = .soloCancel group base ticket) ∨
        ∃ group base, step = .soloRun group base ∧
          (perform step world).ticketStatus ticket ≠ world.ticketStatus ticket := by
  obtain ⟨made, queued⟩ := delivered.queued
  rcases issues.shift sound ticket with same | shift
  · exact Or.inl (issues.delivered sound delivered (same.trans queued))
  generalize result : (perform step world).ticketStatus ticket = later at shift
  cases shift with
  | queues => exact (delivered.arrived (.own rfl)).elim
  | abandons own =>
      obtain ⟨rfl, -⟩ := sound.eq_of_serial own made rfl
      exact (delivered.arrived (.own rfl)).elim
  | enqueues carried | commits carried => exact (sound.party_ne_solo carried.made made rfl).elim
  | partyCancels own => exact (sound.party_ne_solo own made rfl).elim
  | soloCancels => exact Or.inr (Or.inl ⟨_, _, rfl⟩)
  | runs =>
      refine Or.inr (Or.inr ⟨_, _, rfl, ?_⟩)
      rw [queued]
      decide
  | fails _ departed =>
      rw [queued] at departed
      cases departed
  | changes _ _ engaged =>
      rw [queued] at engaged
      cases engaged

/-- **Every section keeps the workers to delivered tickets.** -/
theorem Issues.ready (queueing : world.Queueing deployment (stage ::ₘ others))
    (key : MatchmakingGroupKey) (index : Int) :
    ((perform step world).soloWorkers key index).HoldsOnly
      ((perform step world).Delivered deployment (stage' ::ₘ others) key index) := by
  have goesOn : ∀ {key index ticket},
      world.Delivered deployment (stage ::ₘ others) key index ticket →
      (perform step world).ticketStatus ticket = .queued →
      (perform step world).Delivered deployment (stage' ::ₘ others) key index ticket :=
    issues.delivered sound
  have still : step.takes = false → ∀ key index, (world.soloWorkers key index).HoldsOnly
      ((perform step world).Delivered deployment (stage' ::ₘ others) key index) := by
    intro gentle key index
    refine (queueing.ready key index).mono fun ticket delivered => ?_
    rcases issues.taken_cases sound delivered with kept | ⟨_, _, rfl⟩ | ⟨_, _, rfl, -⟩
    · exact kept
    · cases gentle
    · cases gentle
  have run : ∀ {group : WorkerGroup} {target : Int}, step = .soloRun group target →
      deployment.getWorkerGroup .solo group.workerGroupKey = some group →
      ((perform step world).soloWorkers key index).HoldsOnly
        ((perform step world).Delivered deployment (stage' ::ₘ others) key index) := by
    rintro group target rfl served
    rcases queueing.run group target with
      ⟨-, statuses, holds⟩ | ⟨tickets, -, -, delivered, statuses, holds⟩
    · have rest : ∀ {key index ticket},
          world.Delivered deployment (stage ::ₘ others) key index ticket →
          (perform (.soloRun group target) world).Delivered deployment (stage' ::ₘ others) key
            index ticket :=
        fun delivered => goesOn delivered ((congrFun statuses _).trans delivered.queued.2)
      exact World.holdsOnly_withSoloWorker
        (fun key other _ => (queueing.ready key other).mono fun _ => rest)
        (holds.mono fun _ => rest) key index
    · have rest : ∀ {key index ticket}, ticket ∉ tickets →
          world.Delivered deployment (stage ::ₘ others) key index ticket →
          (perform (.soloRun group target) world).Delivered deployment (stage' ::ₘ others) key
            index ticket :=
        fun outside delivered => goesOn delivered
          ((congrFun statuses _).trans ((moveAll_of_not_mem outside).trans delivered.queued.2))
      refine World.holdsOnly_withSoloWorker (fun key other elsewhere => ?_)
        (holds.mono fun _ inside => rest inside.2 inside.1) key index
      refine (queueing.ready key other).mono fun ticket own => rest (fun inside => ?_) own
      have mine := delivered ticket inside
      obtain rfl := own.keyed.symm.trans mine.keyed
      exact elsewhere ⟨rfl, (own.assigned group served).trans (mine.assigned group served).symm⟩
  cases issues with
  | neutral neutral =>
      rw [(sameMatchmaking_of_neutral neutral world).soloWorkers]
      refine still ?_ key index
      revert neutral
      cases step <;> simp [Section.neutral, Section.takes]
  | @soloEnqueue _ ticket base group target carried assigned =>
      refine World.holdsOnly_withSoloWorker (fun key other _ => still rfl key other) ?_ key index
      rcases world.soloEnqueue_cases group target ticket with result | ⟨queued, result⟩
      · rw [result] at still ⊢
        exact (still rfl group.workerGroupKey target).erase.mono fun _ inside => inside.1
      · have submitted : ¬ world.Delivered deployment (.starting .solo ticket base ::ₘ others)
            group.workerGroupKey target ticket := fun delivered => delivered.arrived (.own rfl)
        have stored := (queueing.ready group.workerGroupKey target).insertOrAssign submitted
        rw [result] at goesOn ⊢
        refine stored.mono fun other inside => ?_
        rcases inside with delivered | rfl
        · exact goesOn delivered delivered.queued.2
        · refine ⟨⟨carried.made, queued⟩, fun inside => ?_,
            (Deployment.getWorkerGroup_key carried.served).symm, fun same served => ?_⟩
          · exact queueing.submitting.foreign (inside.of_idle rfl) rfl
          · rw [Deployment.getWorkerGroup_self carried.served, Option.some.injEq] at served
            exact served ▸ assigned
  | @soloCancel _ held ticket group target made served assigned =>
      have keyed := Deployment.getWorkerGroup_key served
      cases can : canChangeStatus (world.ticketStatus ticket) .cancelled with
      | false =>
          have same : perform (.soloCancel group target ticket) world = world := by
            simp only [perform, World.soloCancel, SoloMatchmakingWorker.cancel_of_cannot can,
              World.withSoloWorker_self]
            rfl
          rw [same] at still ⊢
          exact queueing.ready key index
      | true =>
          have result : world.soloCancel group target ticket =
              (true, (world.soloWorker group target).erase ticket,
                Function.update world.ticketStatus ticket .cancelled) :=
            SoloMatchmakingWorker.cancel_of_can can
          have statuses : (perform (.soloCancel group target ticket) world).ticketStatus =
              Function.update world.ticketStatus ticket .cancelled := by
            rw [perform, result]
            rfl
          have rest : ∀ {key index other}, other ≠ ticket →
              world.Delivered deployment (.free held ::ₘ others) key index other →
              (perform (.soloCancel group target ticket) world).Delivered deployment
                (.free held ::ₘ others) key index other := by
            intro key index other different delivered
            refine goesOn delivered ?_
            rw [statuses, Function.update_of_ne different]
            exact delivered.queued.2
          rw [perform, result] at rest ⊢
          refine World.holdsOnly_withSoloWorker (fun key other elsewhere => ?_) ?_ key index
          · refine (queueing.ready key other).mono fun rival delivered => rest ?_ delivered
            rintro rfl
            refine elsewhere ⟨delivered.keyed.symm.trans keyed.symm, ?_⟩
            exact (delivered.assigned group (delivered.keyed ▸ served)).trans assigned.symm
          · exact (queueing.ready group.workerGroupKey target).erase.mono
              fun _ inside => rest inside.2 inside.1
  | soloWait served | soloClaim served | soloReject served => exact run rfl served
  | _ => exact still rfl key index

end Ready

theorem World.Queueing.perform (queueing : world.Queueing deployment (stage ::ₘ others))
    (issues : Issues deployment permits step world stage stage')
    (sound : world.Sound deployment permits) :
    (MatchmakingMvp.perform step world).Queueing deployment (stage' ::ₘ others) where
  submitting := queueing.submitting.perform issues sound
  idle := fun _ _ => issues.idle sound queueing
  ready := issues.ready sound queueing

end Queueing

/-! ## Claimed tickets -/

/-- The claimed tickets in the thread's hands that are in no registered session. -/
def Stage.carries : Stage → List MatchTicket
  | .claimed _ _ tickets | .failing tickets => tickets
  | .opened _ _ session _ => session.tickets
  | .free _ | .starting _ _ _ | .inserted _ _ _ | .closing _ _ => []

/-- The tickets that threads carry. -/
def carriedBy (stages : Multiset Stage) : Multiset MatchTicket :=
  stages.bind fun stage => (stage.carries : Multiset MatchTicket)

@[simp] theorem carriedBy_zero : carriedBy 0 = 0 := Multiset.zero_bind _

theorem carriedBy_cons (stage : Stage) (stages : Multiset Stage) :
    carriedBy (stage ::ₘ stages) = ↑stage.carries + carriedBy stages :=
  Multiset.cons_bind _ _ _

theorem mem_carriedBy {ticket : MatchTicket} (member : stage ∈ others)
    (inside : ticket ∈ stage.carries) : ticket ∈ carriedBy others :=
  Multiset.mem_bind.mpr ⟨stage, member, Multiset.mem_coe.mpr inside⟩

/-- The tickets that threads carry are distinct and in search, and apart from those of the
sessions that were registered, which share no ticket. -/
structure World.Custody (world : World) (known : Set MatchSession)
    (carried : Multiset MatchTicket) : Prop where
  distinct : carried.Nodup
  searching : ∀ ticket ∈ carried, world.ticketStatus ticket = .searching
  engaged : ∀ session ∈ known, ∀ ticket ∈ session.tickets,
    (world.ticketStatus ticket).engaged = true
  outside : ∀ session ∈ known, ∀ ticket ∈ session.tickets, ticket ∉ carried
  apart : ∀ session ∈ known, ∀ rival ∈ known, ∀ ticket ∈ session.tickets,
    ticket ∈ rival.tickets → session = rival
  registered : ∀ id session, world.matchSessions.items id = some session → session ∈ known

theorem World.Custody.initial : ({} : World).Custody ∅ 0 where
  distinct := Multiset.nodup_zero
  searching := fun _ inside => (Multiset.notMem_zero _ inside).elim
  engaged := fun _ inside => inside.elim
  outside := fun _ inside => inside.elim
  apart := fun _ inside => inside.elim
  registered := nofun

/-- The session a section registers. -/
def World.registers (world : World) (step : Section) : Set MatchSession :=
  {session | step = .insertMatchSession session ∧
    (world.matchSessions.insertMatchSession session).1 = true}

theorem World.items_perform {id : MatchId} {session : MatchSession}
    (found : (perform step world).matchSessions.items id = some session) :
    world.matchSessions.items id = some session ∨ session ∈ world.registers step := by
  cases step with
  | insertMatchSession inserted =>
      simp only [MatchmakingMvp.perform, World.withMatchSessions_matchSessions] at found
      cases accepted : (world.matchSessions.insertMatchSession inserted).1 with
      | true =>
          rcases Registry.eq_or_stored_of_insert _ _ found with ⟨-, rfl⟩ | earlier
          · exact Or.inr ⟨rfl, accepted⟩
          · exact Or.inl earlier
      | false =>
          have stale := mt (Registry.insert_fst_iff MatchSession.matchId
            MatchSession.ticketPlayers).mpr (Bool.eq_false_iff.mp accepted)
          rw [SessionRegistry.insertMatchSession, Registry.insert_of_not_fresh _ _ stale] at found
          exact Or.inl found
  | eraseMatchSession => exact Or.inl (Registry.stored_of_erase _ _ found).2
  | nextIntegrationWorldNo =>
      simp only [MatchmakingMvp.perform] at found
      split_ifs at found <;> exact Or.inl found
  | _ => exact Or.inl found

/-- The session a thread attends to was its before, or is registered. -/
theorem Issues.attends_cases (issues : Issues deployment permits step world stage stage')
    {session : MatchSession} (attends : stage'.attends = some session) :
    stage.attends = some session ∨ (∃ id, world.matchSessions.items id = some session) ∨
      session ∈ world.registers step := by
  cases issues with
  | hold found =>
      cases attends
      exact Or.inr (Or.inl ⟨_, found⟩)
  | insert _ _ _ _ _ inserted =>
      cases attends
      exact Or.inr (Or.inr ⟨rfl, inserted⟩)
  | soloEnqueue | partyEnqueue =>
      split_ifs at attends
      · cases attends
      · cases attends
  | change =>
      split_ifs at attends
      · cases attends
        exact Or.inl rfl
      · cases attends
  | make | abandon | soloClaim | soloReject | partyClaim | openSession | force | reject | fail
  | require | close => cases attends
  | _ => exact Or.inl attends

/-- A thread registers the session whose tickets it carries. -/
theorem Issues.carries_of_registers (issues : Issues deployment permits step world stage stage')
    {session : MatchSession} (registers : session ∈ world.registers step) :
    stage.carries = session.tickets ∧ stage'.carries = [] := by
  obtain ⟨rfl, inserted⟩ := registers
  cases issues with
  | neutral neutral => cases neutral
  | insert => exact ⟨rfl, rfl⟩
  | reject rejected => cases inserted.symm.trans rejected

/-- What becomes of the tickets a thread carries where it registers no session: it keeps them,
claims queued ones or fails the first. -/
theorem Issues.carries_cases (issues : Issues deployment permits step world stage stage')
    (queueing : world.Queueing deployment (stage ::ₘ others)) (none : world.registers step = ∅) :
    stage'.carries = stage.carries ∨
    (stage.carries = [] ∧ stage'.carries.Nodup ∧
      ∀ ticket ∈ stage'.carries, world.ticketStatus ticket = .queued ∧
        (perform step world).ticketStatus ticket = .searching) ∨
    ∃ ticket, stage = .failing (ticket :: stage'.carries) := by
  cases issues with
  | soloEnqueue | partyEnqueue | change =>
      split_ifs <;> exact Or.inl rfl
  | @soloClaim _ _ group index _ _ served present outcome listing =>
      rcases queueing.run group index with
        ⟨incomplete, -⟩ | ⟨tickets, matched, nodup, delivered, statuses, -⟩
      · cases outcome.symm.trans incomplete
      · cases outcome.symm.trans matched
        refine Or.inr (Or.inl ⟨rfl, listing.nodup_iff.mpr nodup, fun ticket inside => ?_⟩)
        have claimed := listing.mem_iff.mp inside
        exact ⟨(delivered ticket claimed).queued.2,
          (congrFun statuses ticket).trans (moveAll_of_mem claimed)⟩
  | @soloReject _ _ group index _ _ served present outcome =>
      rcases queueing.run group index with ⟨incomplete, -⟩ | ⟨tickets, matched, -⟩
      · cases outcome.symm.trans incomplete
      · cases outcome.symm.trans matched
  | @partyClaim _ _ group requests tickets listed committed carried requested listing =>
      subst requested
      rcases PartyMatchmakingWorkerGroup.tryCommit_cases _ with
        run | ⟨requests, claimed, same, ticketsOf, -, nodup, queued, run⟩
      · rw [World.partyCommit, run] at committed
        cases committed
      obtain rfl := List.map_injective_iff.mpr (Option.some_injective _) same
      obtain rfl := (ticketsOf_matchmakingRequest _).unique ticketsOf
      refine Or.inr (Or.inl ⟨rfl, listing.nodup_iff.mpr nodup, fun ticket inside => ?_⟩)
      have claimed := listing.mem_iff.mp inside
      exact ⟨queued ticket claimed,
        (congrFun (congrArg (·.2.2) run) ticket).trans (moveAll_of_mem claimed)⟩
  | openSession => exact Or.inl (world.newMatchSession_tickets _ _ _ _)
  | insert _ _ _ _ _ inserted =>
      exact (Set.eq_empty_iff_forall_notMem.mp none _ ⟨rfl, inserted⟩).elim
  | fail => exact Or.inr (Or.inr ⟨_, rfl⟩)
  | _ => exact Or.inl rfl

section Custody

variable {known : Set MatchSession} {rest : Multiset MatchTicket}
  (custody : world.Custody known (↑stage.carries + rest))
  (attended : ∀ session, stage.attends = some session → session ∈ known)
  (queueing : world.Queueing deployment (stage ::ₘ others))
  (issues : Issues deployment permits step world stage stage')
  (sound : world.Sound deployment permits)

include custody attended queueing issues sound

/-- Only a thread that fails a ticket lets go of it. -/
theorem World.Custody.still {ticket : MatchTicket} (inside : ticket ∈ ↑stage.carries + rest) :
    (perform step world).ticketStatus ticket = .searching ∨
      ∃ tail, stage = .failing (ticket :: tail) ∧ stage' = .failing tail := by
  have searching := custody.searching ticket inside
  rcases perform_stepsAtMostOnce step world ticket with same | can
  · exact Or.inl (same.trans searching)
  rcases issues.shift sound ticket with same | shift
  · exact Or.inl (same.trans searching)
  rw [searching] at can
  generalize (perform step world).ticketStatus ticket = later at can shift ⊢
  cases shift with
  | queues | enqueues | soloCancels | partyCancels => cases can
  | abandons =>
      have idle := queueing.idle _ ticket (.own rfl)
      rw [searching] at idle
      cases idle
  | runs _ queued | commits _ queued => cases searching.symm.trans queued
  | fails => exact Or.inr ⟨_, rfl, rfl⟩
  | changes attends member =>
      exact (custody.outside _ (attended _ attends) ticket member inside).elim

/-- Nobody touches the tickets that other threads carry. -/
theorem World.Custody.foreign {ticket : MatchTicket} (inside : ticket ∈ rest) :
    (perform step world).ticketStatus ticket = .searching := by
  refine (custody.still attended queueing issues sound
    (Multiset.mem_add.mpr (Or.inr inside))).resolve_right ?_
  rintro ⟨tail, rfl, -⟩
  exact Multiset.disjoint_left.mp (Multiset.nodup_add.mp custody.distinct).2.2
    (Multiset.mem_coe.mpr List.mem_cons_self) inside

/-- The tickets of a registered session change with the session only. -/
theorem World.Custody.settled {session : MatchSession} (member : session ∈ known)
    {ticket : MatchTicket} (inside : ticket ∈ session.tickets) :
    (perform step world).ticketStatus ticket = world.ticketStatus ticket ∨
      stage.attends = some session ∧ ∃ status, step = .changeSessionStatus session status := by
  have engaged := custody.engaged session member ticket inside
  rcases perform_stepsAtMostOnce step world ticket with same | can
  · exact Or.inl same
  rcases issues.shift sound ticket with same | shift
  · exact Or.inl same
  have departed := MatchTicketStatus.departed_of_engaged engaged
  have claimed : ∀ {queue}, stage.submits ≠ some (queue, ticket) := by
    intro queue submits
    have idle := queueing.idle queue ticket (.own submits)
    rw [engaged] at idle
    cases idle
  generalize (perform step world).ticketStatus ticket = later at can shift
  cases shift with
  | queues | enqueues | abandons => exact (claimed rfl).elim
  | soloCancels | partyCancels =>
      rw [not_departed_of_cancellable can] at departed
      cases departed
  | runs _ queued | commits _ queued =>
      rw [queued] at engaged
      cases engaged
  | fails =>
      exact (custody.outside session member ticket inside
        (Multiset.mem_add.mpr (Or.inl (Multiset.mem_coe.mpr List.mem_cons_self)))).elim
  | changes attends shared =>
      obtain rfl := custody.apart session member _ (attended _ attends) ticket inside shared
      exact Or.inr ⟨attends, _, rfl⟩

/-- A thread registers a session with the tickets it carries. -/
private theorem World.Custody.register {session : MatchSession}
    (registers : session ∈ world.registers step) :
    (MatchmakingMvp.perform step world).Custody (known ∪ world.registers step)
      (↑stage'.carries + rest) := by
  obtain ⟨carries, empty⟩ := issues.carries_of_registers registers
  obtain ⟨-, foreign, disjoint⟩ := Multiset.nodup_add.mp custody.distinct
  have mine : ∀ ticket ∈ session.tickets, ticket ∈ ↑stage.carries + rest :=
    fun ticket inside => Multiset.mem_add.mpr (Or.inl (Multiset.mem_coe.mpr (carries ▸ inside)))
  have only : ∀ rival ∈ world.registers step, rival = session := fun rival other =>
    Section.insertMatchSession.inj (other.1.symm.trans registers.1)
  rw [empty, Multiset.coe_nil, zero_add]
  refine ⟨foreign, fun ticket => custody.foreign attended queueing issues sound,
    fun rival member ticket inside => (precedes_perform step world).engaged ?_,
    fun rival member ticket inside carried => ?_,
    fun first atFirst second atSecond ticket inFirst inSecond => ?_,
    fun id rival found => (World.items_perform found).imp_left (custody.registered id rival)⟩
  · rcases member with earlier | own
    · exact custody.engaged rival earlier ticket inside
    · obtain rfl := only rival own
      rw [custody.searching ticket (mine ticket inside)]
      rfl
  · rcases member with earlier | own
    · exact custody.outside rival earlier ticket inside (Multiset.mem_add.mpr (Or.inr carried))
    · obtain rfl := only rival own
      exact Multiset.disjoint_left.mp disjoint (Multiset.mem_coe.mpr (carries ▸ inside)) carried
  · rcases atFirst with known_first | own <;> rcases atSecond with known_second | other
    · exact custody.apart first known_first second known_second ticket inFirst inSecond
    · obtain rfl := only second other
      exact (custody.outside first known_first ticket inFirst (mine ticket inSecond)).elim
    · obtain rfl := only first own
      exact (custody.outside second known_second ticket inSecond (mine ticket inFirst)).elim
    · exact (only first own).trans (only second other).symm

/-- A thread that carries none claims queued tickets. -/
private theorem World.Custody.claim (none : world.registers step = ∅)
    (nodup : stage'.carries.Nodup)
    (claimed : ∀ ticket ∈ stage'.carries, world.ticketStatus ticket = .queued ∧
      (perform step world).ticketStatus ticket = .searching) :
    (perform step world).Custody known (↑stage'.carries + rest) := by
  have foreign : ∀ ticket ∈ rest, ticket ∈ ↑stage.carries + rest :=
    fun ticket theirs => Multiset.mem_add.mpr (Or.inr theirs)
  refine ⟨Multiset.nodup_add.mpr ⟨nodup, (Multiset.nodup_add.mp custody.distinct).2.1,
      Multiset.disjoint_left.mpr ?_⟩, fun ticket inside => ?_,
    fun session member ticket inside =>
      (precedes_perform step world).engaged (custody.engaged session member ticket inside),
    fun session member ticket inside carried => ?_, custody.apart, fun id session found => ?_⟩
  · intro ticket mine theirs
    have queued := (claimed ticket (Multiset.mem_coe.mp mine)).1
    cases (custody.searching ticket (foreign ticket theirs)).symm.trans queued
  · rcases Multiset.mem_add.mp inside with mine | theirs
    · exact (claimed ticket (Multiset.mem_coe.mp mine)).2
    · exact custody.foreign attended queueing issues sound theirs
  · rcases Multiset.mem_add.mp carried with mine | theirs
    · have before := custody.engaged session member ticket inside
      rw [(claimed ticket (Multiset.mem_coe.mp mine)).1] at before
      cases before
    · exact custody.outside session member ticket inside (foreign ticket theirs)
  · refine custody.registered id session ((World.items_perform found).resolve_right ?_)
    rw [none]
    exact Set.notMem_empty session

/-- A thread keeps the tickets it carries, or fails the first of them. -/
private theorem World.Custody.keep (none : world.registers step = ∅)
    (sublist : stage'.carries.Sublist stage.carries)
    (left : ∀ ticket tail, stage = .failing (ticket :: tail) → stage' = .failing tail →
      ticket ∉ stage'.carries) :
    (perform step world).Custody known (↑stage'.carries + rest) := by
  have kept : ↑stage'.carries + rest ≤ ↑stage.carries + rest :=
    add_le_add_left (Multiset.coe_le.mpr sublist.subperm) rest
  have distinct := Multiset.nodup_of_le kept custody.distinct
  refine ⟨distinct, fun ticket inside => ?_,
    fun session member ticket inside =>
      (precedes_perform step world).engaged (custody.engaged session member ticket inside),
    fun session member ticket inside carried =>
      custody.outside session member ticket inside (Multiset.mem_of_le kept carried),
    custody.apart, fun id session found => ?_⟩
  · refine (custody.still attended queueing issues sound
      (Multiset.mem_of_le kept inside)).resolve_right ?_
    rintro ⟨tail, failing, rest'⟩
    rcases Multiset.mem_add.mp inside with mine | theirs
    · exact left ticket tail failing rest' (Multiset.mem_coe.mp mine)
    · refine Multiset.disjoint_left.mp (Multiset.nodup_add.mp custody.distinct).2.2 ?_ theirs
      rw [failing]
      exact Multiset.mem_coe.mpr List.mem_cons_self
  · refine custody.registered id session ((World.items_perform found).resolve_right ?_)
    rw [none]
    exact Set.notMem_empty session

/-- **Every section keeps claimed tickets in one place.** -/
theorem World.Custody.perform : (MatchmakingMvp.perform step world).Custody
    (known ∪ world.registers step) (↑stage'.carries + rest) := by
  rcases (world.registers step).eq_empty_or_nonempty with none | ⟨session, registers⟩
  swap
  · exact custody.register attended queueing issues sound registers
  rw [none, Set.union_empty]
  rcases issues.carries_cases queueing none with
    same | ⟨-, nodup, claimed⟩ | ⟨ticket, failing⟩
  · refine custody.keep attended queueing issues sound none (same ▸ List.Sublist.refl _) ?_
    rintro ticket tail rfl rfl
    exact (List.cons_ne_self _ _ same.symm).elim
  · exact custody.claim attended queueing issues sound none nodup claimed
  · have carries : stage.carries = ticket :: stage'.carries := by
      rw [failing]
      rfl
    refine custody.keep attended queueing issues sound none
      (carries ▸ List.sublist_cons_self _ _) fun head tail atHead _ => ?_
    obtain ⟨rfl, -⟩ := List.cons.inj (Stage.failing.inj (failing.symm.trans atHead))
    have nodup := Multiset.coe_nodup.mp (Multiset.nodup_add.mp custody.distinct).1
    rw [carries] at nodup
    exact (List.nodup_cons.mp nodup).1

end Custody

end MatchmakingMvp
