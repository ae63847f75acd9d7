import MatchmakingMvp.System.CallAdherence
import MatchmakingMvp.System.Runs
import MatchmakingMvp.Worker.SoloBatches

/-! # Solo worker groups under every interleaving

Threads enqueue and cancel tickets at a solo group and run its workers. A thread that
told a ticket to be queued has it in hand until the worker takes it, and a thread that
found a batch has it in hand until it hands it over (`MatchmakingMvp.SoloStage`). A
ticket is thus with one thread, with one worker or in one batch, and only queued
tickets are with a worker (`MatchmakingMvp.SoloSafe`).
-/

namespace MatchmakingMvp

open Foundation

/-- A call on a solo worker group. -/
inductive SoloGroupCall
  | enqueueJobRequest (request : MatchmakingRequest)
  | cancelMatchTicket (ticket : MatchTicket)
  | doWorkerAsyncJob (workerId : Int) (order : IterationOrder MatchTicket)

namespace SoloGroupCall

def program (group : WorkerGroup) : SoloGroupCall → Operation Unit
  | .enqueueJobRequest request => do
      let _ ← SoloMatchmakingWorkerGroup.enqueueJobRequest group request
  | .cancelMatchTicket ticket => do
      let _ ← SoloMatchmakingWorkerGroup.cancelMatchTicket group ticket
  | .doWorkerAsyncJob workerId order => do
      let _ ← SoloMatchmakingWorkerGroup.doWorkerAsyncJob group workerId order

/-- The tickets of the call are among the given ones. -/
def Within (tickets : Set MatchTicket) : SoloGroupCall → Prop
  | .enqueueJobRequest request => ∀ ticket, request.matchTicketPtr = some ticket → ticket ∈ tickets
  | .cancelMatchTicket ticket => ticket ∈ tickets
  | .doWorkerAsyncJob _ _ => True

end SoloGroupCall

/-- The interleavings of calls on a solo group, with the statuses the tickets have in
the beginning. -/
abbrev SoloGroupExecution (group : WorkerGroup) (tickets : Set MatchTicket)
    (statuses : TicketStatuses) :
    List (Executed Section World) → Pool Section World → Prop :=
  Execution perform
    (fun program => ∃ call : SoloGroupCall, call.Within tickets ∧ program = call.program group)
    (fun _ _ => True) { ticketStatus := statuses }

/-! ## The stages of a thread -/

/-- What a thread has in hand. A thread is stuck after a run rejected its batch. -/
inductive SoloStage
  | idle
  | queued (ticket : MatchTicket)
  | claimed (tickets : List MatchTicket)
  | stuck
deriving DecidableEq

/-- The registered sessions hold tickets that left their queues. -/
def World.SessionsDeparted (world : World) : Prop :=
  ∀ matchId session, world.matchSessions.items matchId = some session →
    ∀ ticket ∈ session.tickets, (world.ticketStatus ticket).departed = true

/-- A section that works on a solo worker or hands tickets over. -/
def Section.concernsSolo : Section → Bool
  | .soloEnqueue _ _ _ _ | .soloCancel _ _ _ | .soloRun _ _ | .enterCreateMatchSession _ _ => true
  | _ => false

/-- A section that leaves the solo workers and the tickets in queues alone. -/
structure Section.Calm (step : Section) (world : World) : Prop where
  apart : step.concernsSolo = false
  statuses : ∀ ticket, (world.ticketStatus ticket).departed = false →
    (perform step world).ticketStatus ticket = world.ticketStatus ticket
  sessions : ∀ matchId session, (perform step world).matchSessions.items matchId = some session →
    world.matchSessions.items matchId = some session ∨
      ∀ ticket ∈ session.tickets, (world.ticketStatus ticket).departed = true

variable (group : WorkerGroup) (tickets : Set MatchTicket)

/-- The sections a thread performs, from stage to stage. -/
inductive SoloIssues : Section → World → SoloStage → SoloStage → Prop
  | calm {step world stage} (calm : step.Calm world) : SoloIssues step world stage stage
  | queue {world ticket} (known : ticket ∈ tickets) :
      SoloIssues (.changeTicketStatus ticket .queued) world .idle
        (if (ticket.changeStatus .queued world.ticketStatus).1 then .queued ticket else .idle)
  | enqueue {world ticket request} (pointer : request.matchTicketPtr = some ticket) :
      SoloIssues (.soloEnqueue group (getWorkerIndex group.workerCount ticket.matchTicketId)
        request ticket) world (.queued ticket) .idle
  | cancel {world ticket} (known : ticket ∈ tickets) :
      SoloIssues (.soloCancel group (getWorkerIndex group.workerCount ticket.matchTicketId)
        ticket) world .idle .idle
  | wait {world index} (outcome : (world.soloRun group index).1 = .incomplete) :
      SoloIssues (.soloRun group index) world .idle .idle
  | claim {world index found listed} (outcome : (world.soloRun group index).1 = .matched found)
      (listing : listed.Perm found) :
      SoloIssues (.soloRun group index) world .idle (.claimed listed)
  | reject {world index found} (outcome : (world.soloRun group index).1 = .rejected found) :
      SoloIssues (.soloRun group index) world .idle .stuck
  | hand {world key} {listed : TicketSet} :
      SoloIssues (.enterCreateMatchSession key listed) world (.claimed listed.1) .idle
  | stuck {step world} (same : (perform step world).matchSessions = world.matchSessions) :
      SoloIssues step world .stuck .stuck

/-! ## Calm sections -/

section Calm

variable {step : Section} {world : World}

theorem Section.calm_of_neutral (neutral : step.neutral = true) : step.Calm world := by
  have same := sameMatchmaking_of_neutral neutral world
  refine ⟨?_, fun ticket _ => congrFun same.ticketStatus ticket, fun matchId session found =>
    Or.inl (same.matchSessions ▸ found)⟩
  cases step <;> first | rfl | cases neutral

theorem Section.calm_changeTicketStatus {ticket : MatchTicket} {status : MatchTicketStatus}
    (departed : (world.ticketStatus ticket).departed = true) :
    (Section.changeTicketStatus ticket status).Calm world := by
  refine ⟨rfl, fun other waiting => ?_, fun _ _ => Or.inl⟩
  have different : other ≠ ticket := by
    rintro rfl
    rw [departed] at waiting
    cases waiting
  exact MatchTicket.changeStatus_of_ne different

theorem Section.calm_eraseMatchTicket {queue : QueueKind} {id : MatchTicketId} :
    (Section.eraseMatchTicket queue id).Calm world :=
  ⟨rfl, fun _ _ => rfl, fun _ _ => Or.inl⟩

theorem Section.calm_eraseMatchSession {matchId : MatchId} :
    (Section.eraseMatchSession matchId).Calm world :=
  ⟨rfl, fun _ _ => rfl, fun _ _ found => Or.inl (Registry.stored_of_erase _ _ found).2⟩

theorem Section.calm_insertMatchSession {session : MatchSession}
    (departed : ∀ ticket ∈ session.tickets, (world.ticketStatus ticket).departed = true) :
    (Section.insertMatchSession session).Calm world := by
  refine ⟨rfl, fun _ _ => rfl, fun matchId stored found => ?_⟩
  rcases Registry.eq_or_stored_of_insert _ _ found with ⟨-, rfl⟩ | earlier
  · exact Or.inr departed
  · exact Or.inl earlier

theorem Section.calm_changeSessionStatus {session : MatchSession} {status : MatchTicketStatus}
    (departed : ∀ ticket ∈ session.tickets, (world.ticketStatus ticket).departed = true) :
    (Section.changeSessionStatus session status).Calm world := by
  refine ⟨rfl, fun ticket waiting => ?_, fun _ _ => Or.inl⟩
  have outside : ticket ∉ session.tickets := fun inside => by
    rw [departed ticket inside] at waiting
    cases waiting
  by_cases changeable : session.Changeable status (world.sessionState session) world.ticketStatus
  · simp only [perform, World.changeSessionStatus,
      MatchSession.changeStatus_of_changeable changeable]
    exact moveAll_of_not_mem outside
  · simp only [perform, World.changeSessionStatus,
      MatchSession.changeStatus_of_not_changeable changeable]
    rfl

end Calm

variable {group tickets} in
/-- The invariant of the registered sessions. -/
theorem SoloIssues.sessionsDeparted {step : Section} {world : World} {stage stage' : SoloStage}
    (departed : world.SessionsDeparted)
    (issues : SoloIssues group tickets step world stage stage') :
    (perform step world).SessionsDeparted := by
  have later : ∀ ticket, (world.ticketStatus ticket).departed = true →
      ((perform step world).ticketStatus ticket).departed = true :=
    fun ticket => (precedes_perform step world).departed
  have of_same : (perform step world).matchSessions = world.matchSessions →
      (perform step world).SessionsDeparted := by
    intro same matchId session found ticket inside
    rw [same] at found
    exact later ticket (departed matchId session found ticket inside)
  cases issues with
  | calm calm =>
      intro matchId session found ticket inside
      rcases calm.sessions matchId session found with earlier | new
      · exact later ticket (departed matchId session earlier ticket inside)
      · exact later ticket (new ticket inside)
  | stuck same => exact of_same same
  | _ => exact of_same rfl

/-! ## The calls follow the stages -/

/-- `MatchmakingMvp.Obeys` with the stages of the threads of a solo group. -/
abbrev SoloObeys {Result : Type} (group : WorkerGroup) (tickets : Set MatchTicket)
    (seen : World) (stage : SoloStage) (operation : Operation Result)
    (post : World → SoloStage → Result → Prop) : Prop :=
  Obeys World.SessionsDeparted (SoloIssues group tickets) seen stage operation post

section Obeying

variable {group tickets} {seen : World} {stage : SoloStage} {Result : Type}

/-- A calm section, with what its reading says. -/
theorem soloObeys_reading {step : Section} {reading : World → Result}
    (post : World → Result → Prop)
    (calm : ∀ world, seen.Precedes world → world.SessionsDeparted → step.Calm world)
    (reads : ∀ world, seen.Precedes world → world.SessionsDeparted →
      post (perform step world) (reading world)) :
    SoloObeys group tickets seen stage (Program.atomically step reading)
      fun world stage' result => stage' = stage ∧ post world result :=
  obeys_atomically fun world precedes departed =>
    ⟨stage, .calm (calm world precedes departed), rfl, reads world precedes departed⟩

theorem soloObeys_calm {step : Section} {reading : World → Result}
    (calm : ∀ world, seen.Precedes world → step.Calm world) :
    SoloObeys group tickets seen stage (Program.atomically step reading)
      fun _ stage' _ => stage' = stage :=
  obeys_atomically fun world precedes _ => ⟨stage, .calm (calm world precedes), rfl⟩

theorem soloObeys_neutral {operation : Operation Result} (neutral : Neutral operation) :
    SoloObeys group tickets seen stage operation fun _ stage' _ => stage' = stage :=
  obeys_of_everywhere (fun _ _ neutral => .calm (Section.calm_of_neutral neutral)) neutral

/-- Calm operations one after another. -/
theorem soloObeys_forAll {listed : List MatchTicket} {operation : MatchTicket → Operation Unit}
    (departed : ∀ ticket ∈ listed, (seen.ticketStatus ticket).departed = true)
    (each : ∀ ticket world, (world.ticketStatus ticket).departed = true →
      SoloObeys group tickets world stage (operation ticket) fun _ stage' _ => stage' = stage) :
    SoloObeys group tickets seen stage (forAll listed operation)
      fun _ stage' _ => stage' = stage := by
  induction listed generalizing seen with
  | nil => exact obeys_pure rfl
  | cons ticket rest ih =>
      refine (each ticket seen (departed ticket List.mem_cons_self)).bind
        fun world stage' _ precedes same => ?_
      subst same
      exact ih fun other inside =>
        precedes.departed (departed other (List.mem_cons_of_mem _ inside))

/-- Failing a ticket that left its queue. -/
theorem soloObeys_onFailedMatchmaking (queue : QueueKind) (ticket : MatchTicket)
    (departed : (seen.ticketStatus ticket).departed = true) :
    SoloObeys group tickets seen stage (MatchmakingManager.onFailedMatchmaking queue ticket)
      fun _ stage' _ => stage' = stage := by
  refine (soloObeys_calm fun world precedes =>
    Section.calm_changeTicketStatus (precedes.departed departed)).bind
    fun world stage' changed _ same => ?_
  subst same
  split_ifs
  · exact obeys_pure rfl
  · exact (soloObeys_calm fun _ _ => Section.calm_eraseMatchTicket).bind
      fun _ _ _ _ same => obeys_pure same

namespace MatchSessionManager

theorem soloObeys_onFailedMatchSession (matchId : MatchId) :
    SoloObeys group tickets seen stage (onFailedMatchSession matchId)
      fun _ stage' _ => stage' = stage := by
  refine (soloObeys_reading (fun world found => ∀ session, found = some session →
      ∀ ticket ∈ session.tickets, (world.ticketStatus ticket).departed = true)
    (fun _ _ _ => Section.calm_of_neutral rfl) fun world _ departed session found =>
      departed matchId session found).bind fun world stage' found _ same => ?_
  obtain ⟨rfl, departed⟩ := same
  cases found with
  | none => exact obeys_pure rfl
  | some session =>
      refine (soloObeys_calm fun _ precedes =>
        Section.calm_changeSessionStatus fun ticket inside =>
          precedes.departed (departed session rfl ticket inside)).bind
        fun world stage' changed _ same => ?_
      subst same
      split_ifs
      · exact obeys_pure rfl
      · exact (soloObeys_calm fun _ _ => Section.calm_eraseMatchSession).bind
          fun _ _ _ _ same => obeys_pure same

theorem soloObeys_notifyAll {listed : List MatchTicket}
    (departed : ∀ ticket ∈ listed, (seen.ticketStatus ticket).departed = true) :
    SoloObeys group tickets seen stage (forAll listed notifyMatchmakingFailure)
      fun _ stage' _ => stage' = stage :=
  soloObeys_forAll departed fun ticket _ => soloObeys_onFailedMatchmaking _ ticket

/-- The end of a creation whose session was registered. -/
private theorem soloObeys_registered {listed : List MatchTicket} {session : MatchSession}
    {matchId : MatchId} (contains : session.tickets = listed)
    (departed : ∀ ticket ∈ listed, (seen.ticketStatus ticket).departed = true) :
    SoloObeys group tickets seen .idle
      (do
        if (← changeStatus session .requiresAcceptance) = false then
          onFailedMatchSession matchId
          return ()
        forAll listed expireMatchmakingOwnership
        let now ← timeMsec
        doAsyncJob (now + kAcceptTimeoutMsec) (.timeOutAccept matchId)
        scheduleAutoAccepts 0 session.ticketPlayers)
      fun _ stage' _ => stage' = .idle := by
  refine (soloObeys_calm fun _ precedes => Section.calm_changeSessionStatus
    fun ticket inside => precedes.departed (departed ticket (contains ▸ inside))).bind
    fun world stage' changed precedes same => ?_
  subst same
  split_ifs
  · exact (soloObeys_onFailedMatchSession matchId).bind fun _ _ _ _ same => obeys_pure same
  · refine (soloObeys_forAll (fun ticket inside => precedes.departed (departed ticket inside))
      fun ticket world _ => ?_).bind fun world stage' _ _ same => ?_
    · exact (soloObeys_calm fun _ _ => Section.calm_eraseMatchTicket).bind
        fun _ _ _ _ same => obeys_pure same
    · subst same
      exact soloObeys_neutral ((neutral_readWorld _).bind fun _ =>
        (neutral_doAsyncJob _ _).bind fun _ => neutral_scheduleAutoAccepts _ _)

/-- The creation after its session was made. -/
private theorem soloObeys_opened {listed : List MatchTicket} {session : MatchSession}
    {matchId : MatchId} (contains : session.tickets = listed)
    (departed : ∀ ticket ∈ listed, (seen.ticketStatus ticket).departed = true) :
    SoloObeys group tickets seen .idle
      (do
        Program.atomically (.forceSessionStatus session .searching) fun _ => ()
        if (← insertMatchSession session) = false then
          let _ ← eraseMatchSession matchId
          forAll listed notifyMatchmakingFailure
          return ()
        if (← changeStatus session .requiresAcceptance) = false then
          onFailedMatchSession matchId
          return ()
        forAll listed expireMatchmakingOwnership
        let now ← timeMsec
        doAsyncJob (now + kAcceptTimeoutMsec) (.timeOutAccept matchId)
        scheduleAutoAccepts 0 session.ticketPlayers)
      fun _ stage' _ => stage' = .idle := by
  refine (soloObeys_calm fun _ _ => ⟨rfl, fun _ _ => rfl, fun _ _ => Or.inl⟩).bind
    fun forced stage' _ untilForced same => ?_
  subst same
  refine (soloObeys_calm fun _ precedes => Section.calm_insertMatchSession fun ticket inside =>
    (untilForced.trans precedes).departed (departed ticket (contains ▸ inside))).bind
    fun world stage' inserted later same => ?_
  subst same
  have departed' : ∀ ticket ∈ listed, (world.ticketStatus ticket).departed = true :=
    fun ticket inside => (untilForced.trans later).departed (departed ticket inside)
  split_ifs
  · refine (soloObeys_calm fun _ _ => Section.calm_eraseMatchSession).bind
      fun world stage' _ precedes same => ?_
    subst same
    exact (soloObeys_notifyAll fun ticket inside =>
      precedes.departed (departed' ticket inside)).bind fun _ _ _ _ same => obeys_pure same
  · exact soloObeys_registered contains departed'

/-- What follows the hand-over concerns sessions and tickets that left their queues. -/
theorem soloObeys_createMatchSession {key : MatchmakingGroupKey} {listed : TicketSet}
    (departed : ∀ ticket ∈ listed.1, (seen.ticketStatus ticket).departed = true) :
    SoloObeys group tickets seen (.claimed listed.1) (createMatchSession key listed)
      fun _ stage' _ => stage' = .idle := by
  refine Obeys.via (fun _ stage' _ => stage' = .idle)
    (obeys_atomically fun _ _ _ => ⟨_, .hand, rfl⟩) fun entered stage' _ untilEntered same => ?_
  subst same
  cases head : listed.1.head? with
  | none => exact obeys_pure rfl
  | some first =>
      refine (soloObeys_neutral (neutral_atomically rfl _)).bind
        fun numbered stage' number untilNumbered same => ?_
      subst same
      have precedes := untilEntered.trans untilNumbered
      have departed' : ∀ ticket ∈ listed.1, (numbered.ticketStatus ticket).departed = true :=
        fun ticket inside => precedes.departed (departed ticket inside)
      cases number with
      | none => exact obeys_pure rfl
      | some integrationWorldNo =>
          simp only
          split_ifs
          · exact (soloObeys_notifyAll departed').bind fun _ _ _ _ same => obeys_pure same
          · refine (soloObeys_reading (fun _ session => session.tickets = listed.1)
              (fun _ _ _ => ⟨rfl, fun _ _ => rfl, fun _ _ => Or.inl⟩)
              fun world _ _ => world.newMatchSession_tickets ..).bind
              fun world stage' session later same => ?_
            obtain ⟨rfl, contains⟩ := same
            exact soloObeys_opened contains
              fun ticket inside => later.departed (departed' ticket inside)

end MatchSessionManager

namespace SoloMatchmakingWorkerGroup

theorem soloObeys_enqueueJobRequest {request : MatchmakingRequest}
    (known : ∀ ticket, request.matchTicketPtr = some ticket → ticket ∈ tickets) :
    SoloObeys group tickets seen .idle (enqueueJobRequest group request) fun _ _ _ => True := by
  rw [enqueueJobRequest]
  cases pointer : request.matchTicketPtr with
  | none => exact obeys_pure trivial
  | some ticket =>
      simp only
      split
      · exact obeys_pure trivial
      refine Obeys.via (fun _ stage' queued =>
          stage' = if queued then .queued ticket else .idle)
        (obeys_atomically fun world _ _ => ⟨_, .queue (known ticket pointer), rfl⟩)
        fun world stage' queued _ same => ?_
      cases queued with
      | false => exact obeys_pure trivial
      | true =>
          subst same
          simp only [Bool.true_eq_false, if_false, if_true]
          refine (soloObeys_calm fun _ _ => ⟨rfl, fun _ _ => rfl, fun _ _ => Or.inl⟩).bind
            fun world stage' _ _ same => ?_
          subst same
          split
          · exact obeys_pure trivial
          · exact obeys_atomically fun _ _ _ => ⟨_, .enqueue pointer, trivial⟩

theorem soloObeys_cancelMatchTicket {ticket : MatchTicket} (known : ticket ∈ tickets) :
    SoloObeys group tickets seen .idle (cancelMatchTicket group ticket) fun _ _ _ => True := by
  rw [cancelMatchTicket]
  split_ifs
  · exact obeys_atomically fun _ _ _ => ⟨_, .cancel known, trivial⟩
  · exact obeys_pure trivial

/-- What a thread has in hand after a run. -/
private def Found (order : IterationOrder MatchTicket) (world : World) (stage : SoloStage) :
    SoloMatchmakingWorker.JobOutcome → Prop
  | .incomplete => stage = .idle
  | .matched found => stage = .claimed (TicketSet.ofList order found).1 ∧
      ∀ ticket ∈ (TicketSet.ofList order found).1, (world.ticketStatus ticket).departed = true
  | .rejected _ => stage = .stuck

private theorem soloObeys_soloRun (index : Int) (order : IterationOrder MatchTicket) :
    SoloObeys group tickets seen .idle
      (Program.atomically (.soloRun group index) fun world => (world.soloRun group index).1)
      (Found order) := by
  refine obeys_atomically fun world _ _ => ?_
  rcases SoloMatchmakingWorker.doWorkerAsyncJob_cases group.matchmakingRule
    (world.soloWorker group index) world.ticketStatus with
    ⟨-, run⟩ | ⟨-, ⟨success, run⟩ | ⟨-, run⟩⟩
  · have outcome : (world.soloRun group index).1 = .incomplete := congrArg Prod.fst run
    exact ⟨_, .wait outcome, by rw [outcome, Found]⟩
  · have outcome := congrArg Prod.fst run
    obtain ⟨-, nodup, -, moved⟩ := SoloMatchmakingWorker.searchTickets_success success
    have perm := TicketSet.perm_ofList order nodup
    refine ⟨_, .claim outcome perm, ?_⟩
    rw [show (world.soloRun group index).1 = _ from outcome]
    refine ⟨rfl, fun ticket inside => ?_⟩
    have statuses : (perform (.soloRun group index) world).ticketStatus = _ :=
      congrArg (fun result => result.2.2) run
    rw [statuses, moved, moveAll_of_mem (perm.mem_iff.mp inside)]
    rfl
  · have outcome := congrArg Prod.fst run
    exact ⟨_, .reject outcome, by rw [show (world.soloRun group index).1 = _ from outcome, Found]⟩

theorem soloObeys_doWorkerAsyncJob (workerId : Int) (order : IterationOrder MatchTicket) :
    SoloObeys group tickets seen .idle (doWorkerAsyncJob group workerId order)
      fun _ _ _ => True := by
  rw [doWorkerAsyncJob]
  split_ifs
  · exact obeys_pure trivial
  refine (soloObeys_soloRun workerId order).bind fun world stage' outcome _ found => ?_
  cases outcome with
  | incomplete => exact obeys_pure trivial
  | matched found' =>
      obtain ⟨rfl, departed⟩ := found
      exact (MatchSessionManager.soloObeys_createMatchSession departed).bind
        fun _ _ _ _ _ => obeys_pure trivial
  | rejected found' =>
      have keeps : ∀ ticket : MatchTicket, (MatchmakingManager.onFailedMatchmaking .solo
          ticket).Everywhere fun step => ∀ world,
            (perform step world).matchSessions = world.matchSessions := by
        intro ticket
        refine Program.Everywhere.bind ⟨fun _ => rfl, fun _ => trivial⟩ fun changed => ?_
        split_ifs
        · trivial
        · exact Program.Everywhere.bind ⟨fun _ => rfl, fun _ => trivial⟩ fun _ => trivial
      cases found
      refine (obeys_of_everywhere (fun _ world keeps => .stuck (keeps world))
        (everywhere_forAll fun ticket _ => keeps ticket)).bind fun _ _ _ _ _ => obeys_pure trivial

end SoloMatchmakingWorkerGroup

/-- Every call on the group begins with empty hands and follows the stages. -/
theorem SoloGroupCall.soloObeys {call : SoloGroupCall} (within : call.Within tickets) :
    SoloObeys group tickets seen .idle (call.program group) fun _ _ _ => True := by
  cases call with
  | enqueueJobRequest request =>
      exact (SoloMatchmakingWorkerGroup.soloObeys_enqueueJobRequest within).bind
        fun _ _ _ _ _ => obeys_pure trivial
  | cancelMatchTicket ticket =>
      exact (SoloMatchmakingWorkerGroup.soloObeys_cancelMatchTicket within).bind
        fun _ _ _ _ _ => obeys_pure trivial
  | doWorkerAsyncJob workerId order =>
      exact (SoloMatchmakingWorkerGroup.soloObeys_doWorkerAsyncJob workerId order).bind
        fun _ _ _ _ _ => obeys_pure trivial

end Obeying

end MatchmakingMvp
