import MatchmakingMvp.System.CallAdherence
import MatchmakingMvp.System.Runs

/-! # Traffic of whole party combinations

Requests are submitted one after another, and together they fill whole matches
(`MatchmakingMvp.PartyTraffic`). Runs of the group's only worker interleave with the
submissions (`MatchmakingMvp.TrafficRun`), and the drain law says what is left when all
submissions are in and the worker finds no match
(`MatchmakingMvp.DrainsTraffic`).

A thread of such a run serves the worker or submits, and a submission goes on as long
as it meets no obstacle (`MatchmakingMvp.Proceeds`). The programs of both kinds follow
this (`MatchmakingMvp.passes_submitAll`, `MatchmakingMvp.obeys_workerRun`).
-/

namespace MatchmakingMvp

open Foundation

def MatchTicketRequest.playerCount (request : MatchTicketRequest) : Int :=
  request.players.elements.length

/-- Requests of new players to one group, one whole combination after another. The
server issues their ticket ids, which do not run out. -/
structure PartyTraffic (group : WorkerGroup) (combinations : List (List MatchTicketRequest)) :
    Prop where
  addressed : ∀ request ∈ combinations.flatten,
    (request.worldNo, request.matchZoneId) = group.workerGroupKey
  issued : ∀ request ∈ combinations.flatten, request.matchTicketId = -1
  sized : ∀ request ∈ combinations.flatten, 1 ≤ request.playerCount ∧
    request.playerCount ≤ group.matchmakingRule.partyAvailablePlayerCount
  whole : ∀ combination ∈ combinations,
    (combination.map MatchTicketRequest.playerCount).sum =
      group.matchmakingRule.matchPlayerCount
  fresh : (combinations.flatten.flatMap fun request => request.players.elements).Nodup
  numbered : (1000 + combinations.flatten.length : Int) ≤ PartyMatchmakingWorker.maxMatchTicketId

variable (deployment : Deployment)

/-- The submissions, one after another. -/
def submitAll (requests : List MatchTicketRequest) : Operation Unit :=
  forAll requests fun request => (Call.partyStartMatchmaking request).program deployment

/-- Runs of the first worker, with any order of the unordered maps. -/
def IsWorkerRun (group : WorkerGroup) (program : Operation Unit) : Prop :=
  ∃ countOrder order, program =
    (Call.partyWorkerRun group.workerGroupKey 0 countOrder order).program deployment

/-- The interleavings of the submissions with runs of the worker. The thread that
submits is the last one. -/
abbrev TrafficRun (group : WorkerGroup) (requests : List MatchTicketRequest) :
    List (Executed Section World) → Pool Section World → Prop :=
  PoolRun perform (IsWorkerRun deployment group) (fun _ _ _ => True)
    ⟨{}, [submitAll deployment requests]⟩

/-- The step commits a match. -/
def formsMatch (executed : Executed Section World) : Bool :=
  match executed.command with
  | .partyCommit group requests => (executed.before.partyCommit group requests).1
  | _ => false

def formedMatches (trace : List (Executed Section World)) : Nat := trace.countP formsMatch

/-- **The drain law.** When all submissions of a traffic are in and the worker finds no
match, its queue is empty, and as many matches were formed as combinations submitted. -/
def DrainsTraffic (group : WorkerGroup) : Prop :=
  ∀ combinations, PartyTraffic group combinations → ∀ trace world runs,
    TrafficRun deployment group combinations.flatten trace ⟨world, runs ++ [.done ()]⟩ →
    ∀ countOrder : IterationOrder Int,
      ((world.partyGroup group).workers 0).makeMatchmaking world.ticketStatus countOrder
        group.matchmakingRule = [] →
      ((world.partyGroup group).workers 0).waitingQueue.isEmpty = true ∧
        formedMatches trace = combinations.length

/-! ## What the threads do -/

/-- Nothing keeps the party manager from taking the request. -/
structure World.Admits (world : World) (request : MatchTicketRequest) : Prop where
  running : world.isRunning .party = true
  unowned : ∀ playerKey ∈ request.players.elements, (world.tickets .party).owner playerKey = none
  unzoned : ∀ playerKey, world.zones.findMapByPlayerKey playerKey = none
  unpenalized : ∀ playerKey, world.dodgePenalties playerKey = none

/-- Whether a thread serves the worker, and otherwise how far the submissions are. A
submission that met an obstacle is lost. -/
inductive Progress
  | serving
  | checking (rest : List MatchTicketRequest)
  | made (ticket : MatchTicket) (rest : List MatchTicketRequest)
  | registered (ticket : MatchTicket) (rest : List MatchTicketRequest)
  | lost

/-- The sections a thread of the traffic performs. -/
inductive Proceeds (group : WorkerGroup) : Section → World → Progress → Progress → Prop
  | serve {step world} (creates : step.creates = true) : Proceeds group step world .serving .serving
  | commit {world} {requests : List MatchmakingRequest}
      (total : (requests.map MatchmakingRequest.playerCount).sum =
        group.matchmakingRule.matchPlayerCount) :
      Proceeds group (.partyCommit group (requests.map some)) world .serving .serving
  | check {world request rest} (admits : world.Admits request) :
      Proceeds group .read world (.checking (request :: rest)) (.checking (request :: rest))
  | make {world request rest} :
      Proceeds group (.newMatchTicket .party request.worldNo request) world
        (.checking (request :: rest)) (.made (world.newMatchTicket request.worldNo request) rest)
  | register {world ticket rest}
      (inserted : ((world.tickets .party).insertMatchTicket ticket).1 = true) :
      Proceeds group (.insertMatchTicket .party ticket) world (.made ticket rest)
        (.registered ticket rest)
  | assign {world ticket rest base} :
      Proceeds group (.setBaseWorkerIndex ticket.matchmakingRequest base) world
        (.registered ticket rest) (.registered ticket rest)
  | enqueue {world ticket rest base}
      (accepted : (world.partyEnqueue group base ticket.matchmakingRequest ticket).1 = true) :
      Proceeds group (.partyEnqueue group base ticket.matchmakingRequest ticket) world
        (.registered ticket rest) (.checking rest)
  | hinder {world request rest} (obstacle : ¬ world.Admits request) :
      Proceeds group .read world (.checking (request :: rest)) .lost
  | reject {world ticket rest}
      (rejected : ((world.tickets .party).insertMatchTicket ticket).1 = false) :
      Proceeds group (.insertMatchTicket .party ticket) world (.made ticket rest) .lost
  | refuse {world ticket rest base}
      (refused : (world.partyEnqueue group base ticket.matchmakingRequest ticket).1 = false) :
      Proceeds group (.partyEnqueue group base ticket.matchmakingRequest ticket) world
        (.registered ticket rest) .lost
  | drift {step world} : Proceeds group step world .lost .lost

section Programs

variable {deployment : Deployment} {permits : MatchTicketRequest → Prop} {group : WorkerGroup}
  {seen : World} {progress : Progress} {request : MatchTicketRequest}
  {rest : List MatchTicketRequest} {ticket : MatchTicket} {First Second : Type}

/-- The operation proceeds, and ends as the postcondition says unless it was lost. -/
def Passes {Result : Type} (deployment : Deployment) (permits : MatchTicketRequest → Prop)
    (group : WorkerGroup) (seen : World) (progress : Progress) (operation : Operation Result)
    (post : World → Progress → Result → Prop) : Prop :=
  Obeys (World.Sound deployment permits) (Proceeds group) seen progress operation
    fun world progress' result => progress' = .lost ∨ post world progress' result

theorem obeys_lost (operation : Operation First) :
    Obeys (World.Sound deployment permits) (Proceeds group) seen .lost operation
      fun _ progress' _ => progress' = .lost := by
  have everywhere : operation.Everywhere fun _ => True := by
    induction operation with
    | done => trivial
    | step command next ih => exact ⟨trivial, ih⟩
  exact obeys_of_everywhere (fun _ _ _ => .drift) everywhere

theorem passes_pure {result : First} {post : World → Progress → First → Prop}
    (holds : post seen progress result) :
    Passes deployment permits group seen progress (pure result) post :=
  obeys_pure (Or.inr holds)

theorem Passes.bind {middle : World → Progress → First → Prop}
    {post : World → Progress → Second → Prop} {operation : Operation First}
    {continuation : First → Operation Second}
    (first : Passes deployment permits group seen progress operation middle)
    (second : ∀ world progress result, seen.Precedes world → middle world progress result →
      Passes deployment permits group world progress (continuation result) post) :
    Passes deployment permits group seen progress (operation >>= continuation) post := by
  refine Obeys.bind first fun world progress' result precedes outcome => ?_
  rcases outcome with rfl | holds
  · exact (obeys_lost _).mono fun _ _ _ _ => Or.inl
  · exact second world progress' result precedes holds

/-- `Passes.bind` with what holds between the two operations given first. -/
theorem Passes.via (middle : World → Progress → First → Prop)
    {post : World → Progress → Second → Prop} {operation : Operation First}
    {continuation : First → Operation Second}
    (first : Passes deployment permits group seen progress operation middle)
    (second : ∀ world progress result, seen.Precedes world → middle world progress result →
      Passes deployment permits group world progress (continuation result) post) :
    Passes deployment permits group seen progress (operation >>= continuation) post :=
  first.bind second

/-- A reading during the checks, whose value is known unless there is an obstacle. -/
theorem passes_reading (expected : First → Prop) {reading : World → First}
    (reads : ∀ world, world.Admits request → expected (reading world)) :
    Passes deployment permits group seen (.checking (request :: rest)) (readWorld reading)
      fun _ progress' result => progress' = .checking (request :: rest) ∧ expected result := by
  refine obeys_atomically fun world _ _ => ?_
  by_cases admits : world.Admits request
  · exact ⟨_, .check admits, Or.inr ⟨rfl, reads world admits⟩⟩
  · exact ⟨_, .hinder admits, Or.inl rfl⟩

/-! ### A submission -/

theorem passes_findMatchTicketByPlayerKey {playerKey : PlayerKey}
    (inside : playerKey ∈ request.players.elements) :
    Passes deployment permits group seen (.checking (request :: rest))
      (MatchmakingManager.findMatchTicketByPlayerKey .party playerKey)
      fun _ progress' found => progress' = .checking (request :: rest) ∧ found = none := by
  refine (passes_reading (· = none) fun world admits =>
    admits.unowned playerKey inside).bind fun world progress' owner _ same => ?_
  obtain ⟨rfl, rfl⟩ := same
  exact passes_pure ⟨rfl, rfl⟩

theorem passes_processPlayerLeave {playerKey : PlayerKey} {isDodge : Bool} :
    Passes deployment permits group seen (.checking (request :: rest))
      (IntegrationZoneInstanceManager.processPlayerLeaveToIntegrationServer playerKey isDodge)
      fun _ progress' left => progress' = .checking (request :: rest) ∧ left = false := by
  refine Passes.via
    (fun _ progress' found => progress' = .checking (request :: rest) ∧ found = none)
    (Passes.bind (passes_reading (· = none) fun world admits => admits.unzoned playerKey)
      fun world progress' key _ same => ?_)
    fun world progress' found _ same => ?_
  · obtain ⟨rfl, rfl⟩ := same
    exact passes_pure ⟨rfl, rfl⟩
  · obtain ⟨rfl, rfl⟩ := same
    exact passes_pure ⟨rfl, rfl⟩

theorem passes_cleanupPrevMatchmaking {playerKey : PlayerKey}
    (inside : playerKey ∈ request.players.elements) :
    Passes deployment permits group seen (.checking (request :: rest))
      (PartyMatchmakingManager.cleanupPrevMatchmaking deployment playerKey)
      fun _ progress' cleaned => progress' = .checking (request :: rest) ∧ cleaned = false := by
  refine (passes_findMatchTicketByPlayerKey inside).bind fun world progress' found _ same => ?_
  obtain ⟨rfl, rfl⟩ := same
  refine passes_processPlayerLeave.bind fun world progress' left _ same => ?_
  obtain ⟨rfl, rfl⟩ := same
  exact passes_pure ⟨rfl, rfl⟩

theorem passes_anyOf_cleanup {players : List PlayerKey}
    (inside : ∀ playerKey ∈ players, playerKey ∈ request.players.elements) :
    Passes deployment permits group seen (.checking (request :: rest))
      (anyOf players (PartyMatchmakingManager.cleanupPrevMatchmaking deployment))
      fun _ progress' cleaned => progress' = .checking (request :: rest) ∧ cleaned = false := by
  induction players generalizing seen with
  | nil => exact passes_pure ⟨rfl, rfl⟩
  | cons playerKey others ih =>
      refine (passes_cleanupPrevMatchmaking (inside playerKey List.mem_cons_self)).bind
        fun world progress' cleaned _ same => ?_
      obtain ⟨rfl, rfl⟩ := same
      refine (ih fun other member => inside other (List.mem_cons_of_mem _ member)).bind
        fun world progress' cleaned _ same => ?_
      obtain ⟨rfl, rfl⟩ := same
      exact passes_pure ⟨rfl, rfl⟩

theorem passes_hasDodgePenaltyAt {now : Int} {players : List PlayerKey} :
    Passes deployment permits group seen (.checking (request :: rest))
      (MatchPenaltyManager.hasDodgePenaltyAt now players)
      fun _ progress' penalized => progress' = .checking (request :: rest) ∧ penalized = false := by
  induction players generalizing seen with
  | nil => exact passes_pure ⟨rfl, rfl⟩
  | cons playerKey others ih =>
      refine (passes_reading (· = none) fun world admits =>
        admits.unpenalized playerKey).bind fun world progress' penalty _ same => ?_
      obtain ⟨rfl, rfl⟩ := same
      exact ih

theorem passes_hasDodgePenalty :
    Passes deployment permits group seen (.checking (request :: rest))
      (MatchPenaltyManager.hasDodgePenalty request)
      fun _ progress' penalized => progress' = .checking (request :: rest) ∧ penalized = false := by
  refine (passes_reading (fun _ => True) fun _ _ => trivial).bind
    fun world progress' now _ same => ?_
  obtain ⟨rfl, -⟩ := same
  exact passes_hasDodgePenaltyAt

theorem passes_enqueueJobRequest
    (admitted : group.matchmakingRule.combination.contains ticket.players.length = true) :
    Passes deployment permits group seen (.registered ticket rest)
      (PartyMatchmakingWorkerGroup.enqueueJobRequest group ticket.matchmakingRequest)
      fun _ progress' accepted => progress' = .checking rest ∧ accepted = true := by
  simp only [PartyMatchmakingWorkerGroup.enqueueJobRequest,
    MatchTicket.matchmakingRequest_matchTicketPtr, MatchTicket.matchmakingRequest_playerCount,
    admitted, Bool.true_eq_false, if_false]
  refine Passes.via (fun _ progress' _ => progress' = .registered ticket rest)
    (obeys_atomically fun world _ _ => ⟨_, .assign, Or.inr rfl⟩)
    fun world progress' _ _ same => ?_
  subst same
  refine obeys_atomically fun world _ _ => ?_
  cases accepted : (world.partyEnqueue group _ ticket.matchmakingRequest ticket).1 with
  | true => exact ⟨_, .enqueue accepted, Or.inr ⟨rfl, rfl⟩⟩
  | false => exact ⟨_, .refuse accepted, Or.inl rfl⟩

theorem passes_enqueueWorkerJobRequest
    (served : deployment.getWorkerGroup .party ticket.matchingGroupKey = some group)
    (admitted : group.matchmakingRule.combination.contains ticket.players.length = true) :
    Passes deployment permits group seen (.made ticket rest)
      (PartyMatchmakingManager.enqueueWorkerJobRequest deployment ticket)
      fun _ progress' accepted => progress' = .checking rest ∧ accepted = true := by
  rw [PartyMatchmakingManager.enqueueWorkerJobRequest, served]
  refine Passes.via
    (fun _ progress' inserted => progress' = .registered ticket rest ∧ inserted = true)
    (obeys_atomically fun world _ _ => ?_) fun world progress' _ _ same => ?_
  · cases inserted : ((world.tickets .party).insertMatchTicket ticket).1 with
    | true => exact ⟨_, .register inserted, Or.inr ⟨rfl, rfl⟩⟩
    | false => exact ⟨_, .reject inserted, Or.inl rfl⟩
  obtain ⟨rfl, rfl⟩ := same
  refine (passes_enqueueJobRequest admitted).bind fun world progress' _ _ same => ?_
  obtain ⟨rfl, rfl⟩ := same
  exact passes_pure ⟨rfl, rfl⟩

/-- A submission passes all checks and hands its ticket over, or is lost. -/
theorem passes_startMatchmaking
    (served : deployment.getWorkerGroup .party (request.worldNo, request.matchZoneId) = some group)
    (admitted : group.matchmakingRule.combination.contains request.playerCount = true) :
    Passes deployment permits group seen (.checking (request :: rest))
      (PartyMatchmakingManager.startMatchmaking deployment request)
      fun _ progress' _ => progress' = .checking rest := by
  refine (passes_reading (· = true) fun world admits => admits.running).bind
    fun world progress' running _ same => ?_
  obtain ⟨rfl, rfl⟩ := same
  refine (passes_anyOf_cleanup fun _ => id).bind fun world progress' cleaned _ same => ?_
  obtain ⟨rfl, rfl⟩ := same
  refine passes_hasDodgePenalty.bind fun world progress' penalized _ same => ?_
  obtain ⟨rfl, rfl⟩ := same
  refine Passes.via (fun _ progress' ticket => progress' = .made ticket rest ∧
      ticket.matchingGroupKey = (request.worldNo, request.matchZoneId) ∧
      ticket.players = request.players.elements)
    (obeys_atomically fun world _ _ => ⟨_, .make, Or.inr ⟨rfl, ?_, ?_⟩⟩)
    fun world progress' ticket _ same => ?_
  · rw [World.newMatchTicket, MatchTicket.matchingGroupKey, World.normalizeRequest]
    split_ifs <;> rfl
  · exact congrArg OrderedSet.elements (world.normalizeRequest_players request)
  obtain ⟨rfl, keyed, players⟩ := same
  refine (passes_enqueueWorkerJobRequest (keyed ▸ served) (by rw [players]; exact admitted)).bind
    fun world progress' accepted _ same => ?_
  obtain ⟨rfl, rfl⟩ := same
  exact passes_pure rfl

/-- **The submissions** go on to the end, or are lost. -/
theorem passes_submitAll
    (served : ∀ request ∈ rest, deployment.getWorkerGroup .party
      (request.worldNo, request.matchZoneId) = some group)
    (admitted : ∀ request ∈ rest,
      group.matchmakingRule.combination.contains request.playerCount = true) :
    Passes deployment permits group seen (.checking rest) (submitAll deployment rest)
      fun _ progress' _ => progress' = .checking [] := by
  induction rest generalizing seen with
  | nil => exact passes_pure rfl
  | cons request rest ih =>
      have start : Passes deployment permits group seen (.checking (request :: rest))
          ((Call.partyStartMatchmaking request).program deployment)
          fun _ progress' _ => progress' = .checking rest :=
        (passes_startMatchmaking (served request List.mem_cons_self)
          (admitted request List.mem_cons_self)).bind fun _ _ _ _ same => passes_pure same
      refine start.bind fun world progress' _ _ same => ?_
      subst same
      exact ih (fun other inside => served other (List.mem_cons_of_mem _ inside))
        fun other inside => admitted other (List.mem_cons_of_mem _ inside)

/-! ### A run of the worker -/

/-- A run of the worker commits full matches only. -/
theorem obeys_doWorkerAsyncJob {workerId : Int} {countOrder : IterationOrder Int}
    {order : IterationOrder MatchTicket} :
    Obeys (World.Sound deployment permits) (Proceeds group) seen .serving
      (PartyMatchmakingWorkerGroup.doWorkerAsyncJob group workerId countOrder order)
      fun _ progress' _ => progress' = .serving := by
  have served : ∀ {world : World} {Result : Type} {operation : Operation Result},
      operation.Everywhere (fun step => step.creates = true) →
      Obeys (World.Sound deployment permits) (Proceeds group) world .serving operation
        fun _ progress' _ => progress' = .serving :=
    fun everywhere => obeys_of_everywhere (fun _ _ creates => .serve creates) everywhere
  rw [PartyMatchmakingWorkerGroup.doWorkerAsyncJob]
  split
  · exact obeys_pure rfl
  refine Obeys.via (fun _ progress' requests => progress' = .serving ∧ (requests ≠ [] →
      (requests.map MatchmakingRequest.playerCount).sum = group.matchmakingRule.matchPlayerCount))
    (obeys_atomically fun world _ sound => ⟨_, .serve rfl, rfl, ?_⟩)
    fun world progress' requests _ holds => ?_
  · exact (PartyMatchmakingWorker.makeMatchmaking_sound
      ((sound.party group.workerGroupKey).workers workerId) countOrder group.matchmakingRule).2
  obtain ⟨rfl, total⟩ := holds
  split
  · exact obeys_pure rfl
  next nonempty =>
  refine Obeys.via (fun _ progress' _ => progress' = .serving)
    (obeys_atomically fun world _ _ => ⟨_, .commit (total ?_), rfl⟩)
    fun world progress' committed _ same => ?_
  · rintro rfl
    exact nonempty rfl
  subst same
  refine served ?_
  dsimp only
  split_ifs
  · trivial
  · trivial
  · exact (MatchSessionManager.everywhere_createMatchSession fun _ creates _ => creates).bind
      fun _ => trivial
  · refine (everywhere_forAll fun _ _ => ?_).bind fun _ => trivial
    exact MatchSessionManager.everywhere_onFailedMatchmaking rfl fun _ _ => rfl

theorem obeys_workerRun {program : Operation Unit}
    (served : deployment.getWorkerGroup .party group.workerGroupKey = some group)
    (isRun : IsWorkerRun deployment group program) :
    Obeys (World.Sound deployment permits) (Proceeds group) seen .serving program
      fun _ progress' _ => progress' = .serving := by
  obtain ⟨countOrder, order, rfl⟩ := isRun
  simp only [Call.program, onGroup, served]
  exact obeys_doWorkerAsyncJob.bind fun _ _ _ _ same => obeys_pure same

end Programs

end MatchmakingMvp
