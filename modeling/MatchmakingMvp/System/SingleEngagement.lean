import MatchmakingMvp.Session.Responses
import MatchmakingMvp.Tickets.Admission
import MatchmakingMvp.Tickets.Registration
import MatchmakingMvp.Tickets.Whereabouts

/-! # Single engagement

A player who starts matchmaking is removed from the manager's own queue and from the zone
he is in, but not from the other manager's queue and not from a session. So a player can be
held twice. It takes a submission for a player whom an index knows, a match of tickets that
the session manager presumes to be of the wrong manager, or a completion for players who are
not the session's. In every run of complete calls without these, every player is held by one
ticket, one session or one zone at most (`MatchmakingMvp.single_engagement_of_considerate`).
-/

namespace MatchmakingMvp

open Foundation

/-! ## Runs of workers -/

/-- The state after a complete run is related to the state before, or the run ends with
creation for tickets that it handed over in a related state. -/
def Creates {Result : Type} (relates : World → World → Prop) (operation : Operation Result) :
    Prop :=
  ∀ world : World, relates world (operation.run perform world).2 ∨
    ∃ key tickets before, relates world before ∧
      (∃ executed ∈ operation.trace perform world,
        executed.command = .enterCreateMatchSession key tickets ∧ executed.before = before) ∧
      (operation.run perform world).2 =
        ((MatchSessionManager.createMatchSession key tickets).run perform before).2

section Workers

variable {First Second : Type} {relates : World → World → Prop}
  (refl : ∀ world, relates world world)
  (trans : ∀ first second third, relates first second → relates second third →
    relates first third)

include trans in
theorem Creates.after {operation : Operation First} {continuation : First → Operation Second}
    (first : ∀ world, relates world (operation.run perform world).2)
    (second : ∀ result, Creates relates (continuation result)) :
    Creates relates (operation >>= continuation) := by
  intro world
  rw [Program.run_bind, Program.trace_bind]
  rcases second _ (operation.run perform world).2 with
    ends | ⟨key, tickets, state, ends, entered, run⟩
  · exact Or.inl (trans _ _ _ (first world) ends)
  · obtain ⟨executed, inside, enters⟩ := entered
    exact Or.inr ⟨key, tickets, state, trans _ _ _ (first world) ends,
      ⟨executed, List.mem_append_right _ inside, enters⟩, run⟩

/-- What follows creation has no sections. -/
theorem Creates.bind_pure {operation : Operation First}
    (creates : Creates relates operation) (result : First → Second) :
    Creates relates (operation >>= fun first => pure (result first)) := by
  intro world
  rw [Program.run_bind, Program.trace_bind]
  rcases creates world with ends | ⟨key, tickets, state, ends, entered, run⟩
  · exact Or.inl ends
  · obtain ⟨executed, inside, enters⟩ := entered
    exact Or.inr ⟨key, tickets, state, ends, ⟨executed, List.mem_append_left _ inside, enters⟩,
      run⟩

theorem Creates.ite {condition : Prop} [Decidable condition]
    {operation other : Operation First} (first : Creates relates operation)
    (second : Creates relates other) :
    Creates relates (if condition then operation else other) := by
  split_ifs
  · exact first
  · exact second

include refl in
theorem MatchSessionManager.creates_createMatchSession (key : MatchmakingGroupKey)
    (tickets : TicketSet) : Creates relates (createMatchSession key tickets) :=
  fun world => Or.inr ⟨key, tickets, world, refl world, ⟨_, List.mem_cons_self, rfl, rfl⟩, rfl⟩

include refl trans

/-- A run of a solo worker, if the claim of the tickets and the failing of tickets relate. -/
theorem SoloMatchmakingWorkerGroup.creates_doWorkerAsyncJob (group : WorkerGroup)
    (workerId : Int) (order : IterationOrder MatchTicket)
    (claims : ∀ world, relates world (perform (.soloRun group workerId) world))
    (fails : ∀ tickets world, relates world
      ((forAll tickets (MatchmakingManager.onFailedMatchmaking .solo)).run perform world).2) :
    Creates relates (doWorkerAsyncJob group workerId order) := by
  apply Creates.ite
  · exact fun world => Or.inl (refl world)
  apply Creates.after trans
  · exact claims
  intro outcome
  cases outcome with
  | incomplete => exact fun world => Or.inl (refl world)
  | matched tickets =>
      exact (MatchSessionManager.creates_createMatchSession refl _ _).bind_pure fun _ => true
  | rejected tickets =>
      exact Creates.after trans (fails _) fun _ world => Or.inl (refl world)

/-- A run of a party worker likewise. -/
theorem PartyMatchmakingWorkerGroup.creates_doWorkerAsyncJob (group : WorkerGroup)
    (workerId : Int) (countOrder : IterationOrder Int) (order : IterationOrder MatchTicket)
    (claims : ∀ requests world, relates world (perform (.partyCommit group requests) world))
    (fails : ∀ tickets world, relates world
      ((forAll tickets (MatchmakingManager.onFailedMatchmaking .party)).run perform world).2) :
    Creates relates (doWorkerAsyncJob group workerId countOrder order) := by
  have idle : ∀ result : Option Bool, Creates relates (pure result : Operation (Option Bool)) :=
    fun _ world => Or.inl (refl world)
  apply Creates.ite (idle _)
  apply Creates.after trans
  · exact refl
  intro requests
  apply Creates.ite (idle _)
  apply Creates.after trans
  · exact claims _
  intro committed
  apply Creates.ite (idle _)
  apply Creates.ite (idle _)
  apply Creates.ite
  · exact (MatchSessionManager.creates_createMatchSession refl _ _).bind_pure fun _ => some true
  · exact Creates.after trans (fails _) fun _ => idle _

end Workers

/-- A complete run brings nobody in, or ends with creation for tickets it handed over. -/
def LeadsToCreation {Result : Type} (operation : Operation Result) : Prop :=
  ∀ world : World, world.ZonesIndexed → world.Recedes (operation.run perform world).2 ∨
    ∃ key tickets before, world.Recedes before ∧
      (∃ executed ∈ operation.trace perform world,
        executed.command = .enterCreateMatchSession key tickets ∧ executed.before = before) ∧
      (operation.run perform world).2 =
        ((MatchSessionManager.createMatchSession key tickets).run perform before).2

section Receding

/-- From an indexed state the later one brings nobody in. -/
private def recedesWhereIndexed (before after : World) : Prop :=
  before.ZonesIndexed → before.Recedes after

private theorem recedesWhereIndexed_refl (world : World) : recedesWhereIndexed world world :=
  recedes_pure () world

private theorem recedesWhereIndexed_trans (first second third : World)
    (before : recedesWhereIndexed first second) (after : recedesWhereIndexed second third) :
    recedesWhereIndexed first third :=
  fun indexed => (before indexed).trans (after (before indexed).zones)

private theorem Creates.leadsToCreation {Result : Type} {operation : Operation Result}
    (creates : Creates recedesWhereIndexed operation) : LeadsToCreation operation := by
  intro world indexed
  rcases creates world with recedes | ⟨key, tickets, before, recedes, entered, run⟩
  · exact Or.inl (recedes indexed)
  · exact Or.inr ⟨key, tickets, before, recedes indexed, entered, run⟩

/-- A worker run of a group that there may not be. -/
private theorem leadsToCreation_onGroup {deployment : Deployment} {queue : QueueKind}
    {key : MatchmakingGroupKey} {Result : Type} {operation : WorkerGroup → Operation Result}
    (creates : ∀ group, Creates recedesWhereIndexed (operation group)) :
    LeadsToCreation (onGroup deployment queue key fun group => do
      let _ ← operation group) := by
  rw [onGroup]
  cases deployment.getWorkerGroup queue key with
  | none => exact fun world indexed => Or.inl (recedes_pure () world indexed)
  | some group => exact ((creates group).bind_pure fun _ => ()).leadsToCreation

theorem leadsToCreation_soloWorkerRun (deployment : Deployment) (key : MatchmakingGroupKey)
    (workerId : Int) (order : IterationOrder MatchTicket) :
    LeadsToCreation ((Call.soloWorkerRun key workerId order).program deployment) :=
  leadsToCreation_onGroup fun group =>
    SoloMatchmakingWorkerGroup.creates_doWorkerAsyncJob recedesWhereIndexed_refl
      recedesWhereIndexed_trans group workerId order
      (fun _ indexed => indexed.recedes_perform rfl)
      fun _ => recedes_forAll fun ticket =>
        MatchmakingManager.recedes_onFailedMatchmaking .solo ticket

theorem leadsToCreation_partyWorkerRun (deployment : Deployment) (key : MatchmakingGroupKey)
    (workerId : Int) (countOrder : IterationOrder Int) (order : IterationOrder MatchTicket) :
    LeadsToCreation ((Call.partyWorkerRun key workerId countOrder order).program deployment) :=
  leadsToCreation_onGroup fun group =>
    PartyMatchmakingWorkerGroup.creates_doWorkerAsyncJob recedesWhereIndexed_refl
      recedesWhereIndexed_trans group workerId countOrder order
      (fun _ _ indexed => indexed.recedes_perform rfl)
      fun _ => recedes_forAll fun ticket =>
        MatchmakingManager.recedes_onFailedMatchmaking .party ticket

end Receding

/-! ## Calls in an orderly state -/

/-- The completion was scheduled for a session whose first ticket is not to be matched
again, and names players of the session. No other session is registered under the id. -/
def World.Originates (world : World) (info : IntegrationZoneInstanceInfo) : Prop :=
  ∃ origin : MatchSession, origin.matchId = info.matchId ∧
    (∀ playerKey ∈ info.players.elements, playerKey ∈ origin.ticketPlayers) ∧
    (∀ session, world.matchSessions.items info.matchId = some session → session = origin) ∧
    ∃ queue ticket, world.Made queue ticket ∧ ticket.matchTicketId = info.matchId ∧
      (world.ticketStatus ticket).departed = true

/-- Only players of a session respond to it. -/
def World.Responds (world : World) : Prop :=
  ∀ session, ∀ playerKey ∈ (world.sessionState session).players.elements,
    playerKey ∈ session.ticketPlayers

/-- Every player has one holder, and the zones, the queued tickets, the responses and the
scheduled completions are what the next call relies on. -/
structure World.Orderly (world : World) : Prop where
  single : world.SingleEngagement
  zones : world.ZonesIndexed
  registers : ∀ {queue ticket}, world.Made queue ticket → world.Registers queue ticket
  responds : world.Responds
  completions : ∀ {dueTimeMsec info}, (dueTimeMsec, .complete info) ∈ world.sessionJobs →
    world.Originates info

theorem World.Orderly.initial : ({} : World).Orderly where
  single playerKey first second inFirst := by
    cases first <;> obtain ⟨_, absent, -⟩ := inFirst <;> cases absent
  zones := ⟨nofun, nofun, ⟨nofun, fun ⟨_, absent, _⟩ => nomatch absent⟩⟩
  registers := nofun
  responds session playerKey inside := by
    obtain ⟨recorded, found⟩ := OrderedMap.mem_keys_iff.mp inside
    rw [MatchSession.find?_initialAcceptInfos] at found
    split_ifs at found with member
    exact member
  completions := nofun

/-- A change of the status records no response. -/
theorem MatchSession.playerMatchAcceptInfos_changeStatus (session : MatchSession)
    (status : MatchTicketStatus) (state : MatchSessionState) (statuses : TicketStatuses) :
    (session.changeStatus status state statuses).2.1.playerMatchAcceptInfos =
      state.playerMatchAcceptInfos := by
  rw [changeStatus]
  split_ifs
  · rfl
  · split
    · rfl
    · split <;> rfl

/-- A response is recorded for a player who is asked already. -/
theorem MatchSessionState.mem_players_acceptPlayerSession {state : MatchSessionState}
    {acceptInfo : PlayerMatchAcceptInfo} {playerKey : PlayerKey} :
    playerKey ∈ (state.acceptPlayerSession acceptInfo).2.players.elements ↔
      playerKey ∈ state.players.elements := by
  rw [acceptPlayerSession]
  split
  · rfl
  · next recorded found =>
      split_ifs
      · rfl
      · refine OrderedMap.mem_keys_iff.trans (Iff.trans ?_ OrderedMap.mem_keys_iff.symm)
        simp only [OrderedMap.find?_insertOrAssign]
        by_cases own : playerKey = acceptInfo.playerKey
        · simp [own, found]
        · simp [own]

theorem mem_players_perform {step : Section} {world : World} {session : MatchSession}
    {playerKey : PlayerKey} :
    playerKey ∈ ((perform step world).sessionState session).players.elements ↔
      playerKey ∈ (world.sessionState session).players.elements := by
  cases step with
  | forceSessionStatus other status =>
      by_cases own : session = other
      · subst own
        simp only [perform, World.withSessionState_sessionState, Function.update_self]
        rfl
      · simp [perform, own]
  | changeSessionStatus other status =>
      by_cases own : session = other
      · subst own
        simp [perform, World.changeSessionStatus, MatchSessionState.players,
          MatchSession.playerMatchAcceptInfos_changeStatus]
      · simp [perform, own]
  | acceptPlayerSession other acceptInfo =>
      by_cases own : session = other
      · subst own
        simp [perform, MatchSessionState.mem_players_acceptPlayerSession]
      · simp [perform, own]
  | nextIntegrationWorldNo worldGroupNo =>
      simp only [perform]
      split_ifs <;> rfl
  | _ => rfl

theorem World.Responds.perform {world : World} (responds : world.Responds) (step : Section) :
    (perform step world).Responds :=
  fun session playerKey inside => responds session playerKey (mem_players_perform.mp inside)

/-- A completion that was scheduled is for players whom only its session holds. -/
theorem World.Originates.completes {world : World} (single : world.SingleEngagement)
    {info : IntegrationZoneInstanceInfo} (originates : world.Originates info) :
    world.Completes info := by
  intro session stored _ playerKey inside
  obtain ⟨origin, -, players, only, -⟩ := originates
  rw [only session stored] at stored
  have own : world.Holds playerKey (.session info.matchId) :=
    ⟨origin, stored, players playerKey inside⟩
  refine ⟨fun key hosts => ?_, fun _ holder holds => single playerKey holder _ holds own⟩
  have hosted : world.Holds playerKey (.zone key) := hosts
  cases single playerKey _ _ own hosted

theorem AsyncJobQueue.mem_of_takeJob {Job : Type} {queue : AsyncJobQueue Job} {timeMsec : Nat}
    {job : Job} (taken : (queue.takeJob timeMsec).1 = some job) :
    ∃ executeTimeMsec, (executeTimeMsec, job) ∈ queue := by
  cases queue with
  | nil => cases taken
  | cons entry rest =>
      rw [takeJob] at taken
      split_ifs at taken
      cases taken
      exact ⟨entry.1, List.mem_cons_self⟩

section Registrations

variable {before after : World} (leaves : before.LeavesEngaged after)

include leaves

/-- Sessions and zones that stay the same hold the same players. -/
theorem World.LeavesEngaged.holds (indexed : before.ZonesIndexed) {playerKey : PlayerKey}
    {holder : Holder} (holds : after.Holds playerKey holder)
    (elsewhere : ∀ queue id, holder ≠ .ticket queue id) : before.Holds playerKey holder := by
  cases holder with
  | ticket queue id => exact (elsewhere queue id rfl).elim
  | session matchId =>
      rw [World.Holds, leaves.matchSessions] at holds
      exact holds
  | zone key =>
      exact (indexed.recede_of_eq leaves.zones leaves.playerSessions
        leaves.zoneInstanceCount).hosts holds

/-- The managers register nothing. -/
theorem World.SingleEngagement.of_tickets (single : before.SingleEngagement)
    (indexed : before.ZonesIndexed)
    (tickets : ∀ {queue id ticket}, (after.tickets queue).items id = some ticket →
      (before.tickets queue).items id = some ticket) : after.SingleEngagement := by
  have earlier : ∀ {playerKey holder}, after.Holds playerKey holder →
      before.Holds playerKey holder := by
    intro playerKey holder holds
    cases holder with
    | ticket queue id => exact holds.imp fun _ present => ⟨tickets present.1, present.2⟩
    | _ => exact leaves.holds indexed holds (by rintro _ _ ⟨⟩)
  exact fun playerKey first second inFirst inSecond =>
    single playerKey first second (earlier inFirst) (earlier inSecond)

/-- A manager registers a ticket of players whom no index knows. -/
theorem World.SingleEngagement.register (single : before.SingleEngagement)
    (indexed : before.Indexed) {queue : QueueKind} {ticket : MatchTicket}
    (tickets : after.tickets = Function.update before.tickets queue
      ((before.tickets queue).extend MatchTicket.matchTicketId MatchTicket.players ticket))
    (unengaged : ∀ playerKey ∈ ticket.players, before.Unengaged playerKey) :
    after.SingleEngagement := by
  apply single.admit (.ticket queue ticket.matchTicketId) (· ∈ ticket.players)
  · intro playerKey holder holds
    cases holder with
    | ticket owner id =>
        obtain ⟨other, present, inside⟩ := holds
        rw [tickets] at present
        rcases stored_of_extend present with ⟨rfl, rfl, rfl⟩ | earlier
        · exact Or.inr ⟨rfl, inside⟩
        · exact Or.inl ⟨other, earlier, inside⟩
    | _ => exact Or.inl (leaves.holds indexed.zones holds (by rintro _ _ ⟨⟩))
  · exact fun joins _ present => (unengaged _ joins).not_holds indexed _ present

end Registrations

section Calls

variable {deployment : Deployment} {world : World} {call : Call}

theorem Call.precedes (deployment : Deployment) (call : Call) (world : World) :
    world.Precedes (call.complete deployment world) :=
  Program.run_invariant perform
    (fun step current precedes => precedes.trans (precedes_perform step current)) _
    (World.Precedes.refl world)

variable (reached : Reached deployment Call.ServerIssued world) (orderly : world.Orderly)

include reached orderly

theorem World.Orderly.indexed : world.Indexed := by
  obtain ⟨_, _, execution⟩ := reached.interleaved
  exact ⟨reached.ticketsConsistent, execution.matchSessions_consistent, orderly.zones⟩

variable (issued : call.ServerIssued)

include issued

/-- What is left to show for a call. -/
theorem World.Orderly.next (single : (call.complete deployment world).SingleEngagement)
    (zones : (call.complete deployment world).ZonesIndexed)
    (fresh : ∀ {queue ticket}, (call.complete deployment world).Made queue ticket →
      world.Made queue ticket ∨ (call.complete deployment world).Registers queue ticket)
    (sessions : ∀ {id session},
      (call.complete deployment world).matchSessions.items id = some session →
      world.matchSessions.items id = some session ∨ ∃ queue ticket, world.Made queue ticket ∧
        ticket.matchTicketId = id ∧ world.ticketStatus ticket = .queued)
    (completions : ∀ {dueTimeMsec info},
      (dueTimeMsec, .complete info) ∈ (call.complete deployment world).sessionJobs →
      (dueTimeMsec, .complete info) ∈ world.sessionJobs ∨
        (call.complete deployment world).Originates info) :
    (call.complete deployment world).Orderly := by
  obtain ⟨sound, settled⟩ := reached.settled
  have precedes := call.precedes deployment world
  refine ⟨single, zones, fun made => ?_, ?_, fun pending => ?_⟩
  · rcases fresh made with earlier | registers
    · exact Call.keepsQueued issued sound settled earlier orderly.registers
    · exact registers
  · exact Program.run_invariant perform (fun step _ responds => responds.perform step) _
      orderly.responds
  · rcases completions pending with earlier | originates
    · obtain ⟨origin, same, players, only, queue, ticket, made, named, departed⟩ :=
        orderly.completions earlier
      refine ⟨origin, same, players, fun session stored => ?_, queue, ticket, precedes.made made,
        named, precedes.departed departed⟩
      rcases sessions stored with before | ⟨owner, other, madeOther, id, queued⟩
      · exact only session before
      · obtain ⟨-, rfl⟩ := sound.eq_of_matchTicketId (fun _ issued => issued) madeOther made
          (id.trans named.symm)
        rw [queued] at departed
        cases departed
    · exact originates

theorem World.Orderly.conserve (conserves : world.Conserves (call.complete deployment world)) :
    (call.complete deployment world).Orderly := by
  refine orderly.next reached issued (conserves.single orderly.single) conserves.zones
    (fun made => Or.inl ?_) (fun stored => Or.inl (conserves.sessions stored))
    (fun pending => Or.inl (conserves.completions pending))
  rw [World.Made, conserves.matchTickets] at made
  exact made

/-- A submission for players whom no index knows if it is admitted. -/
theorem World.Orderly.submit {submission : Submission} {request : MatchTicketRequest}
    (run : call.complete deployment world =
      ((submission.operation deployment request).run perform world).2)
    (engages : submission.Passes deployment world request →
      ∀ playerKey ∈ request.players.elements, world.Unengaged playerKey) :
    (call.complete deployment world).Orderly := by
  rcases submission.cases orderly.zones request with recedes | ⟨checked, submitted⟩
  · apply orderly.conserve reached issued
    rw [run]
    exact recedes.conserves
  rw [submitted] at run
  have leaves := leavesEngaged_submit deployment submission.queue request world
  obtain ⟨sound, -⟩ := reached.settled
  have entries := submit_cases sound submission.queue request
  rw [← run] at leaves entries
  have indexed := orderly.indexed reached
  have making : world.ZonesRecede (perform (.newMatchTicket submission.queue request.worldNo
      request) world) := orderly.zones.recede_of_eq rfl rfl rfl
  have begun : (perform (.newMatchTicket submission.queue request.worldNo request)
      world).Indexed := ⟨indexed.tickets, indexed.sessions, making.zones⟩
  set ticket := world.newMatchTicket request.worldNo request
  have zones : world.ZonesRecede (call.complete deployment world) :=
    orderly.zones.recede_of_eq leaves.zones leaves.playerSessions leaves.zoneInstanceCount
  have made : ∀ {queue other}, (call.complete deployment world).Made queue other →
      queue = submission.queue ∧ other = ticket ∨ world.Made queue other := by
    intro queue other made
    rw [World.Made, leaves.matchTickets] at made
    exact (List.mem_cons.mp made).imp_left Prod.mk.inj
  have sessions : ∀ {id session},
      (call.complete deployment world).matchSessions.items id = some session →
      world.matchSessions.items id = some session := by
    rw [leaves.matchSessions]
    exact id
  have completions : ∀ {dueTimeMsec info},
      (dueTimeMsec, .complete info) ∈ (call.complete deployment world).sessionJobs →
      (dueTimeMsec, .complete info) ∈ world.sessionJobs := by
    rw [leaves.sessionJobs]
    exact id
  rcases entries with ⟨unqueued, erased⟩ | ⟨served, fresh, tickets⟩
  · refine orderly.next reached issued ?_ zones.zones (fun isMade => ?_)
      (fun stored => Or.inl (sessions stored)) (fun pending => Or.inl (completions pending))
    · refine World.SingleEngagement.of_tickets leaves orderly.single begun.zones
        fun {queue id other} stored => ?_
      rw [erased] at stored
      by_cases own : queue = submission.queue
      · subst own
        rw [Function.update_self] at stored
        exact (Registry.stored_of_erase _ _ stored).2
      · rw [Function.update_of_ne own] at stored
        exact stored
    · rcases made isMade with ⟨rfl, rfl⟩ | earlier
      · exact Or.inr fun queued => (unqueued queued).elim
      · exact Or.inl earlier
  · have players : ticket.players = request.players.elements := world.newMatchTicket_players ..
    have unengaged := engages ⟨checked, served, fun playerKey inside =>
      fresh.unowned playerKey (players ▸ inside)⟩
    refine orderly.next reached issued (World.SingleEngagement.register leaves orderly.single
      begun tickets fun playerKey inside => ?_) zones.zones (fun isMade => ?_)
      (fun stored => Or.inl (sessions stored)) (fun pending => Or.inl (completions pending))
    · obtain ⟨unticketed, unseated, unhosted⟩ := unengaged playerKey (players ▸ inside)
      exact ⟨unticketed, unseated, unhosted⟩
    · rcases made isMade with ⟨rfl, rfl⟩ | earlier
      · refine Or.inr fun _ => ?_
        rw [tickets, Function.update_self]
        exact Function.update_self ..
      · exact Or.inl earlier

omit orderly in
/-- The tickets a call hands over were queued. -/
theorem queued_of_handsOver {key : MatchmakingGroupKey} {tickets : TicketSet} {before : World}
    (hands : call.HandsOver deployment world key tickets before) :
    ∀ ticket ∈ tickets.1, ∀ queue, world.Made queue ticket →
      world.ticketStatus ticket = .queued := by
  intro ticket inside queue made
  obtain ⟨-, settled⟩ := reached.settled
  obtain ⟨-, -, -, searching, -⟩ := hands.claimed reached issued
  obtain ⟨executed, member, -, rfl⟩ := hands
  have precedes : world.Precedes executed.before := Program.invariant_of_mem_trace
    (fun step _ precedes => precedes.trans (precedes_perform step _)) _
    (World.Precedes.refl world) executed member
  have advances := precedes.advances ticket
  rw [searching ticket inside] at advances
  rcases advances.searching_of with claimed | unqueued | queued
  · exact (List.not_mem_nil ((settled.seated.searching ticket).mp claimed)).elim
  · cases settled.prompt queue ticket made unqueued
  · exact queued

/-- A call that hands over tickets whose managers the session manager presumes rightly. -/
theorem World.Orderly.handOver (leads : LeadsToCreation (call.program deployment))
    (presumed : ∀ key tickets before, call.HandsOver deployment world key tickets before →
      ∀ ticket ∈ tickets.1, world.Made ticket.presumedQueue ticket) :
    (call.complete deployment world).Orderly := by
  rcases leads world orderly.zones with recedes | ⟨key, tickets, before, recedes, hands, run⟩
  · exact orderly.conserve reached issued recedes.conserves
  have hands : call.HandsOver deployment world key tickets before := hands
  obtain ⟨-, -, integrated, searching, -⟩ := hands.claimed reached issued
  have made := presumed key tickets before hands
  have queued := fun ticket inside =>
    queued_of_handsOver reached issued hands ticket inside _ (made ticket inside)
  have single := MatchSessionManager.single_createMatchSession orderly.single recedes
    (fun ticket inside => orderly.registers (made ticket inside) (queued ticket inside))
    integrated searching
  rcases MatchSessionManager.createMatchSession_cases recedes.zones key tickets with
    receded | ⟨session, middle, -, named, opened, announced⟩
  · apply orderly.conserve reached issued
    rw [Call.complete, run]
    exact (recedes.trans receded).conserves
  · have earlier := recedes.trans opened
    rw [← run] at single announced
    refine orderly.next reached issued single announced.zones (fun isMade => Or.inl ?_)
      (fun stored => ?_)
      (fun pending => Or.inl (earlier.completions (announced.completions pending)))
    · rw [World.Made, Call.complete, announced.matchTickets] at isMade
      rw [World.Made, ← earlier.matchTickets]
      exact isMade
    · rcases Registry.eq_or_stored_of_insert _ _ (announced.sessions stored) with
        ⟨rfl, -⟩ | before
      · obtain ⟨ticket, first, id⟩ := Option.map_eq_some_iff.mp named
        have inside := List.mem_of_mem_head? first
        exact Or.inr ⟨_, ticket, made ticket inside, id, queued ticket inside⟩
      · exact Or.inl (earlier.sessions before)

/-- A response: the last acceptance schedules the completion of its own session. -/
theorem World.Orderly.accept {jobs : AsyncJobQueue SessionJob}
    {acceptInfo : PlayerMatchAcceptInfo} (recedes : world.Recedes (world.withSessionJobs jobs))
    (run : call.complete deployment world =
      ((MatchSessionManager.acceptMatchSession acceptInfo).run perform
        (world.withSessionJobs jobs)).2) :
    (call.complete deployment world).Orderly := by
  rcases MatchSessionManager.acceptMatchSession_cases recedes.zones acceptInfo with
    receded | ⟨session, counts, -, placed⟩
  · apply orderly.conserve reached issued
    rw [run]
    exact (recedes.trans receded).conserves
  obtain ⟨sound, -⟩ := reached.settled
  have precedes := call.precedes deployment world
  have inStep := reached.inStep.withSessionJobs jobs
  have found := counts.found inStep
  generalize state : MatchSessionManager.recorded (world.withSessionJobs jobs) acceptInfo session =
    recorded at placed
  have recorded_recedes : world.Recedes recorded := by
    rw [← state]
    exact recedes.trans (MatchSessionManager.recedes_recorded recedes.zones acceptInfo session)
  have stays : recorded.InStep := by
    rw [← state]
    exact (World.SessionMove.record found
      (MatchSessionState.acceptPlayerSession_status _ _)).inStep inStep
  have still : recorded.matchSessions.items session.matchId = some session := by
    rw [← state]
    exact found
  have asks : (recorded.sessionState session).status = .requiresAcceptance := by
    rw [← state, MatchSessionManager.recorded, World.withSessionState_sessionState,
      Function.update_self, MatchSessionState.acceptPlayerSession_status]
    exact counts.asks
  rw [placed, MatchSessionManager.run_placeMatchSession stays still asks] at run
  have holds : ∀ {playerKey holder}, (call.complete deployment world).Holds playerKey holder →
      world.Holds playerKey holder := by
    rw [run]
    intro playerKey holder holds
    apply recorded_recedes.holds
    cases holder <;> exact holds
  refine orderly.next reached issued (fun playerKey first second inFirst inSecond =>
    orderly.single playerKey first second (holds inFirst) (holds inSecond)) ?_
    (fun made => Or.inl ?_) (fun stored => Or.inl ?_) (fun pending => ?_)
  · rw [run]
    have kept : recorded.ZonesRecede (recorded.placed session) :=
      recorded_recedes.zones.recede_of_eq rfl rfl rfl
    exact kept.zones
  · rw [run] at made
    rw [World.Made, ← recorded_recedes.matchTickets]
    exact made
  · rw [run] at stored
    exact recorded_recedes.sessions stored
  · rw [run] at pending
    rcases mem_insertMulti.mp pending with added | earlier
    · cases added
      have responds : recorded.Responds := by
        have waits : (world.withSessionJobs jobs).Responds := orderly.responds
        rw [← state]
        exact waits.perform (.acceptPlayerSession session acceptInfo)
      obtain ⟨ticket, inside, named⟩ := (stays.whole _ session still).named
      have engaged := sound.seated session.matchId session found ticket inside
      obtain ⟨queue, made⟩ := sound.started ticket (by
        intro unmade
        rw [unmade] at engaged
        cases engaged)
      refine Or.inr ⟨session, rfl, responds session, fun other stored => ?_, queue, ticket,
        precedes.made made, named,
        precedes.departed (MatchTicketStatus.departed_of_engaged engaged)⟩
      rw [run] at stored
      exact Option.some.inj (stored.symm.trans still)
    · rcases mem_insertMulti.mp earlier with added | earlier
      · cases added
      · exact Or.inl (recorded_recedes.completions earlier)

/-- A run of the worker of the session manager. -/
theorem World.Orderly.sessionWorkerRun (own : call = .sessionWorkerRun) :
    (call.complete deployment world).Orderly := by
  have run : call.complete deployment world =
      (MatchmakingMvp.sessionWorkerRun.run perform world).2 := by
    rw [own]
    rfl
  have recedes : world.Recedes (perform .takeSessionJob world) :=
    orderly.zones.recedes_perform rfl
  rw [run_sessionWorkerRun] at run
  cases taken : world.sessionJobs.takeJob world.timeMsec with
  | mk job rest =>
      have effect : perform .takeSessionJob world = world.withSessionJobs rest := by
        rw [perform, taken]
        rfl
      rw [effect] at recedes
      rw [taken] at run
      cases job with
      | none =>
          apply orderly.conserve reached issued
          rw [run]
          exact recedes.conserves
      | some job =>
          cases job with
          | timeOutAccept matchId =>
              apply orderly.conserve reached issued
              rw [run]
              exact (recedes.trans (MatchSessionManager.recedes_onTimeOutAcceptMatchSession matchId
                _ recedes.zones)).conserves
          | accept playerKey => exact orderly.accept reached issued recedes run
          | timeOutPlace matchId =>
              apply orderly.conserve reached issued
              rw [run]
              exact (recedes.trans (MatchSessionManager.recedes_onTimeOutPlaceMatchSession matchId
                _ recedes.zones)).conserves
          | complete info =>
              obtain ⟨_, pending⟩ := AsyncJobQueue.mem_of_takeJob (congrArg Prod.fst taken)
              have completes := (orderly.completions pending).completes orderly.single
              apply orderly.conserve reached issued
              rw [run]
              exact recedes.conserves.trans (MatchSessionManager.conserves_onCompleteMatchSession
                recedes.zones fun _ => completes)

end Calls

/-! ## Runs -/

/-- The submission a call makes. -/
def Call.submission : Call → Option (Submission × MatchTicketRequest)
  | .soloStartMatchmaking request => some (.soloStartMatchmaking, request)
  | .partyStartMatchmaking request => some (.partyStartMatchmaking, request)
  | .startMatchBackfill request => some (.startMatchBackfill, request)
  | _ => none

theorem Call.complete_submission {deployment : Deployment} {world : World} {call : Call}
    {submission : Submission} {request : MatchTicketRequest}
    (submits : call.submission = some (submission, request)) :
    call.complete deployment world =
      ((submission.operation deployment request).run perform world).2 := by
  cases call with
  | soloStartMatchmaking | partyStartMatchmaking =>
      cases submits
      simp only [Call.complete, Call.program, Submission.operation, Program.run_bind,
        Program.run_pure]
  | startMatchBackfill =>
      cases submits
      simp only [Call.complete, Call.program, Submission.operation, Program.run_bind,
        Program.run_map, Program.run_pure]
  | _ => cases submits

/-- The call engages nobody twice: a request that passes the checks names players whom no
index knows, tickets that are handed over were made by the managers they are presumed to be
of, and a completion from outside is for players of its own session. -/
structure Call.Considerate (deployment : Deployment) (call : Call) (world : World) : Prop where
  submits : ∀ submission request, call.submission = some (submission, request) →
    submission.Passes deployment world request →
      ∀ playerKey ∈ request.players.elements, world.Unengaged playerKey
  hands : ∀ key tickets before, call.HandsOver deployment world key tickets before →
    ∀ ticket ∈ tickets.1, world.Made ticket.presumedQueue ticket
  completes : ∀ info, call = .onCompleteMatchSession info true → world.Completes info

theorem World.Orderly.call {deployment : Deployment} {world : World} (orderly : world.Orderly)
    (reached : Reached deployment Call.ServerIssued world) {call : Call}
    (issued : call.ServerIssued) (considerate : call.Considerate deployment world) :
    (call.complete deployment world).Orderly := by
  have recede : MatchmakingMvp.Recedes (call.program deployment) →
      (call.complete deployment world).Orderly :=
    fun recedes => orderly.conserve reached issued (recedes world orderly.zones).conserves
  cases call with
  | tick timeMsec => exact recede (recedes_atomically rfl _)
  | soloStartMatchmaking request =>
      exact orderly.submit reached issued (Call.complete_submission rfl)
        (considerate.submits _ _ rfl)
  | soloStopMatchmaking playerKey applyDodgePenalty =>
      exact recede ((SoloMatchmakingManager.recedes_stopMatchmaking deployment playerKey
        applyDodgePenalty).bind fun _ => recedes_pure ())
  | soloWorkerRun key workerId order =>
      exact orderly.handOver reached issued
        (leadsToCreation_soloWorkerRun deployment key workerId order) considerate.hands
  | partyStartMatchmaking request =>
      exact orderly.submit reached issued (Call.complete_submission rfl)
        (considerate.submits _ _ rfl)
  | partyStopMatchmaking playerKey =>
      exact recede ((PartyMatchmakingManager.recedes_stopMatchmaking deployment playerKey).bind
        fun _ => recedes_pure ())
  | startMatchBackfill request =>
      exact orderly.submit reached issued (Call.complete_submission rfl)
        (considerate.submits _ _ rfl)
  | stopMatchBackfill matchTicketId =>
      exact recede (PartyMatchmakingManager.recedes_stopMatchBackfill deployment matchTicketId)
  | partyWorkerRun key workerId countOrder order =>
      exact orderly.handOver reached issued
        (leadsToCreation_partyWorkerRun deployment key workerId countOrder order)
        considerate.hands
  | expandMatchmakingWorkerSlots key =>
      apply recede
      rw [Call.program, onGroup]
      cases deployment.getWorkerGroup .party key with
      | none => exact recedes_pure ()
      | some group => exact recedes_atomically rfl _
  | acceptMatchSession acceptInfo =>
      have same : world.Recedes (world.withSessionJobs world.sessionJobs) :=
        recedes_pure () world orderly.zones
      exact orderly.accept reached issued same rfl
  | onTimeOutAcceptMatchSession matchId =>
      exact recede (MatchSessionManager.recedes_onTimeOutAcceptMatchSession matchId)
  | onTimeOutPlaceMatchSession matchId =>
      exact recede (MatchSessionManager.recedes_onTimeOutPlaceMatchSession matchId)
  | onFailedMatchSession matchId =>
      exact recede (MatchSessionManager.recedes_onFailedMatchSession matchId)
  | onCompleteMatchSession info success =>
      apply orderly.conserve reached issued
      exact MatchSessionManager.conserves_onCompleteMatchSession orderly.zones fun succeeded =>
        considerate.completes info (by rw [succeeded])
  | sessionWorkerRun => exact orderly.sessionWorkerRun reached issued rfl
  | penaltyWorkerRun => exact recede recedes_penaltyWorkerRun
  | zoneWorkerRun => exact recede recedes_zoneWorkerRun
  | playerLogin playerKey => exact recede (recedes_processPlayerLogin deployment playerKey)
  | playerLeave playerKey isDodge =>
      exact recede ((IntegrationZoneInstanceManager.recedes_processPlayerLeaveToIntegrationServer
        playerKey isDodge).bind fun _ => recedes_pure ())
  | playerLeaved playerKey isDodge =>
      exact recede (IntegrationZoneInstanceManager.recedes_processPlayerLeavedFromIntegrationServer
        playerKey isDodge)
  | zoneUpdated key =>
      exact recede (IntegrationZoneInstanceManager.recedes_processZoneInstanceInfoUpdated key)
  | zoneTerminated info =>
      exact recede (IntegrationZoneInstanceManager.recedes_processZoneInstanceTerminated info)
  | integrationServerClosed sessionKey worldNo =>
      exact recede (IntegrationZoneInstanceManager.recedes_processIntegrationServerClosed
        sessionKey worldNo)

/-- A server-issued, considerate call. -/
def Call.EngagesOnce (deployment : Deployment) (call : Call) (world : World) : Prop :=
  call.ServerIssued ∧ call.Considerate deployment world

theorem ReachedWhere.orderly {deployment : Deployment} {world : World}
    (reached : ReachedWhere deployment (Call.EngagesOnce deployment) world) : world.Orderly := by
  induction reached with
  | start => exact .initial
  | @call world before call meets ih =>
      exact ih.call (before.reached deployment fun _ _ => And.left) meets.1 meets.2

/-- **Single engagement.** In every run of complete calls with server-issued ids, each of
which is considerate where it is made, a player is held by one ticket of one manager, by one
registered session or by one zone at most, in every state. If the next call enqueues its
ticket, nothing holds a player of the request before. -/
theorem single_engagement_of_considerate {deployment : Deployment} {world : World}
    (reached : ReachedWhere deployment (Call.EngagesOnce deployment) world) :
    world.SingleEngagement ∧ ∀ (call : Call) (submission : Submission)
      (request : MatchTicketRequest), call.EngagesOnce deployment world →
      call.submission = some (submission, request) →
      (call.complete deployment world).ticketStatus
        (world.newMatchTicket request.worldNo request) = .queued →
      ∀ playerKey ∈ request.players.elements, ∀ holder, ¬ world.Holds playerKey holder := by
  have orderly := reached.orderly
  have before : Reached deployment Call.ServerIssued world :=
    reached.reached deployment fun _ _ => And.left
  refine ⟨orderly.single, fun call submission request meets submits queued playerKey inside => ?_⟩
  obtain ⟨sound, -⟩ := before.settled
  have run : call.complete deployment world = _ := Call.complete_submission submits
  rcases submission.cases orderly.zones request with recedes | ⟨checked, submitted⟩
  · obtain ⟨after, -⟩ := (before.call call meets.1).settled
    obtain ⟨queue, made⟩ := after.started _ (by rw [queued]; exact nofun)
    rw [run, World.Made, recedes.matchTickets] at made
    exact (sound.newMatchTicket_not_made queue _ request made).elim
  · have entries := submit_cases sound submission.queue request
    rw [submitted] at run
    rw [← run] at entries
    rcases entries with ⟨unqueued, -⟩ | ⟨served, fresh, -⟩
    · exact (unqueued queued).elim
    · have unengaged := meets.2.submits submission request submits ⟨checked, served,
        fun player member => fresh.unowned player
          ((world.newMatchTicket_players request.worldNo request).symm ▸ member)⟩
      exact (unengaged playerKey inside).not_holds (orderly.indexed before)

theorem Call.hands_of_trace {deployment : Deployment} {call : Call} {world : World}
    (presumed : ∀ executed ∈ (call.program deployment).trace perform world,
      ∀ ticket ∈ executed.command.handed, (ticket.presumedQueue, ticket) ∈ world.matchTickets) :
    ∀ key tickets before, call.HandsOver deployment world key tickets before →
      ∀ ticket ∈ tickets.1, world.Made ticket.presumedQueue ticket := by
  rintro key tickets before ⟨executed, inside, enters, -⟩ ticket member
  refine presumed executed inside ticket ?_
  rw [enters]
  exact member

/-- A request of players whom no index knows is considerate. -/
theorem Call.engagesOnce_of_unengaged {deployment : Deployment} {call : Call} {world : World}
    {submission : Submission} {request : MatchTicketRequest}
    (submits : call.submission = some (submission, request)) (issued : call.ServerIssued)
    (presumed : ∀ executed ∈ (call.program deployment).trace perform world,
      ∀ ticket ∈ executed.command.handed, (ticket.presumedQueue, ticket) ∈ world.matchTickets)
    (unengaged : ∀ playerKey ∈ request.players.elements, world.Unengaged playerKey) :
    call.EngagesOnce deployment world := by
  refine ⟨issued, fun other request' submits' _ playerKey inside => ?_, Call.hands_of_trace
    presumed, fun info completes => ?_⟩
  · obtain ⟨-, rfl⟩ := Prod.mk.inj (Option.some.inj (submits.symm.trans submits'))
    exact unengaged playerKey inside
  · rw [completes] at submits
    cases submits

theorem pairMatchWorld_engagesOnce :
    ReachedWhere pairDeployment (Call.EngagesOnce pairDeployment) pairMatchWorld := by
  refine .call (.call (.call .start _ ?_) _ ?_) _ ?_
  · exact Call.engagesOnce_of_unengaged rfl (by decide) (by decide +kernel) (by decide +kernel)
  · exact Call.engagesOnce_of_unengaged rfl (by decide) (by decide +kernel) (by decide +kernel)
  · exact ⟨by decide, nofun, Call.hands_of_trace (by decide +kernel), nofun⟩

/-- Nothing but their session holds the two players, and nothing holds a third, whose solo
request is queued next. -/
theorem single_engagement_pair :
    pairMatchWorld.SingleEngagement ∧ pairMatchWorld.Holds 1 (.session 1000) ∧
      pairMatchWorld.Holds 2 (.session 1000) ∧
      ∀ playerKey ∈ (soloRequest 3).players.elements, ∀ holder,
        ¬ pairMatchWorld.Holds playerKey holder := by
  obtain ⟨single, starts⟩ := single_engagement_of_considerate pairMatchWorld_engagesOnce
  have reached := pairMatchWorld_engagesOnce.reached pairDeployment fun _ _ => And.left
  have indexed := pairMatchWorld_engagesOnce.orderly.indexed reached
  refine ⟨single, indexed.sessions.indexed.mp (by decide +kernel),
    indexed.sessions.indexed.mp (by decide +kernel), ?_⟩
  exact starts (.soloStartMatchmaking (soloRequest 3)) _ (soloRequest 3)
    (Call.engagesOnce_of_unengaged rfl (by decide) (by decide +kernel) (by decide +kernel))
    rfl (by decide +kernel)

/-- Player 1 queues alone, and then as a party of one. -/
def twiceQueuedWorld : World :=
  completeAll soleMatchDeployment
    [.soloStartMatchmaking (soloRequest 1), .partyStartMatchmaking (soleRequest 1)] {}

/-- Both managers have a queued ticket of the player. -/
theorem player_engaged_twice :
    Reached soleMatchDeployment Call.ServerIssued twiceQueuedWorld ∧
      ¬ twiceQueuedWorld.SingleEngagement := by
  have reached : Reached soleMatchDeployment Call.ServerIssued twiceQueuedWorld :=
    Reached.completeAll _ .start (by decide)
  refine ⟨reached, fun single => ?_⟩
  have solo : (twiceQueuedWorld.tickets .solo).owner 1 = some 1000 := by decide +kernel
  have party : (twiceQueuedWorld.tickets .party).owner 1 = some 1001 := by decide +kernel
  have inSolo : twiceQueuedWorld.Holds 1 (.ticket .solo 1000) :=
    (reached.ticketsConsistent .solo).indexed.mp solo
  have inParty : twiceQueuedWorld.Holds 1 (.ticket .party 1001) :=
    (reached.ticketsConsistent .party).indexed.mp party
  cases single 1 _ _ inSolo inParty

end MatchmakingMvp
