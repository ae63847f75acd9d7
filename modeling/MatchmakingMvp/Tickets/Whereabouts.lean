import MatchmakingMvp.System.Seats

/-! # Where tickets are

Between complete operations every ticket is in exactly one place, which its
status names: a waiting structure of its worker group, or the ticket list of a
registered session, or nowhere once its status is final
(`MatchmakingMvp.ticket_in_one_place`).
-/

namespace MatchmakingMvp

open Foundation

/-- The queue keeps a request of the ticket under an id. -/
def WaitingQueue.Keeps (queue : WaitingQueue) (id : MatchTicketId) (ticket : MatchTicket) : Prop :=
  ∃ request, queue.find? id = some request ∧ request.matchTicketPtr = some ticket

/-- The worker's queue or one of its buckets keeps the ticket. -/
def PartyMatchmakingWorker.Mentions (worker : PartyMatchmakingWorker) (id : MatchTicketId)
    (ticket : MatchTicket) : Prop :=
  worker.waitingQueue.Keeps id ticket ∨
    ∃ playerCount, (worker.bucket playerCount).Keeps id ticket

/-- Where a ticket may be, with the id it is stored under. The workers of a party
group share a ticket. -/
inductive Place
  | soloWaiting (key : MatchmakingGroupKey) (index : Int) (id : MatchTicketId)
  | soloProgressing (key : MatchmakingGroupKey) (index : Int) (id : MatchTicketId)
  | partyGroup (key : MatchmakingGroupKey) (id : MatchTicketId)
  | session (matchId : MatchId)

def World.Occupies (world : World) (ticket : MatchTicket) : Place → Prop
  | .soloWaiting key index id => (world.soloWorkers key index).waitingQueue.Keeps id ticket
  | .soloProgressing key index id =>
      (world.soloWorkers key index).sendProgressingList.Keeps id ticket
  | .partyGroup key id =>
      ∃ index, ((world.partyGroups key).workers index).Mentions id ticket
  | .session matchId =>
      ∃ session, world.matchSessions.items matchId = some session ∧ ticket ∈ session.tickets

/-- A waiting structure of the worker group a ticket was made for. -/
def Place.WaitsFor (queue : QueueKind) (ticket : MatchTicket) : Place → Prop
  | .soloWaiting key _ _ | .soloProgressing key _ _ =>
      queue = .solo ∧ key = ticket.matchingGroupKey
  | .partyGroup key _ => queue = .party ∧ key = ticket.matchingGroupKey
  | .session _ => False

/-- The ticket is in the one place that agrees with its status. -/
structure World.Placed (world : World) (queue : QueueKind) (ticket : MatchTicket) : Prop where
  settled : world.ticketStatus ticket = .queued ∨ world.ticketStatus ticket = .requiresAcceptance ∨
    world.ticketStatus ticket = .placing ∨ (world.ticketStatus ticket).terminal = true
  waiting : world.ticketStatus ticket = .queued ↔
    ∃ place, place.WaitsFor queue ticket ∧ world.Occupies ticket place
  seated : world.ticketStatus ticket = .requiresAcceptance ∨ world.ticketStatus ticket = .placing ↔
    ∃ matchId, world.Occupies ticket (.session matchId)
  elsewhere : ∀ place, world.Occupies ticket place → place.WaitsFor queue ticket ∨
    ∃ matchId, place = .session matchId
  once : ∀ first second, world.Occupies ticket first → world.Occupies ticket second →
    first = second
  matchable : ∀ key index id, ((world.partyGroups key).workers index).Mentions id ticket →
    ((world.partyGroups key).workers index).waitingQueue.Keeps id ticket ∧ ∀ playerCount,
      (((world.partyGroups key).workers index).bucket playerCount).Keeps id ticket ↔
        playerCount = ticket.players.length

/-! ## What workers keep -/

section Workers

variable {held : MatchTicket → Prop} {ticket : MatchTicket} {id : MatchTicketId}

theorem WaitingQueue.Stores.keeps_iff {queue : WaitingQueue}
    (stores : WaitingQueue.Stores held queue) :
    queue.Keeps id ticket ↔ held ticket ∧ id = ticket.matchTicketId := by
  constructor
  · rintro ⟨request, found, pointer⟩
    obtain ⟨other, holds, same, rfl⟩ := (stores id request).mp found
    cases pointer
    exact ⟨holds, same⟩
  · rintro ⟨holds, rfl⟩
    exact ⟨_, stores.find?_of_stored holds, rfl⟩

theorem PartyMatchmakingWorker.Holds.bucket_keeps_iff {worker : PartyMatchmakingWorker}
    (holds : worker.Holds held) {playerCount : Int} :
    (worker.bucket playerCount).Keeps id ticket ↔
      (held ticket ∧ id = ticket.matchTicketId) ∧ playerCount = ticket.players.length := by
  rw [(holds.buckets playerCount).keeps_iff]
  exact and_right_comm

theorem PartyMatchmakingWorker.Holds.mentions_iff {worker : PartyMatchmakingWorker}
    (holds : worker.Holds held) :
    worker.Mentions id ticket ↔ held ticket ∧ id = ticket.matchTicketId := by
  rw [Mentions, holds.waiting.keeps_iff]
  constructor
  · rintro (inside | ⟨playerCount, bucketed⟩)
    · exact inside
    · exact (holds.bucket_keeps_iff.mp bucketed).1
  · exact Or.inl

end Workers

section Settled

variable {deployment : Deployment} {permits : MatchTicketRequest → Prop} {world : World}
  {queue : QueueKind} {key : MatchmakingGroupKey} {index : Int} {id : MatchTicketId}
  {ticket : MatchTicket}

/-- Requests are stored for groups that exist. -/
theorem World.Entry.served {request : MatchmakingRequest}
    (entry : world.Entry deployment queue key request) :
    ∃ group, deployment.getWorkerGroup queue key = some group := by
  obtain ⟨group, other, rfl, -, carried⟩ := entry
  refine ⟨group, ?_⟩
  rw [Deployment.getWorkerGroup_key carried.served]
  exact carried.served

variable (sound : world.Sound deployment permits) (settled : world.Settled deployment (.free none))

include settled

/-- Which tickets the sessions seat. -/
theorem World.Settled.session_seats (ticket : MatchTicket) :
    (world.ticketStatus ticket = .requiresAcceptance ∨ world.ticketStatus ticket = .placing ↔
      ∃ matchId, world.Occupies ticket (.session matchId)) := by
  have seated_iff : ∀ {status : MatchTicketStatus}, status.seated = true ↔
      status = .requiresAcceptance ∨ status = .placing := by
    intro status
    cases status <;> decide
  rw [← seated_iff]
  constructor
  · exact settled.seated.seats ticket
  · rintro ⟨matchId, session, found, inside⟩
    rw [settled.seated.agrees matchId session found ticket inside]
    exact settled.seated.expected matchId session found

include sound

/-- Which tickets the solo workers keep. -/
theorem World.Settled.solo_keeps (key : MatchmakingGroupKey) (index : Int) (id : MatchTicketId)
    (ticket : MatchTicket) :
    ((world.soloWorkers key index).waitingQueue.Keeps id ticket ∨
        (world.soloWorkers key index).sendProgressingList.Keeps id ticket ↔
      world.QueuedIn .solo key ticket ∧ id = ticket.matchTicketId ∧
        ∃ group, deployment.getWorkerGroup .solo key = some group ∧
          index = getWorkerIndex group.workerCount ticket.matchTicketId) ∧
    ¬ ((world.soloWorkers key index).waitingQueue.Keeps id ticket ∧
      (world.soloWorkers key index).sendProgressingList.Keeps id ticket) := by
  cases served : deployment.getWorkerGroup .solo key with
  | none =>
      have empty : ∀ request, ¬ world.Entry deployment .solo key request := fun request entry => by
        obtain ⟨group, served'⟩ := entry.served
        rw [served] at served'
        cases served'
      have waits : ¬ (world.soloWorkers key index).waitingQueue.Keeps id ticket :=
        fun ⟨request, found, _⟩ => empty request ((sound.solo key index).waiting id request found)
      have progresses : ¬ (world.soloWorkers key index).sendProgressingList.Keeps id ticket :=
        fun ⟨request, found, _⟩ =>
          empty request ((sound.solo key index).progressing id request found)
      simp [waits, progresses]
  | some group =>
      have keyed := Deployment.getWorkerGroup_key served
      subst keyed
      obtain ⟨progressing, waiting, sending⟩ := settled.solo.workers group served index
      rw [show world.soloWorkers group.workerGroupKey index = world.soloWorker group index from rfl,
        waiting.keeps_iff, sending.keeps_iff]
      have handed : world.HandedTo (.free none) group.workerGroupKey ticket ↔
          world.QueuedIn .solo group.workerGroupKey ticket := and_iff_left nofun
      simp only [handed, Option.some.injEq, exists_eq_left']
      constructor
      · by_cases busy : progressing ticket <;> simp only [busy] <;> tauto
      · tauto

/-- Which tickets the party workers keep. -/
theorem World.Settled.party_mentions :
    (((world.partyGroups key).workers index).Mentions id ticket ↔
      world.QueuedIn .party key ticket ∧ id = ticket.matchTicketId ∧
        ∃ group, deployment.getWorkerGroup .party key = some group ∧
          WorkerSlot.Covers (world.workerSlot ticket.matchmakingRequest) group.workerCount
            index) ∧
    (((world.partyGroups key).workers index).Mentions id ticket →
      ((world.partyGroups key).workers index).waitingQueue.Keeps id ticket ∧ ∀ playerCount,
        (((world.partyGroups key).workers index).bucket playerCount).Keeps id ticket ↔
          playerCount = ticket.players.length) := by
  cases served : deployment.getWorkerGroup .party key with
  | none =>
      have empty : ∀ request, ¬ world.Entry deployment .party key request :=
        fun request entry => by
          obtain ⟨group, served'⟩ := entry.served
          rw [served] at served'
          cases served'
      have nothing : ¬ ((world.partyGroups key).workers index).Mentions id ticket := by
        rintro (⟨request, found, -⟩ | ⟨playerCount, request, found, -⟩)
        · exact empty request (((sound.party key).workers index).waiting id request found)
        · exact empty request
            ((((sound.party key).workers index).bucket playerCount) id request found)
      simp [nothing]
  | some group =>
      have keyed := Deployment.getWorkerGroup_key served
      subst keyed
      have holds := settled.party.groups group served index
      rw [World.partyGroup] at holds
      rw [holds.mentions_iff, holds.waiting.keeps_iff]
      simp only [holds.bucket_keeps_iff, PartyMatchmakingWorkerGroup.InRange, Option.some.injEq,
        exists_eq_left']
      constructor
      · tauto
      · exact fun inside => ⟨inside, fun playerCount => and_iff_right inside⟩

/-- A ticket is kept by the one waiting structure it is assigned to, or by sessions. -/
theorem World.Settled.waiting_place (made : world.Made queue ticket) {place : Place}
    (occupies : world.Occupies ticket place) :
    (world.ticketStatus ticket = .queued ∧ ∃ group,
      deployment.getWorkerGroup queue ticket.matchingGroupKey = some group ∧
      (queue = .solo ∧ (place = .soloWaiting ticket.matchingGroupKey
            (getWorkerIndex group.workerCount ticket.matchTicketId) ticket.matchTicketId ∨
          place = .soloProgressing ticket.matchingGroupKey
            (getWorkerIndex group.workerCount ticket.matchTicketId) ticket.matchTicketId) ∨
        queue = .party ∧ place = .partyGroup ticket.matchingGroupKey ticket.matchTicketId)) ∨
      ∃ matchId, place = .session matchId := by
  have mine : ∀ {other}, world.Made other ticket → other = queue :=
    fun other => (sound.eq_of_serial other made rfl).1
  cases place with
  | soloWaiting key index id =>
      obtain ⟨⟨⟨owned, queued⟩, rfl⟩, rfl, group, served, rfl⟩ :=
        (settled.solo_keeps sound _ _ _ _).1.mp (Or.inl occupies)
      obtain rfl := mine owned
      exact Or.inl ⟨queued, group, served, Or.inl ⟨rfl, Or.inl rfl⟩⟩
  | soloProgressing key index id =>
      obtain ⟨⟨⟨owned, queued⟩, rfl⟩, rfl, group, served, rfl⟩ :=
        (settled.solo_keeps sound _ _ _ _).1.mp (Or.inr occupies)
      obtain rfl := mine owned
      exact Or.inl ⟨queued, group, served, Or.inl ⟨rfl, Or.inr rfl⟩⟩
  | partyGroup key id =>
      obtain ⟨index, mentions⟩ := occupies
      obtain ⟨⟨⟨owned, queued⟩, rfl⟩, rfl, group, served, -⟩ :=
        (settled.party_mentions sound).1.mp mentions
      obtain rfl := mine owned
      exact Or.inl ⟨queued, group, served, Or.inr ⟨rfl, rfl⟩⟩
  | session matchId => exact Or.inr ⟨matchId, rfl⟩

end Settled

/-- **Every ticket is in exactly one place, which agrees with its status.** In every
state between complete operations with server-issued ids, a ticket is in a waiting
structure of its own worker group if and only if it is queued, in the list of a
registered session if and only if the session waits for it or places it, and
otherwise its status is final and it is in neither. It is never in two places, and
where a party worker has it, every structure of the worker has it that should. -/
theorem ticket_in_one_place {deployment : Deployment} {world : World}
    (reached : Reached deployment Call.ServerIssued world) {queue : QueueKind}
    {ticket : MatchTicket} (made : world.Made queue ticket) : world.Placed queue ticket := by
  obtain ⟨sound, settled⟩ := reached.settled
  have waits : ∀ {place}, world.Occupies ticket place →
      (world.ticketStatus ticket = .queued ∧ place.WaitsFor queue ticket) ∨
        ∃ matchId, place = .session matchId := by
    intro place occupies
    rcases settled.waiting_place sound made occupies with ⟨queued, _, _, rest⟩ | session
    · refine Or.inl ⟨queued, ?_⟩
      rcases rest with ⟨rfl, rfl | rfl⟩ | ⟨rfl, rfl⟩ <;> exact ⟨rfl, rfl⟩
    · exact Or.inr session
  have seats := settled.session_seats ticket
  have unseated : ∀ {matchId}, world.ticketStatus ticket = .queued →
      ¬ world.Occupies ticket (.session matchId) := by
    intro matchId queued occupies
    have status := seats.mpr ⟨matchId, occupies⟩
    rw [queued] at status
    rcases status with status | status <;> cases status
  refine ⟨?_, ⟨fun queued => ?_, fun ⟨place, waiting, occupies⟩ => ?_⟩, seats,
    fun place occupies => (waits occupies).imp_left And.right,
    fun first second atFirst atSecond => ?_,
    fun key index id => (settled.party_mentions sound).2⟩
  · cases status : world.ticketStatus ticket with
    | none => cases settled.prompt queue ticket made status
    | searching => exact (List.not_mem_nil ((settled.seated.searching ticket).mp status)).elim
    | _ => decide
  · obtain ⟨group, served⟩ := sound.served queue ticket made queued
    cases queue with
    | solo =>
        rcases (settled.solo_keeps sound _ _ _ _).1.mpr
          ⟨⟨⟨made, queued⟩, rfl⟩, rfl, group, served, rfl⟩
          with keeps | keeps
        · exact ⟨.soloWaiting _ _ _, ⟨rfl, rfl⟩, keeps⟩
        · exact ⟨.soloProgressing _ _ _, ⟨rfl, rfl⟩, keeps⟩
    | party =>
        have reached := WorkerSlot.covers_min
          (settled.party.levels ticket.matchmakingRequest) group.hasWorkers
        exact ⟨.partyGroup _ _, ⟨rfl, rfl⟩, _, (settled.party_mentions sound).1.mpr
          ⟨⟨⟨made, queued⟩, rfl⟩, rfl, group, served, reached⟩⟩
  · rcases waits occupies with ⟨queued, -⟩ | ⟨matchId, rfl⟩
    · exact queued
    · exact waiting.elim
  · rcases settled.waiting_place sound made atFirst with
      ⟨queued, group, served, here⟩ | ⟨matchId, rfl⟩
    · rcases settled.waiting_place sound made atSecond with
        ⟨-, other, served', there⟩ | ⟨matchId, rfl⟩
      · rw [served, Option.some.injEq] at served'
        subst served'
        have apart := fun key index id =>
          (settled.solo_keeps sound key index id ticket).2
        rcases here with ⟨rfl, rfl | rfl⟩ | ⟨rfl, rfl⟩
        · rcases there with ⟨-, rfl | rfl⟩ | ⟨absurd, -⟩
          · rfl
          · exact (apart _ _ _ ⟨atFirst, atSecond⟩).elim
          · cases absurd
        · rcases there with ⟨-, rfl | rfl⟩ | ⟨absurd, -⟩
          · exact (apart _ _ _ ⟨atSecond, atFirst⟩).elim
          · rfl
          · cases absurd
        · rcases there with ⟨absurd, -⟩ | ⟨-, rfl⟩
          · cases absurd
          · rfl
      · exact (unseated queued atSecond).elim
    · rcases settled.waiting_place sound made atSecond with ⟨queued, -⟩ | ⟨other, rfl⟩
      · exact (unseated queued atFirst).elim
      · obtain ⟨session, found, inside⟩ := atFirst
        obtain ⟨rival, found', inside'⟩ := atSecond
        rw [settled.seated.apart _ _ _ _ found found' ticket inside inside']

/-- A player has queued alone, and a worker has matched the ticket. -/
def soleMatchWorld : World :=
  solePartyWorkerRun.complete soleMatchDeployment
    ((Call.partyStartMatchmaking (soleRequest 1)).complete soleMatchDeployment {})

theorem soleMatchWorld_reached :
    Reached soleMatchDeployment Call.ServerIssued soleMatchWorld :=
  .call (.call .start _ (by decide)) _ (by decide)

theorem ticket_in_one_place_sole :
    soleMatchWorld.ticketStatus (soleTicket 1) = .requiresAcceptance ∧
      soleMatchWorld.Placed .party (soleTicket 1) := by
  have made : soleMatchWorld.Made .party (soleTicket 1) := by
    rw [World.Made]
    decide +kernel
  exact ⟨by decide +kernel, ticket_in_one_place soleMatchWorld_reached made⟩

end MatchmakingMvp
