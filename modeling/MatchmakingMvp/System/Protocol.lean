import MatchmakingMvp.System.Effects

/-! # The stages of a thread

A thread that performs the managers' operations passes through stages: it starts
a ticket, claims tickets for a match, opens and registers a session, fails
tickets or closes a session (`MatchmakingMvp.Stage`). `MatchmakingMvp.Issues` says
which sections a thread performs between which stages, and in which states. The
programs of all calls follow it, so what every issued section keeps holds in every
interleaving of calls.
-/

namespace MatchmakingMvp

open Foundation

theorem Deployment.getWorkerGroup_self {deployment : Deployment} {queue : QueueKind}
    {key : MatchmakingGroupKey} {group : WorkerGroup}
    (served : deployment.getWorkerGroup queue key = some group) :
    deployment.getWorkerGroup queue group.workerGroupKey = some group := by
  rw [getWorkerGroup_key served, served]

/-- What a thread is doing with tickets and sessions. A free thread may hold a
session it looked up. A starting thread may have assigned its ticket's request
to a base worker. -/
inductive Stage
  | free (held : Option (MatchId × MatchSession))
  | starting (queue : QueueKind) (ticket : MatchTicket) (baseWorkerIndex : Option Int)
  | claimed (queue : QueueKind) (group : WorkerGroup) (tickets : List MatchTicket)
  | opened (queue : QueueKind) (group : WorkerGroup) (session : MatchSession) (forced : Bool)
  | inserted (queue : QueueKind) (group : WorkerGroup) (session : MatchSession)
  | failing (tickets : List MatchTicket)
  | closing (matchId : MatchId) (session : MatchSession)

/-- The tickets are of the group and fill a match of its rule. -/
structure Fills (group : WorkerGroup) (tickets : List MatchTicket) : Prop where
  keyed : ∀ ticket ∈ tickets, ticket.matchingGroupKey = group.workerGroupKey
  count : (tickets.map fun ticket => (ticket.players.length : Int)).sum =
    group.matchmakingRule.matchPlayerCount

theorem Fills.of_perm {group : WorkerGroup} {tickets others : List MatchTicket}
    (fills : Fills group tickets) (perm : others.Perm tickets) : Fills group others :=
  ⟨fun ticket inside => fills.keyed ticket (perm.mem_iff.mp inside),
    (perm.map _).sum_eq.trans fills.count⟩

variable (deployment : Deployment) (permits : MatchTicketRequest → Prop)

/-- The ticket was made for a group that admits it. Solo tickets are told to be
queued before they reach the group. -/
structure Carried (world : World) (queue : QueueKind) (group : WorkerGroup)
    (ticket : MatchTicket) : Prop where
  made : world.Made queue ticket
  served : deployment.getWorkerGroup queue ticket.matchingGroupKey = some group
  admitted : group.matchmakingRule.combination.contains ticket.players.length = true
  started : queue = .solo → world.ticketStatus ticket ≠ .none

variable {deployment} in
theorem Carried.mono {before after : World} (precedes : before.Precedes after)
    {queue : QueueKind} {group : WorkerGroup} {ticket : MatchTicket}
    (carried : Carried deployment before queue group ticket) :
    Carried deployment after queue group ticket :=
  ⟨precedes.made carried.made, carried.served, carried.admitted,
    fun solo => (precedes.advances ticket).ne_none (carried.started solo)⟩

/-- The sections a thread performs, from stage to stage. -/
inductive Issues : Section → World → Stage → Stage → Prop
  | neutral {step world stage} (neutral : step.neutral = true) : Issues step world stage stage
  | hold {world held matchId session}
      (found : world.matchSessions.items matchId = some session) :
      Issues .read world (.free held) (.free (some (matchId, session)))
  | make {world held queue request} (permitted : permits request)
      (single : queue = .solo → request.players.elements.length ≤ 1) :
      Issues (.newMatchTicket queue request.worldNo request) world (.free held)
        (.starting queue (world.newMatchTicket request.worldNo request) none)
  | register {world queue ticket base group} (made : world.Made queue ticket)
      (served : deployment.getWorkerGroup queue ticket.matchingGroupKey = some group) :
      Issues (.insertMatchTicket queue ticket) world (.starting queue ticket base)
        (.starting queue ticket base)
  | unregister {world queue ticket base} :
      Issues (.eraseMatchTicket queue ticket.matchTicketId) world (.starting queue ticket base)
        (.starting queue ticket base)
  | queue {world ticket base group} (made : world.Made .solo ticket)
      (served : deployment.getWorkerGroup .solo ticket.matchingGroupKey = some group) :
      Issues (.changeTicketStatus ticket .queued) world (.starting .solo ticket base)
        (.starting .solo ticket base)
  | assign {world queue ticket base group} (made : world.Made queue ticket)
      (served : deployment.getWorkerGroup queue ticket.matchingGroupKey = some group) :
      Issues (.setBaseWorkerIndex ticket.matchmakingRequest
          (getWorkerIndex group.workerCount ticket.matchTicketId)) world
        (.starting queue ticket base)
        (.starting queue ticket (some (getWorkerIndex group.workerCount ticket.matchTicketId)))
  | soloEnqueue {world ticket base group index}
      (carried : Carried deployment world .solo group ticket)
      (assigned : index = getWorkerIndex group.workerCount ticket.matchTicketId)
      (present : hasWorker group.workerCount index = true) :
      Issues (.soloEnqueue group index ticket.matchmakingRequest ticket) world
        (.starting .solo ticket base)
        (if (world.soloEnqueue group index ticket.matchmakingRequest ticket).1 then .free none
          else .starting .solo ticket base)
  | partyEnqueue {world ticket group index}
      (carried : Carried deployment world .party group ticket)
      (assigned : index = getWorkerIndex group.workerCount ticket.matchTicketId) :
      Issues (.partyEnqueue group index ticket.matchmakingRequest ticket) world
        (.starting .party ticket (some index))
        (if (world.partyEnqueue group index ticket.matchmakingRequest ticket).1 then .free none
          else .starting .party ticket (some index))
  | abandon {world queue ticket base} (made : world.Made queue ticket) :
      Issues (.changeTicketStatus ticket .failed) world (.starting queue ticket base) (.free none)
  | forget {world queue owner ticket stage} (made : world.Made owner ticket)
      (departed : (world.ticketStatus ticket).departed = true) :
      Issues (.eraseMatchTicket queue ticket.matchTicketId) world stage stage
  | soloCancel {world held ticket group index} (made : world.Made .solo ticket)
      (served : deployment.getWorkerGroup .solo ticket.matchingGroupKey = some group)
      (assigned : index = getWorkerIndex group.workerCount ticket.matchTicketId) :
      Issues (.soloCancel group index ticket) world (.free held) (.free held)
  | partyCancel {world held ticket group} (made : world.Made .party ticket)
      (served : deployment.getWorkerGroup .party ticket.matchingGroupKey = some group) :
      Issues (.partyCancel group ticket) world (.free held) (.free held)
  | partyExpand {world held group}
      (served : deployment.getWorkerGroup .party group.workerGroupKey = some group) :
      Issues (.partyExpand group) world (.free held) (.free held)
  | soloWait {world held group index}
      (served : deployment.getWorkerGroup .solo group.workerGroupKey = some group)
      (present : hasWorker group.workerCount index = true)
      (outcome : (world.soloRun group index).1 = .incomplete) :
      Issues (.soloRun group index) world (.free held) (.free held)
  | soloClaim {world held group index tickets listed}
      (served : deployment.getWorkerGroup .solo group.workerGroupKey = some group)
      (present : hasWorker group.workerCount index = true)
      (outcome : (world.soloRun group index).1 = .matched tickets)
      (listing : listed.Perm tickets) :
      Issues (.soloRun group index) world (.free held) (.claimed .solo group listed)
  | soloReject {world held group index tickets listed}
      (served : deployment.getWorkerGroup .solo group.workerGroupKey = some group)
      (present : hasWorker group.workerCount index = true)
      (outcome : (world.soloRun group index).1 = .rejected tickets)
      (listing : ∀ ticket ∈ listed, ticket ∈ tickets) :
      Issues (.soloRun group index) world (.free held) (.failing listed)
  | partyRefuse {world held group requests} {tickets : List MatchTicket}
      (refused : (world.partyCommit group requests).1 = false)
      (carried : ∀ ticket ∈ tickets, Carried deployment world .party group ticket)
      (requested : requests = (tickets.map MatchTicket.matchmakingRequest).map some)
      (distinct : tickets.Nodup) :
      Issues (.partyCommit group requests) world (.free held) (.free held)
  | partyClaim {world held group} {requests : List MatchmakingRequest} {tickets listed}
      (committed : (world.partyCommit group (requests.map some)).1 = true)
      (carried : ∀ ticket ∈ tickets, Carried deployment world .party group ticket)
      (requested : requests = tickets.map MatchTicket.matchmakingRequest)
      (listing : listed.Perm tickets) (distinct : tickets.Nodup) :
      Issues (.partyCommit group (requests.map some)) world (.free held)
        (.claimed .party group listed)
  | enter {world queue group} {tickets : TicketSet}
      (fills : Fills group tickets.1) (made : ∀ ticket ∈ tickets.1, world.Made queue ticket)
      (engaged : ∀ ticket ∈ tickets.1, (world.ticketStatus ticket).engaged = true) :
      Issues (.enterCreateMatchSession group.workerGroupKey tickets) world
        (.claimed queue group tickets.1) (.claimed queue group tickets.1)
  | openSession {world queue group matchZoneId worldNo matchId} {tickets : TicketSet}
      (named : tickets.1.head?.map MatchTicket.matchTicketId = some matchId) :
      Issues (.newMatchSession matchZoneId worldNo matchId tickets) world
        (.claimed queue group tickets.1)
        (.opened queue group (world.newMatchSession matchZoneId worldNo matchId tickets) false)
  | force {world queue group session forced} :
      Issues (.forceSessionStatus session .searching) world (.opened queue group session forced)
        (.opened queue group session true)
  | insert {world queue group session}
      (served : deployment.getWorkerGroup queue group.workerGroupKey = some group)
      (nonempty : session.tickets ≠ []) (fills : Fills group session.tickets)
      (made : ∀ ticket ∈ session.tickets, world.Made queue ticket)
      (engaged : ∀ ticket ∈ session.tickets, (world.ticketStatus ticket).engaged = true)
      (inserted : (world.matchSessions.insertMatchSession session).1 = true) :
      Issues (.insertMatchSession session) world (.opened queue group session true)
        (.inserted queue group session)
  | reject {world queue group session}
      (rejected : (world.matchSessions.insertMatchSession session).1 = false) :
      Issues (.insertMatchSession session) world (.opened queue group session true)
        (.failing session.tickets)
  | unseat {world tickets ticket} (member : ticket ∈ tickets) :
      Issues (.eraseMatchSession ticket.matchTicketId) world (.failing tickets) (.failing tickets)
  | fail {world queue ticket rest} (made : world.Made queue ticket)
      (departed : (world.ticketStatus ticket).departed = true) :
      Issues (.changeTicketStatus ticket .failed) world (.failing (ticket :: rest))
        (.failing rest)
  | require {world queue group session}
      (engaged : ∀ ticket ∈ session.tickets, (world.ticketStatus ticket).engaged = true) :
      Issues (.changeSessionStatus session .requiresAcceptance) world
        (.inserted queue group session) (.free none)
  | change {world matchId session status}
      (engaged : ∀ ticket ∈ session.tickets, (world.ticketStatus ticket).engaged = true)
      (target : status = .placing ∨ status.terminal = true) :
      Issues (.changeSessionStatus session status) world (.free (some (matchId, session)))
        (if status.terminal ∧ (world.changeSessionStatus session status).1 then
          .closing matchId session else .free none)
  | close {world matchId session} :
      Issues (.eraseMatchSession matchId) world (.closing matchId session) (.free none)

end MatchmakingMvp
