import MatchmakingMvp.Foundation.Splitting
import MatchmakingMvp.System.TrafficRuns
import MatchmakingMvp.Worker.Matching

/-! # Traffic that drains

A single worker keeps exactly the queued tickets of a traffic. Their players fill whole
matches, and where every party size divides the match, some of the tickets fill one
(`Foundation.exists_pack`). A worker that finds no match has then nothing left
(`MatchmakingMvp.drainsTraffic_of_dvd`).
-/

namespace MatchmakingMvp

open Foundation

variable {deployment : Deployment} {group : WorkerGroup} {requests : List MatchTicketRequest}
  {combinations : List (List MatchTicketRequest)} {trace : List (Executed Section World)}
  {world : World} {ticket : MatchTicket}

/-! ## The requests of a traffic -/

section Traffic

variable (traffic : PartyTraffic group combinations)

include traffic

/-- A party is no larger than its match. -/
theorem PartyTraffic.playerCount_le {request : MatchTicketRequest}
    (inside : request ∈ combinations.flatten) : 1 ≤ request.playerCount ∧
      request.playerCount ≤ min group.matchmakingRule.matchPlayerCount
        group.matchmakingRule.partyAvailablePlayerCount := by
  obtain ⟨combination, listed, member⟩ := List.mem_flatten.mp inside
  have sized := traffic.sized request inside
  have whole := traffic.whole combination listed
  have below : request.playerCount ≤ (combination.map MatchTicketRequest.playerCount).sum := by
    refine List.single_le_sum (fun count counted => ?_) _ (List.mem_map_of_mem member)
    obtain ⟨other, among, rfl⟩ := List.mem_map.mp counted
    exact Int.natCast_nonneg _
  omega

theorem PartyTraffic.sum_playerCount :
    (combinations.flatten.map MatchTicketRequest.playerCount).sum =
      group.matchmakingRule.matchPlayerCount * combinations.length := by
  have whole := traffic.whole
  clear traffic
  induction combinations with
  | nil => exact (mul_zero _).symm
  | cons combination rest ih =>
      rw [List.flatten_cons, List.map_append, List.sum_append, whole combination List.mem_cons_self,
        ih fun other inside => whole other (List.mem_cons_of_mem _ inside), List.length_cons,
        Nat.cast_add, Nat.cast_one, mul_add, mul_one, add_comm]

/-- The worker can match the tickets of the traffic. -/
theorem PartyTraffic.admitted {worker : PartyMatchmakingWorker} {held : MatchTicket → Prop}
    (holds : worker.Holds held)
    (known : ∀ ticket, held ticket → ticket ∈ issuedTickets combinations.flatten) :
    worker.Admitted group.matchmakingRule := by
  intro id request found
  obtain ⟨ticket, inside, rfl, rfl⟩ := (holds.waiting id request).mp found
  obtain ⟨index, bound, submitted, listed, rfl⟩ :=
    exists_request_of_mem_issuedTickets (known ticket inside)
  have sized := traffic.playerCount_le listed
  have numbered := traffic.numbered
  refine ⟨sized.1, sized.2, ?_⟩
  change 1000 + (index : Int) < PartyMatchmakingWorker.maxMatchTicketId
  omega

/-- **The outcome of a traffic** whose submissions are all in. -/
theorem PartyTraffic.outcome
    (served : deployment.getWorkerGroup .party group.workerGroupKey = some group)
    (players : 1 ≤ group.matchmakingRule.matchPlayerCount)
    (parties : 1 ≤ group.matchmakingRule.partyAvailablePlayerCount)
    {runs : List (Operation Unit)}
    (run : TrafficRun deployment group combinations.flatten trace ⟨world, runs ++ [.done ()]⟩) :
    Submitted deployment group combinations.flatten trace world ∧
      (runs = [] → formedMatches trace = 0) :=
  TrafficRun.outcome served traffic.addressed traffic.issued
    (fun _ inside => (contains_makeCombination_iff players parties).mpr
      (traffic.playerCount_le inside)) traffic.fresh run

end Traffic

/-! ## What the worker keeps -/

theorem issuedTickets_nodup (requests : List MatchTicketRequest) :
    (issuedTickets requests).Nodup := by
  have serials : (issuedTickets requests).map MatchTicket.serial = List.range requests.length :=
    List.ext_getElem (by simp [issuedTickets]) (by simp [issuedTickets, issuedTicket])
  exact List.Nodup.of_map _ (serials ▸ List.nodup_range)

theorem map_players_issuedTickets (requests : List MatchTicketRequest) :
    (issuedTickets requests).map (fun ticket => (ticket.players.length : Int)) =
      requests.map MatchTicketRequest.playerCount :=
  List.ext_getElem (by simp [issuedTickets]) (by
    simp [issuedTickets, issuedTicket, MatchTicket.players, MatchTicketRequest.playerCount])

theorem sum_players_issuedTickets (requests : List MatchTicketRequest) :
    ∑ ticket ∈ (issuedTickets requests).toFinset, (ticket.players.length : Int) =
      (requests.map MatchTicketRequest.playerCount).sum := by
  rw [List.sum_toFinset _ (issuedTickets_nodup requests), map_players_issuedTickets]

/-- A lone worker is in the range of every request. -/
theorem WorkerSlot.covers_single (slot : WorkerSlot) : slot.Covers 1 0 := by
  simp only [Covers, minWorkerIndex, maxWorkerIndex, clamp, getMaxWorkerIndex]
  split_ifs <;> omega

namespace Submitted

variable (submitted : Submitted deployment group requests trace world)

include submitted

/-- A ticket that was issued is queued until it leaves the queue. -/
theorem queued_iff (inside : ticket ∈ issuedTickets requests) :
    world.ticketStatus ticket = .queued ↔ ¬ (world.ticketStatus ticket).departed = true := by
  rw [MatchTicketStatus.not_departed_iff, or_iff_right (submitted.taking.started ticket inside)]

/-- The tickets that still wait. -/
theorem sum_queued :
    ∑ ticket ∈ (issuedTickets requests).toFinset with world.ticketStatus ticket = .queued,
        (ticket.players.length : Int) =
      (requests.map MatchTicketRequest.playerCount).sum -
        group.matchmakingRule.matchPlayerCount * formedMatches trace := by
  have departed : world.departedTickets = (issuedTickets requests).toFinset.filter fun ticket =>
      (world.ticketStatus ticket).departed = true := by
    ext ticket
    simp [World.mem_departedTickets, submitted.taking.made_iff]
  have queued : ((issuedTickets requests).toFinset.filter fun ticket =>
      world.ticketStatus ticket = .queued) = (issuedTickets requests).toFinset.filter fun ticket =>
        ¬ (world.ticketStatus ticket).departed = true :=
    Finset.filter_congr fun ticket inside => submitted.queued_iff (List.mem_toFinset.mp inside)
  rw [← submitted.accounts, ← sum_players_issuedTickets, World.departedPlayers, departed, queued,
    eq_sub_iff_add_eq', Finset.sum_filter_add_sum_filter_not]

/-- **The only worker** holds exactly the tickets that are still queued. -/
theorem holds
    (served : deployment.getWorkerGroup .party group.workerGroupKey = some group)
    (single : group.workerCount = 1)
    (addressed : ∀ request ∈ requests,
      (request.worldNo, request.matchZoneId) = group.workerGroupKey) :
    ((world.partyGroup group).workers 0).Holds fun ticket =>
      ticket ∈ issuedTickets requests ∧ world.ticketStatus ticket = .queued := by
  refine (submitted.held.groups group served 0).congr fun ticket => ?_
  rw [PartyMatchmakingWorkerGroup.InRange, single, and_iff_left (WorkerSlot.covers_single _),
    World.QueuedIn, World.Queued, submitted.taking.made_iff]
  constructor
  · rintro ⟨inside, queued⟩
    obtain ⟨index, -, request, listed, rfl⟩ := exists_request_of_mem_issuedTickets inside
    exact ⟨⟨⟨rfl, inside⟩, queued⟩, addressed request listed⟩
  · rintro ⟨⟨⟨-, inside⟩, queued⟩, -⟩
    exact ⟨inside, queued⟩

end Submitted

/-! ## Nothing is left -/

theorem MatchTicket.matchmakingRequest_injective :
    Function.Injective MatchTicket.matchmakingRequest :=
  fun _ _ same => Option.some.inj (congrArg MatchmakingRequest.matchTicketPtr same)

/-- A worker finds a match in queued tickets that fill whole matches, if every party size
divides the match. -/
theorem PartyMatchmakingWorker.makeMatchmaking_ne_nil_of_dvd {rule : MatchmakingRule}
    (players : 1 ≤ rule.matchPlayerCount) (parties : 1 ≤ rule.partyAvailablePlayerCount)
    (divides : ∀ size, 1 ≤ size → size ≤ rule.matchPlayerCount →
      size ≤ rule.partyAvailablePlayerCount → size ∣ rule.matchPlayerCount)
    {worker : PartyMatchmakingWorker} {statuses : TicketStatuses} {tickets : Finset MatchTicket}
    (holds : worker.Holds (· ∈ tickets)) (admitted : worker.Admitted rule)
    (queued : ∀ ticket ∈ tickets, statuses ticket = .queued) (nonempty : tickets.Nonempty)
    (whole : rule.matchPlayerCount ∣ ∑ ticket ∈ tickets, (ticket.players.length : Int))
    (order : IterationOrder Int) : worker.makeMatchmaking statuses order rule ≠ [] := by
  obtain ⟨pack, packed⟩ := Int.eq_ofNat_of_zero_le (by omega : 0 ≤ rule.matchPlayerCount)
  have sized : ∀ ticket ∈ tickets, 1 ≤ (ticket.players.length : Int) ∧
      (ticket.players.length : Int) ≤ min (pack : Int) rule.partyAvailablePlayerCount := by
    intro ticket inside
    obtain ⟨positive, fits, -⟩ := admitted _ _ (holds.waiting.find?_of_stored inside)
    rw [packed] at fits
    exact ⟨positive, fits⟩
  rw [packed] at whole
  obtain ⟨part, inside, filled⟩ : ∃ part ⊆ tickets, ∑ ticket ∈ part, ticket.players.length = pack :=
    exists_pack (min (pack : Int) rule.partyAvailablePlayerCount).toNat (by omega)
      (fun common least most => by
        rw [← Int.natCast_dvd_natCast, ← packed]
        exact divides common (by omega) (by omega) (by omega))
      (fun ticket inside => by have := sized ticket inside; omega) nonempty
      (by rw [← Int.natCast_dvd_natCast, Nat.cast_sum]; exact whole)
  have fills : worker.Fills statuses rule (part.image MatchTicket.matchmakingRequest) := by
    refine ⟨fun request member => ?_, ?_⟩
    · obtain ⟨ticket, chosen, rfl⟩ := Finset.mem_image.mp member
      exact ⟨holds.waiting.find?_of_stored (inside chosen), ticket, rfl,
        queued ticket (inside chosen)⟩
    · rw [Finset.sum_image fun _ _ _ _ same => MatchTicket.matchmakingRequest_injective same,
        packed, ← filled, Nat.cast_sum]
      rfl
  obtain ⟨candidate, isCandidate, -⟩ := fills.exists_candidate holds.agrees admitted
  exact ((makeMatchmaking_spec holds.agrees admitted players parties order).2 candidate
    isCandidate).1

/-- **Traffic drains** where every party size divides the match. -/
theorem drainsTraffic_of_dvd
    (served : deployment.getWorkerGroup .party group.workerGroupKey = some group)
    (single : group.workerCount = 1) (players : 1 ≤ group.matchmakingRule.matchPlayerCount)
    (parties : 1 ≤ group.matchmakingRule.partyAvailablePlayerCount)
    (divides : ∀ size, 1 ≤ size → size ≤ group.matchmakingRule.matchPlayerCount →
      size ≤ group.matchmakingRule.partyAvailablePlayerCount →
      size ∣ group.matchmakingRule.matchPlayerCount) :
    DrainsTraffic deployment group := by
  intro combinations traffic trace world runs run countOrder idle
  obtain ⟨submitted, -⟩ := traffic.outcome served players parties run
  have total := submitted.sum_queued
  rw [traffic.sum_playerCount, ← mul_sub] at total
  set waiting := (issuedTickets combinations.flatten).toFinset.filter fun ticket =>
    world.ticketStatus ticket = .queued with waitingOf
  have holds : ((world.partyGroup group).workers 0).Holds (· ∈ waiting) :=
    (submitted.holds served single traffic.addressed).congr fun ticket => by simp [waitingOf]
  have admitted := traffic.admitted holds fun ticket inside =>
    List.mem_toFinset.mp (Finset.mem_filter.mp inside).1
  have nothing : waiting = ∅ := by
    by_contra some
    exact PartyMatchmakingWorker.makeMatchmaking_ne_nil_of_dvd players parties divides holds
      admitted (fun ticket inside => (Finset.mem_filter.mp inside).2)
      (Finset.nonempty_iff_ne_empty.mpr some) (total ▸ Int.dvd_mul_right _ _) countOrder idle
  refine ⟨OrderedMap.isEmpty_iff_find?.mpr fun id => ?_, ?_⟩
  · cases found : ((world.partyGroup group).workers 0).waitingQueue.find? id with
    | none => rfl
    | some request =>
        obtain ⟨ticket, inside, -⟩ := (holds.waiting id request).mp found
        rw [nothing] at inside
        cases inside
  · rw [nothing, Finset.sum_empty, eq_comm, mul_eq_zero] at total
    omega

end MatchmakingMvp
