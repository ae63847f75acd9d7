import MatchmakingMvp.System.TrafficDrains
import MatchmakingMvp.Worker.Commit
import Mathlib.Data.Set.List

/-! # Traffic that gets stuck

If a party size that fits into a match does not divide it, combinations of that size
with single players do not drain. The worker may fill a match with single players
alone, and the parties that are left lack them (`MatchmakingMvp.not_drainsTraffic_of_left`).
-/

namespace MatchmakingMvp

open Foundation

/-! ## Traffic of given party sizes -/

/-- A party of the players from a number on. -/
def partyOf (group : WorkerGroup) (first size : Nat) : MatchTicketRequest where
  worldNo := group.workerGroupKey.1
  matchZoneId := group.workerGroupKey.2
  partyKey := first + 1
  requestPlayerKey := first
  players := ⟨(List.range' first size).map Nat.cast, List.pairwise_map.mpr
    ((List.pairwise_lt_range' ..).imp Int.ofNat_lt.mpr)⟩

def partiesOf (group : WorkerGroup) : Nat → List Nat → List MatchTicketRequest
  | _, [] => []
  | first, size :: rest => partyOf group first size :: partiesOf group (first + size) rest

def trafficOf (group : WorkerGroup) : Nat → List (List Nat) → List (List MatchTicketRequest)
  | _, [] => []
  | first, sizes :: rest => partiesOf group first sizes :: trafficOf group (first + sizes.sum) rest

variable {group : WorkerGroup}

theorem partyOf_playerCount (group : WorkerGroup) (first size : Nat) :
    (partyOf group first size).playerCount = size := by
  simp [MatchTicketRequest.playerCount, partyOf]

theorem partiesOf_append (first : Nat) (front back : List Nat) :
    partiesOf group first (front ++ back) =
      partiesOf group first front ++ partiesOf group (first + front.sum) back := by
  induction front generalizing first with
  | nil => rfl
  | cons size rest ih =>
      rw [List.cons_append, partiesOf, ih, partiesOf, List.cons_append, List.sum_cons,
        Nat.add_assoc]

theorem flatten_trafficOf (first : Nat) (sizes : List (List Nat)) :
    (trafficOf group first sizes).flatten = partiesOf group first sizes.flatten := by
  induction sizes generalizing first with
  | nil => rfl
  | cons combination rest ih =>
      rw [trafficOf, List.flatten_cons, List.flatten_cons, partiesOf_append, ih]

theorem map_playerCount_partiesOf (group : WorkerGroup) (first : Nat) (sizes : List Nat) :
    (partiesOf group first sizes).map MatchTicketRequest.playerCount =
      sizes.map (Nat.cast : Nat → Int) := by
  induction sizes generalizing first with
  | nil => rfl
  | cons size rest ih =>
      rw [partiesOf, List.map_cons, List.map_cons, ih, partyOf_playerCount]

theorem length_trafficOf (first : Nat) (sizes : List (List Nat)) :
    (trafficOf group first sizes).length = sizes.length := by
  induction sizes generalizing first with
  | nil => rfl
  | cons combination rest ih => rw [trafficOf, List.length_cons, List.length_cons, ih]

theorem exists_of_mem_trafficOf {first : Nat} {sizes : List (List Nat)}
    {combination : List MatchTicketRequest} (inside : combination ∈ trafficOf group first sizes) :
    ∃ start, ∃ listed ∈ sizes, combination = partiesOf group start listed := by
  induction sizes generalizing first with
  | nil => cases inside
  | cons listed rest ih =>
      rcases List.mem_cons.mp inside with rfl | later
      · exact ⟨first, listed, List.mem_cons_self, rfl⟩
      · obtain ⟨start, other, member, same⟩ := ih later
        exact ⟨start, other, List.mem_cons_of_mem _ member, same⟩

theorem exists_of_mem_partiesOf {first : Nat} {sizes : List Nat} {request : MatchTicketRequest}
    (inside : request ∈ partiesOf group first sizes) :
    ∃ start, ∃ size ∈ sizes, request = partyOf group start size := by
  induction sizes generalizing first with
  | nil => cases inside
  | cons size rest ih =>
      rcases List.mem_cons.mp inside with rfl | later
      · exact ⟨first, size, List.mem_cons_self, rfl⟩
      · obtain ⟨start, other, member, same⟩ := ih later
        exact ⟨start, other, List.mem_cons_of_mem _ member, same⟩

/-- The parties take consecutive players. -/
theorem flatMap_players_partiesOf (first : Nat) (sizes : List Nat) :
    ((partiesOf group first sizes).flatMap fun request => request.players.elements) =
      (List.range' first sizes.sum).map (Nat.cast : Nat → Int) := by
  induction sizes generalizing first with
  | nil => rfl
  | cons size rest ih =>
      rw [partiesOf, List.flatMap_cons, ih, List.sum_cons, ← List.range'_append_1, List.map_append]
      rfl

/-- Sizes that fill matches make a traffic. -/
theorem partyTraffic_trafficOf {sizes : List (List Nat)}
    (sized : ∀ size ∈ sizes.flatten, 1 ≤ size ∧
      (size : Int) ≤ group.matchmakingRule.partyAvailablePlayerCount)
    (whole : ∀ combination ∈ sizes,
      (combination.sum : Int) = group.matchmakingRule.matchPlayerCount)
    (numbered : (1000 + sizes.flatten.length : Int) ≤ PartyMatchmakingWorker.maxMatchTicketId) :
    PartyTraffic group (trafficOf group 0 sizes) where
  addressed request inside := by
    rw [flatten_trafficOf] at inside
    obtain ⟨start, size, -, rfl⟩ := exists_of_mem_partiesOf inside
    rfl
  issued request inside := by
    rw [flatten_trafficOf] at inside
    obtain ⟨start, size, -, rfl⟩ := exists_of_mem_partiesOf inside
    rfl
  sized request inside := by
    rw [flatten_trafficOf] at inside
    obtain ⟨start, size, listed, rfl⟩ := exists_of_mem_partiesOf inside
    obtain ⟨positive, fits⟩ := sized size listed
    rw [partyOf_playerCount]
    exact ⟨by omega, fits⟩
  whole combination inside := by
    obtain ⟨start, listed, member, rfl⟩ := exists_of_mem_trafficOf inside
    rw [map_playerCount_partiesOf, ← Nat.cast_list_sum, whole listed member]
  fresh := by
    rw [flatten_trafficOf, flatMap_players_partiesOf]
    exact (List.nodup_range' ..).map Int.ofNat_injective
  numbered := by
    have counted := congrArg List.length
      (map_playerCount_partiesOf group 0 sizes.flatten)
    rw [List.length_map, List.length_map, ← flatten_trafficOf] at counted
    rwa [counted]

/-! ## Single players first -/

/-- List one element before all others. -/
def IterationOrder.putFirst (element : Int) : IterationOrder Int :=
  ⟨fun elements => elements.filter (· = element) ++
      elements.filter fun other => !decide (other = element),
    fun elements => List.filter_append_perm _ elements⟩

namespace PartyMatchmakingWorker

variable {worker : PartyMatchmakingWorker} {statuses : TicketStatuses} {rule : MatchmakingRule}
  {tickets : Finset MatchTicket}

/-- Single players are tried before all other combinations. -/
theorem triedCombinations_putFirst (players : 1 ≤ rule.matchPlayerCount)
    (parties : 1 ≤ rule.partyAvailablePlayerCount) (counted : 0 < worker.queuedCount 1) :
    ∃ later, worker.triedCombinations (.putFirst 1) rule =
      groupedCombination (List.replicate rule.matchPlayerCount.toNat 1) :: later := by
  have listed : 1 ∈ worker.queuedCountByPlayerCount.keys := by
    rw [OrderedMap.mem_keys_iff]
    cases found : worker.queuedCountByPlayerCount.find? 1 with
    | none =>
        rw [queuedCount, found] at counted
        exact absurd counted (lt_irrefl _)
    | some count => exact ⟨count, rfl⟩
  have first :
      worker.queuedCountByPlayerCount.keys.filter (fun size => decide (size = 1)) = [1] := by
    rw [List.filter_eq, List.count_eq_one_of_mem (OrderedMap.keys_nodup _) listed]
    rfl
  obtain ⟨later, combinations⟩ := MatchmakingRule.getCombination_one players parties
  rw [triedCombinations, IterationOrder.putFirst]
  simp only
  rw [first, List.flatMap_append, List.flatMap_singleton, if_neg (not_le.mpr counted), combinations]
  exact ⟨_, rfl⟩

theorem isPartition_singles (players : 1 ≤ rule.matchPlayerCount)
    (parties : 1 ≤ rule.partyAvailablePlayerCount) :
    IsPartition rule.partyAvailablePlayerCount rule.matchPlayerCount
      (List.replicate rule.matchPlayerCount.toNat 1) where
  ascending := List.pairwise_replicate.mpr (Or.inr le_rfl)
  sized part inside := by
    rw [List.eq_of_mem_replicate inside]
    exact ⟨le_rfl, parties⟩
  total := by
    rw [List.sum_replicate, nsmul_eq_mul, mul_one, Int.toNat_of_nonneg (by omega)]

theorem mem_entries_singles {count : Nat} {need : Int × Int}
    (inside : need ∈ (groupedCombination (List.replicate count 1)).entries) :
    need = (1, (count : Int)) := by
  obtain ⟨single, counted⟩ := mem_entries_groupedCombination.mp inside
  have one := List.eq_of_mem_replicate single
  rw [one, List.count_replicate_self] at counted
  exact Prod.ext one counted

/-- The queued tickets of a size wait in the pool of that size. -/
theorem card_le_length_waiting (holds : worker.Holds (· ∈ tickets))
    (queued : ∀ ticket ∈ tickets, statuses ticket = .queued) (size : Nat) :
    (tickets.filter (·.players.length = size)).card ≤ (worker.waiting statuses size).length := by
  refine le_trans ?_ (List.toFinset_card_le _)
  rw [← Finset.card_image_of_injective _ MatchTicket.matchmakingRequest_injective]
  refine Finset.card_le_card fun request inside => ?_
  obtain ⟨ticket, chosen, rfl⟩ := Finset.mem_image.mp inside
  obtain ⟨member, sized⟩ := Finset.mem_filter.mp chosen
  refine List.mem_toFinset.mpr ((mem_waiting holds.agrees).mpr
    ⟨⟨holds.waiting.find?_of_stored member, ticket, rfl, queued ticket member⟩, ?_⟩)
  exact congrArg Nat.cast sized

/-- What is drawn for single players are requests of single players. -/
theorem exists_single_of_mem_draw (holds : worker.Holds (· ∈ tickets)) {count : Nat}
    {request : MatchmakingRequest}
    (drawn : request ∈ worker.draw statuses (groupedCombination (List.replicate count 1)).entries) :
    ∃ ticket, ticket.matchmakingRequest = request ∧ ticket ∈ tickets ∧
      ticket.players.length = 1 := by
  obtain ⟨need, needed, taken⟩ := mem_draw.mp drawn
  obtain ⟨⟨found, -⟩, single⟩ := (mem_waiting holds.agrees).mp (List.mem_of_mem_take taken)
  obtain ⟨ticket, member, -, rfl⟩ := (holds.waiting _ request).mp found
  rw [mem_entries_singles needed] at single
  exact ⟨ticket, rfl, member, Int.ofNat_inj.mp single⟩

/-- **A match of single players**, if they are enough and one of them waits longest. -/
theorem makeMatchmaking_singles (players : 1 ≤ rule.matchPlayerCount)
    (parties : 1 ≤ rule.partyAvailablePlayerCount) (holds : worker.Holds (· ∈ tickets))
    (admitted : worker.Admitted rule) (queued : ∀ ticket ∈ tickets, statuses ticket = .queued)
    (enough : rule.matchPlayerCount.toNat ≤ (tickets.filter (·.players.length = 1)).card)
    {oldest : MatchTicket} (waits : oldest ∈ tickets) (alone : oldest.players.length = 1)
    (least : ∀ ticket ∈ tickets, oldest.matchTicketId ≤ ticket.matchTicketId) :
    ∃ chosen : List MatchTicket,
      worker.makeMatchmaking statuses (.putFirst 1) rule =
        chosen.map MatchTicket.matchmakingRequest ∧
      chosen.Nodup ∧ (∀ ticket ∈ chosen, ticket ∈ tickets ∧ ticket.players.length = 1) ∧
      (chosen.length : Int) = rule.matchPlayerCount := by
  have agrees := holds.agrees
  have partition := isPartition_singles players parties
  have pool := enough.trans (card_le_length_waiting holds queued 1)
  have covers : worker.Covers statuses
      (groupedCombination (List.replicate rule.matchPlayerCount.toNat 1)).entries := by
    intro need inside
    rw [mem_entries_singles inside]
    exact Int.ofNat_le.mpr pool
  have counted : 0 < worker.queuedCount 1 := by
    have bound : ((worker.waiting statuses 1).length : Int) ≤ worker.queuedCount 1 :=
      length_waiting_le agrees
    rw [Nat.cast_one] at pool
    omega
  obtain ⟨later, tried⟩ := triedCombinations_putFirst players parties counted
  have drawn : worker.makeMatchmaking statuses (.putFirst 1) rule = _ :=
    makeMatchmaking_eq_draw agrees admitted players partition covers tried
      fun id request found => by
      obtain ⟨ticket, member, rfl, -⟩ := (holds.waiting id request).mp found
      have used : oldest.matchmakingRequest.playerCount ∈
          List.replicate rule.matchPlayerCount.toNat 1 := by
        rw [MatchTicket.matchmakingRequest_playerCount, alone]
        exact List.mem_replicate.mpr ⟨by omega, rfl⟩
      have first : worker.Waits statuses oldest.matchmakingRequest :=
        ⟨holds.waiting.find?_of_stored waits, oldest, rfl, queued oldest waits⟩
      obtain ⟨older, inside, before⟩ := exists_mem_draw_le agrees first used
      exact (oldestTicketId_le inside).trans (before.trans (least ticket member))
  have candidate : worker.Candidate statuses rule
      (worker.makeMatchmaking statuses (.putFirst 1) rule) := ⟨_, partition, covers, drawn⟩
  have known : ∀ request ∈ worker.makeMatchmaking statuses (.putFirst 1) rule,
      ∃ ticket, ticket.matchmakingRequest = request ∧ ticket ∈ tickets ∧
        ticket.players.length = 1 := by
    rw [drawn]
    exact fun request inside => exists_single_of_mem_draw holds inside
  obtain ⟨chosen, same⟩ : worker.makeMatchmaking statuses (.putFirst 1) rule ∈
      Set.range (List.map MatchTicket.matchmakingRequest) := by
    rw [Set.range_list_map]
    exact fun request inside => (known request inside).imp fun _ => And.left
  rw [← same] at candidate known ⊢
  have members : ∀ ticket ∈ chosen, ticket ∈ tickets ∧ ticket.players.length = 1 := by
    intro ticket inside
    obtain ⟨other, equal, holds⟩ := known _ (List.mem_map_of_mem inside)
    rwa [MatchTicket.matchmakingRequest_injective equal] at holds
  refine ⟨chosen, rfl, (candidate.nodup agrees).of_map, members, ?_⟩
  rw [← candidate.sum_playerCount agrees, List.map_map]
  have ones : chosen.map (MatchmakingRequest.playerCount ∘ MatchTicket.matchmakingRequest) =
      List.replicate chosen.length 1 := by
    refine List.eq_replicate_iff.mpr ⟨List.length_map _, fun size inside => ?_⟩
    obtain ⟨ticket, member, rfl⟩ := List.mem_map.mp inside
    exact congrArg Nat.cast (members ticket member).2
  rw [ones, List.sum_replicate, nsmul_eq_mul, mul_one]

/-- **Parties of one size lack single players**, if these are fewer than what parties of
that size leave of the match. -/
theorem makeMatchmaking_eq_nil_of_few_singles (players : 1 ≤ rule.matchPlayerCount)
    (parties : 1 ≤ rule.partyAvailablePlayerCount) (holds : worker.Holds (· ∈ tickets))
    (admitted : worker.Admitted rule) {size : Nat}
    (sized : ∀ ticket ∈ tickets, ticket.players.length = 1 ∨ ticket.players.length = size)
    (few : (tickets.filter (·.players.length = 1)).card < rule.matchPlayerCount.toNat % size)
    (order : IterationOrder Int) : worker.makeMatchmaking statuses order rule = [] := by
  by_contra nonempty
  have agrees := holds.agrees
  have candidate := (makeMatchmaking_spec agrees admitted players parties order).1 nonempty
  generalize worker.makeMatchmaking statuses order rule = requests at candidate
  obtain ⟨waits, total⟩ := candidate.fills agrees
  have known : ∀ request ∈ requests.toFinset, ∃ ticket ∈ tickets,
      request = ticket.matchmakingRequest := by
    intro request inside
    obtain ⟨ticket, member, -, same⟩ := (holds.waiting _ request).mp (waits request inside).1
    exact ⟨ticket, member, same⟩
  have singles : (requests.toFinset.filter (·.playerCount = 1)).card ≤
      (tickets.filter (·.players.length = 1)).card := by
    rw [← Finset.card_image_of_injective _ MatchTicket.matchmakingRequest_injective]
    refine Finset.card_le_card fun request inside => ?_
    obtain ⟨member, single⟩ := Finset.mem_filter.mp inside
    obtain ⟨ticket, held, rfl⟩ := known request member
    exact Finset.mem_image_of_mem _ (Finset.mem_filter.mpr ⟨held, Int.ofNat_inj.mp single⟩)
  have ones : ∑ request ∈ requests.toFinset with request.playerCount = 1, request.playerCount =
      (requests.toFinset.filter (·.playerCount = 1)).card := by
    rw [Finset.sum_congr rfl fun request inside => (Finset.mem_filter.mp inside).2,
      Finset.sum_const, nsmul_eq_mul, mul_one]
  have others : ∑ request ∈ requests.toFinset with ¬ request.playerCount = 1,
      request.playerCount = (requests.toFinset.filter (¬ ·.playerCount = 1)).card * size := by
    rw [Finset.sum_congr rfl fun request inside => ?_, Finset.sum_const, nsmul_eq_mul]
    obtain ⟨member, several⟩ := Finset.mem_filter.mp inside
    obtain ⟨ticket, held, rfl⟩ := known request member
    exact congrArg Nat.cast ((sized ticket held).resolve_left fun single =>
      several (congrArg Nat.cast single))
  rw [← Finset.sum_filter_add_sum_filter_not _ (·.playerCount = 1), ones, others] at total
  have filled : rule.matchPlayerCount.toNat =
      (requests.toFinset.filter (·.playerCount = 1)).card +
        (requests.toFinset.filter (¬ ·.playerCount = 1)).card * size := by
    rw [← total]
    exact Int.toNat_natCast _
  rw [filled, Nat.add_mul_mod_self_right] at few
  exact absurd (few.trans_le ((Nat.mod_le _ _).trans singles)) (lt_irrefl _)

end PartyMatchmakingWorker

/-! ## Sizes that get stuck -/

/-- As many combinations as have the single players of one match, at least. -/
def stuckCopies (players size : Nat) : Nat := (players + players % size - 1) / (players % size)

/-- Combinations of parties of one size, filled up with single players. -/
def stuckSizes (players size : Nat) : List (List Nat) :=
  List.replicate (stuckCopies players size)
    (List.replicate (players % size) 1 ++ List.replicate (players / size) size)

section Sizes

variable {players size : Nat}

theorem stuckCopies_mul (left : 0 < players % size) :
    players ≤ stuckCopies players size * (players % size) ∧
      stuckCopies players size * (players % size) < players + players % size := by
  have division := Nat.div_add_mod (players + players % size - 1) (players % size)
  have rest := Nat.mod_lt (players + players % size - 1) left
  rw [mul_comm] at division
  rw [stuckCopies]
  omega

theorem one_lt_stuckCopies (left : 0 < players % size) (short : players % size < players) :
    1 < stuckCopies players size := by
  by_contra few
  have enough := (stuckCopies_mul left).1
  have below := Nat.mul_le_mul_right (players % size) (not_lt.mp few)
  omega

theorem stuckCopies_le (left : 0 < players % size) : stuckCopies players size ≤ players := by
  have bound := (stuckCopies_mul left).2
  by_contra more
  have copies := Nat.mul_le_mul_right (players % size) (not_le.mp more)
  have least := Nat.mul_le_mul_left players left
  rw [Nat.succ_mul] at copies
  omega

theorem sum_of_mem_stuckSizes {combination : List Nat}
    (inside : combination ∈ stuckSizes players size) : combination.sum = players := by
  rw [List.eq_of_mem_replicate inside, List.sum_append, List.sum_replicate, List.sum_replicate,
    nsmul_eq_mul, nsmul_eq_mul, Nat.cast_id, mul_one, Nat.cast_id]
  exact Nat.mod_add_div' players size

theorem mem_stuckSizes {part : Nat} (inside : part ∈ (stuckSizes players size).flatten) :
    part = 1 ∨ part = size := by
  obtain ⟨combination, listed, member⟩ := List.mem_flatten.mp inside
  rw [List.eq_of_mem_replicate listed] at member
  rcases List.mem_append.mp member with single | party
  · exact Or.inl (List.eq_of_mem_replicate single)
  · exact Or.inr (List.eq_of_mem_replicate party)

theorem count_stuckSizes (several : size ≠ 1) :
    (stuckSizes players size).flatten.count 1 =
      stuckCopies players size * (players % size) := by
  rw [stuckSizes, List.count_flatten, List.map_replicate, List.sum_replicate, List.count_append,
    List.count_replicate_self, List.count_replicate, smul_eq_mul]
  simp [several]

theorem length_stuckSizes_le (left : 0 < players % size) :
    (stuckSizes players size).flatten.length ≤ players * players := by
  have parts : players % size + players / size ≤ players := by
    rcases Nat.eq_zero_or_pos size with rfl | positive
    · simp
    · have whole := Nat.mod_add_div players size
      have least := Nat.mul_le_mul_right (players / size) positive
      omega
  rw [stuckSizes, List.length_flatten, List.map_replicate, List.sum_replicate, List.length_append,
    List.length_replicate, List.length_replicate, smul_eq_mul]
  exact Nat.mul_le_mul (stuckCopies_le left) parts

end Sizes

/-! ## The run that gets stuck -/

variable {deployment : Deployment}

/-- A run of the worker reads and then commits the match it found. -/
theorem workerRun_steps
    (served : deployment.getWorkerGroup .party group.workerGroupKey = some group)
    (countOrder : IterationOrder Int) (order : IterationOrder MatchTicket) :
    ∃ next, (Call.partyWorkerRun group.workerGroupKey 0 countOrder order).program deployment =
        .step .read next ∧
      ∀ world : World, ((world.partyGroup group).workers 0).makeMatchmaking world.ticketStatus
          countOrder group.matchmakingRule ≠ [] →
        ∃ last, next world = .step (.partyCommit group
          ((((world.partyGroup group).workers 0).makeMatchmaking world.ticketStatus countOrder
            group.matchmakingRule).map some)) last := by
  have present : ¬ hasWorker group.workerCount 0 = false := by
    simpa [hasWorker] using group.hasWorkers.ne'
  simp only [Call.program, onGroup, served, PartyMatchmakingWorkerGroup.doWorkerAsyncJob, present]
  refine ⟨_, rfl, fun world nonempty => ?_⟩
  simp only [Program.bind]
  rw [if_neg (by simpa using nonempty)]
  exact ⟨_, rfl⟩

/-- Before the first match every ticket waits. -/
theorem Submitted.queued_of_unformed {requests : List MatchTicketRequest}
    {trace : List (Executed Section World)} {world : World}
    (submitted : Submitted deployment group requests trace world)
    (positive : ∀ request ∈ requests, 1 ≤ request.playerCount)
    (unformed : formedMatches trace = 0) :
    ∀ ticket ∈ issuedTickets requests, world.ticketStatus ticket = .queued := by
  intro ticket inside
  rw [submitted.queued_iff inside]
  intro departed
  have accounts := submitted.accounts
  rw [unformed, Nat.cast_zero, mul_zero, World.departedPlayers,
    Finset.sum_eq_zero_iff_of_nonneg fun _ _ => Int.natCast_nonneg _] at accounts
  obtain ⟨index, -, request, listed, rfl⟩ := exists_request_of_mem_issuedTickets inside
  have nobody := accounts _ (World.mem_departedTickets.mpr
    ⟨⟨.party, submitted.taking.made_iff.mpr ⟨rfl, inside⟩⟩, departed⟩)
  have somebody := positive request listed
  exact absurd (somebody.trans_eq nobody) (by decide)

/-- **All submissions may be in** before the worker runs. -/
theorem PartyTraffic.exists_submitted {combinations : List (List MatchTicketRequest)}
    (traffic : PartyTraffic group combinations)
    (served : deployment.getWorkerGroup .party group.workerGroupKey = some group)
    (single : group.workerCount = 1) (players : 1 ≤ group.matchmakingRule.matchPlayerCount)
    (parties : 1 ≤ group.matchmakingRule.partyAvailablePlayerCount) :
    ∃ trace world,
      TrafficRun deployment group combinations.flatten trace ⟨world, [.done ()]⟩ ∧
      formedMatches trace = 0 ∧
      (∀ ticket ∈ issuedTickets combinations.flatten, world.ticketStatus ticket = .queued) ∧
      ((world.partyGroup group).workers 0).Holds
        (· ∈ (issuedTickets combinations.flatten).toFinset) := by
  have submission : TrafficRun deployment group combinations.flatten _ ⟨_, [] ++ [.done ()]⟩ :=
    PoolRun.finish (fun _ _ => trivial) .start
  obtain ⟨submitted, unformed⟩ := traffic.outcome served players parties submission
  have queued := submitted.queued_of_unformed (fun request inside =>
    (traffic.sized request inside).1) (unformed rfl)
  refine ⟨_, _, submission, unformed rfl, queued,
    (submitted.holds served single traffic.addressed).congr fun ticket => ?_⟩
  rw [List.mem_toFinset]
  exact (and_iff_left_of_imp (queued ticket)).symm

/-- **The worker may commit** a match it finds. -/
theorem TrafficRun.exists_committed {requests : List MatchTicketRequest}
    {trace : List (Executed Section World)} {world : World}
    (run : TrafficRun deployment group requests trace ⟨world, [.done ()]⟩)
    (served : deployment.getWorkerGroup .party group.workerGroupKey = some group)
    {countOrder : IterationOrder Int} {found : List MatchmakingRequest}
    (finds : ((world.partyGroup group).workers 0).makeMatchmaking world.ticketStatus countOrder
      group.matchmakingRule = found) (nonempty : found ≠ []) :
    ∃ trace' last, TrafficRun deployment group requests trace'
        ⟨perform (.partyCommit group (found.map some)) world, [last] ++ [.done ()]⟩ ∧
      formedMatches trace' ≤ formedMatches trace + 1 := by
  subst finds
  obtain ⟨next, program, commits⟩ := workerRun_steps served countOrder (.asListed _)
  obtain ⟨last, commit⟩ := commits world nonempty
  have joined : TrafficRun deployment group requests trace
      ⟨world, [] ++ .step .read next :: [.done ()]⟩ := .join run ⟨_, _, program.symm⟩
  have read : TrafficRun deployment group requests _ ⟨world, [] ++ next world :: [.done ()]⟩ :=
    .advance joined trivial
  rw [commit] at read
  refine ⟨_, last _, .advance read trivial, ?_⟩
  rw [formedMatches_concat, formedMatches_concat]
  exact Nat.add_le_add_left List.countP_le_length _

/-- The single players among the parties. -/
theorem card_singles_partiesOf (sizes : List Nat) :
    ((issuedTickets (partiesOf group 0 sizes)).toFinset.filter (·.players.length = 1)).card =
      sizes.count 1 := by
  have sized : (issuedTickets (partiesOf group 0 sizes)).map (·.players.length) = sizes := by
    refine List.map_injective_iff.mpr Int.ofNat_injective ?_
    rw [List.map_map]
    exact (map_players_issuedTickets _).trans (map_playerCount_partiesOf group 0 sizes)
  have listed : (issuedTickets (partiesOf group 0 sizes)).toFinset.filter
      (·.players.length = 1) =
        ((issuedTickets (partiesOf group 0 sizes)).filter (·.players.length == 1)).toFinset := by
    ext ticket
    simp
  rw [listed, List.toFinset_card_of_nodup ((issuedTickets_nodup _).filter _),
    ← List.countP_eq_length_filter, List.count, ← congrArg (List.countP (· == 1)) sized,
    List.countP_map]
  rfl

section Stuck

variable {pack size : Nat}

theorem partyTraffic_stuckSizes (packed : group.matchmakingRule.matchPlayerCount = pack)
    (positive : 1 ≤ size) (fits : (size : Int) ≤ group.matchmakingRule.partyAvailablePlayerCount)
    (left : 0 < pack % size) : PartyTraffic group (trafficOf group 0 (stuckSizes pack size)) := by
  refine partyTraffic_trafficOf (fun part inside => ?_) (fun combination inside => ?_) ?_
  · rcases mem_stuckSizes inside with rfl | rfl <;> omega
  · rw [sum_of_mem_stuckSizes inside, packed]
  · have short := group.matchmakingRule.inRange.2
    rw [packed] at short
    have bound : pack * pack ≤ 2 ^ 31 * 2 ^ 31 := Nat.mul_le_mul (by omega) (by omega)
    have length := length_stuckSizes_le left
    rw [PartyMatchmakingWorker.maxMatchTicketId]
    omega

/-- The first ticket is that of a single player. -/
theorem exists_first_single (group : WorkerGroup) (left : 0 < pack % size)
    (short : pack % size < pack) :
    ∃ oldest ∈ issuedTickets (partiesOf group 0 (stuckSizes pack size).flatten),
      oldest.players.length = 1 ∧ oldest.matchTicketId = 1000 := by
  obtain ⟨copies, some⟩ :=
    Nat.exists_eq_succ_of_ne_zero (Nat.zero_lt_of_lt (one_lt_stuckCopies left short)).ne'
  obtain ⟨singles, ones⟩ := Nat.exists_eq_succ_of_ne_zero left.ne'
  obtain ⟨rest, first⟩ : ∃ rest, (stuckSizes pack size).flatten = 1 :: rest := by
    rw [stuckSizes, some, ones, List.replicate_succ, List.flatten_cons, List.replicate_succ]
    exact ⟨_, rfl⟩
  refine ⟨issuedTicket 0 (partyOf group 0 1), ?_, rfl, rfl⟩
  rw [first, partiesOf, issuedTickets, List.mapIdx_cons]
  exact List.mem_cons_self

theorem players_of_mem_issuedTickets {ticket : MatchTicket}
    (inside : ticket ∈ issuedTickets (partiesOf group 0 (stuckSizes pack size).flatten)) :
    ticket.players.length = 1 ∨ ticket.players.length = size := by
  obtain ⟨index, -, request, listed, rfl⟩ := exists_request_of_mem_issuedTickets inside
  obtain ⟨start, part, member, rfl⟩ := exists_of_mem_partiesOf listed
  have counted : (issuedTicket index (partyOf group start part)).players.length = part :=
    Int.ofNat_inj.mp (partyOf_playerCount group start part)
  rw [counted]
  exact mem_stuckSizes member

/-- After one match of single players, the others are too few for another one. -/
theorem card_left_singles (several : size ≠ 1) (left : 0 < pack % size)
    {chosen : List MatchTicket} (nodup : chosen.Nodup) (filled : chosen.length = pack)
    (members : ∀ ticket ∈ chosen,
      ticket ∈ issuedTickets (partiesOf group 0 (stuckSizes pack size).flatten) ∧
        ticket.players.length = 1) :
    (((issuedTickets (partiesOf group 0 (stuckSizes pack size).flatten)).toFinset.filter
      (· ∉ chosen)).filter (·.players.length = 1)).card < pack % size := by
  have remaining : ((issuedTickets (partiesOf group 0
      (stuckSizes pack size).flatten)).toFinset.filter (· ∉ chosen)).filter
        (·.players.length = 1) =
      (issuedTickets (partiesOf group 0 (stuckSizes pack size).flatten)).toFinset.filter
        (·.players.length = 1) \ chosen.toFinset := by
    ext ticket
    simp only [Finset.mem_filter, Finset.mem_sdiff, List.mem_toFinset]
    tauto
  have taken : chosen.toFinset ⊆ (issuedTickets (partiesOf group 0
      (stuckSizes pack size).flatten)).toFinset.filter (·.players.length = 1) := by
    intro ticket inside
    obtain ⟨issued, single⟩ := members ticket (List.mem_toFinset.mp inside)
    exact Finset.mem_filter.mpr ⟨List.mem_toFinset.mpr issued, single⟩
  rw [remaining, Finset.card_sdiff_of_subset taken, card_singles_partiesOf,
    count_stuckSizes several, List.toFinset_card_of_nodup nodup, filled]
  have copies := stuckCopies_mul left
  omega

/-- A commit of queued tickets moves them to searching. -/
theorem World.partyCommit_of_queued (group : WorkerGroup) (world : World)
    {chosen : List MatchTicket} (nonempty : chosen ≠ []) (nodup : chosen.Nodup)
    (queued : ∀ ticket ∈ chosen, world.ticketStatus ticket = .queued) :
    (perform (.partyCommit group ((chosen.map MatchTicket.matchmakingRequest).map some))
      world).ticketStatus = moveAll chosen .searching world.ticketStatus := by
  have result : world.partyCommit group
      ((chosen.map MatchTicket.matchmakingRequest).map some) =
        (true, (chosen.map MatchTicket.matchmakingRequest).foldl
          (PartyMatchmakingWorkerGroup.eraseFromRange group.workerCount world.workerSlot)
          (world.partyGroup group), moveAll chosen .searching world.ticketStatus) := by
    rw [World.partyCommit, List.map_map]
    exact PartyMatchmakingWorkerGroup.tryCommit_of_queued nonempty nodup queued
  rw [perform, result]
  rfl

/-- After all submissions the worker may fill its first match with single players only. -/
theorem exists_singles_committed
    (served : deployment.getWorkerGroup .party group.workerGroupKey = some group)
    (single : group.workerCount = 1) (packed : group.matchmakingRule.matchPlayerCount = pack)
    (positive : 1 ≤ size) (several : size ≠ 1) (short : pack % size < pack)
    (fits : (size : Int) ≤ group.matchmakingRule.partyAvailablePlayerCount)
    (left : 0 < pack % size) :
    ∃ trace world runs, TrafficRun deployment group
        (trafficOf group 0 (stuckSizes pack size)).flatten trace ⟨world, runs ++ [.done ()]⟩ ∧
      formedMatches trace ≤ 1 ∧
      ∃ chosen : List MatchTicket, chosen.Nodup ∧ chosen.length = pack ∧
        (∀ ticket ∈ chosen,
          ticket ∈ issuedTickets (partiesOf group 0 (stuckSizes pack size).flatten) ∧
            ticket.players.length = 1) ∧
        ((world.partyGroup group).workers 0).Holds
          (· ∈ (issuedTickets (partiesOf group 0 (stuckSizes pack size).flatten)).toFinset.filter
            (· ∉ chosen)) := by
  have players : 1 ≤ group.matchmakingRule.matchPlayerCount := by omega
  have parties : 1 ≤ group.matchmakingRule.partyAvailablePlayerCount := by omega
  have traffic := partyTraffic_stuckSizes packed positive fits left
  obtain ⟨trace, world, run, unformed, queued, holds⟩ :=
    traffic.exists_submitted served single players parties
  have requested : (trafficOf group 0 (stuckSizes pack size)).flatten =
      partiesOf group 0 (stuckSizes pack size).flatten := flatten_trafficOf 0 _
  -- The worker takes single players only.
  obtain ⟨oldest, waits, alone, first⟩ := exists_first_single group left short
  obtain ⟨chosen, found, nodup, members, filled⟩ :=
    PartyMatchmakingWorker.makeMatchmaking_singles players parties holds
      (traffic.admitted holds fun ticket inside => List.mem_toFinset.mp inside)
      (fun ticket inside => queued ticket (List.mem_toFinset.mp inside))
      (by
        rw [packed, Int.toNat_natCast, requested, card_singles_partiesOf, count_stuckSizes several]
        exact (stuckCopies_mul left).1)
      (List.mem_toFinset.mpr (requested ▸ waits)) alone fun ticket inside => by
        obtain ⟨index, -, request, -, rfl⟩ :=
          exists_request_of_mem_issuedTickets (List.mem_toFinset.mp inside)
        rw [first]
        change (1000 : Int) ≤ 1000 + (index : Int)
        omega
  simp only [List.mem_toFinset] at members
  have nonempty : chosen ≠ [] := by
    rintro rfl
    rw [List.length_nil] at filled
    omega
  obtain ⟨trace', last, committed, formed⟩ := run.exists_committed served found
    (mt List.map_eq_nil_iff.mp nonempty)
  refine ⟨trace', _, _, committed, by omega, chosen, nodup, ?_, fun ticket inside =>
    requested ▸ members ticket inside, ?_⟩
  · rw [packed] at filled
    exact Int.ofNat_inj.mp filled
  · have statuses := World.partyCommit_of_queued group world nonempty nodup
      fun ticket inside => queued ticket (members ticket inside).1
    refine ((traffic.outcome served players parties committed).1.holds served single
      traffic.addressed).congr fun ticket => ?_
    rw [statuses, Finset.mem_filter, List.mem_toFinset, requested]
    refine and_congr_right fun inside => ?_
    by_cases taken : ticket ∈ chosen
    · rw [moveAll_of_mem taken]
      exact iff_of_false (fun outside => outside taken) MatchTicketStatus.noConfusion
    · rw [moveAll_of_not_mem taken]
      exact iff_of_true taken (queued ticket (requested ▸ inside))

/-- **Traffic gets stuck** if a party size that fits into a match does not divide it. -/
theorem not_drainsTraffic_of_left
    (served : deployment.getWorkerGroup .party group.workerGroupKey = some group)
    (single : group.workerCount = 1) (packed : group.matchmakingRule.matchPlayerCount = pack)
    (positive : 1 ≤ size) (small : size ≤ pack)
    (fits : (size : Int) ≤ group.matchmakingRule.partyAvailablePlayerCount)
    (left : 0 < pack % size) : ¬ DrainsTraffic deployment group := by
  have short : pack % size < pack := (Nat.mod_lt pack positive).trans_le small
  have several : size ≠ 1 := by
    rintro rfl
    omega
  have traffic := partyTraffic_stuckSizes packed positive fits left
  obtain ⟨trace, world, runs, run, formed, chosen, nodup, filled, members, holds⟩ :=
    exists_singles_committed served single packed positive several short fits left
  have idle : ((world.partyGroup group).workers 0).makeMatchmaking world.ticketStatus (.asListed _)
      group.matchmakingRule = [] := by
    refine PartyMatchmakingWorker.makeMatchmaking_eq_nil_of_few_singles (by omega) (by omega) holds
      (traffic.admitted holds fun ticket inside => ?_) (fun ticket inside =>
        players_of_mem_issuedTickets (List.mem_toFinset.mp (Finset.mem_filter.mp inside).1)) ?_ _
    · rw [flatten_trafficOf]
      exact List.mem_toFinset.mp (Finset.mem_filter.mp inside).1
    · rw [packed, Int.toNat_natCast]
      exact card_left_singles several left nodup filled members
  intro drains
  have several_submitted := one_lt_stuckCopies left short
  have all_formed := (drains _ traffic _ _ _ run _ idle).2
  rw [length_trafficOf, stuckSizes, List.length_replicate] at all_formed
  omega

end Stuck

/-- **A single worker drains every traffic** if and only if every party size that fits
into a match divides it. -/
theorem party_traffic_drains_iff
    (served : deployment.getWorkerGroup .party group.workerGroupKey = some group)
    (single : group.workerCount = 1) (players : 1 ≤ group.matchmakingRule.matchPlayerCount)
    (parties : 1 ≤ group.matchmakingRule.partyAvailablePlayerCount) :
    DrainsTraffic deployment group ↔
      ∀ size, 1 ≤ size → size ≤ group.matchmakingRule.matchPlayerCount →
        size ≤ group.matchmakingRule.partyAvailablePlayerCount →
        size ∣ group.matchmakingRule.matchPlayerCount := by
  refine ⟨fun drains size positive small fits => ?_, drainsTraffic_of_dvd served single players
    parties⟩
  obtain ⟨pack, packed⟩ := Int.eq_ofNat_of_zero_le (by omega :
    0 ≤ group.matchmakingRule.matchPlayerCount)
  obtain ⟨count, counted⟩ := Int.eq_ofNat_of_zero_le (by omega : 0 ≤ size)
  rw [packed, counted] at small
  rw [counted] at positive fits
  by_contra indivisible
  rw [packed, counted, Int.ofNat_dvd, Nat.dvd_iff_mod_eq_zero] at indivisible
  exact not_drainsTraffic_of_left served single packed (Int.ofNat_le.mp positive)
    (Int.ofNat_le.mp small) fits (Nat.pos_of_ne_zero indivisible) drains

/-! ## Traffic to one zone -/

/-- The only group of a single rule, with one worker. -/
def soleGroup (rule : MatchmakingRule) : WorkerGroup :=
  ⟨(0, rule.matchZoneId), rule, 1, Nat.one_pos⟩

def soleDeployment (rule : MatchmakingRule) : Deployment :=
  ⟨fun _ => [rule], fun _ => 1, fun _ => Nat.one_pos⟩

theorem served_soleGroup (rule : MatchmakingRule) :
    (soleDeployment rule).getWorkerGroup .party (soleGroup rule).workerGroupKey =
      some (soleGroup rule) := by
  simp [Deployment.getWorkerGroup, soleDeployment, soleGroup, kDefaultWorldGroups]

/-- Matches of two players, who may be one party. -/
def duelRule : MatchmakingRule := ⟨"Arena", 2, 2, MatchmakingRule.inRange_two⟩

theorem party_traffic_drains_iff_duel :
    DrainsTraffic (soleDeployment duelRule) (soleGroup duelRule) ↔
      ∀ size, 1 ≤ size → size ≤ (2 : Int) → size ≤ (2 : Int) → size ∣ (2 : Int) :=
  party_traffic_drains_iff (served_soleGroup duelRule) rfl one_le_two one_le_two

/-- Matches of four players, who may be one party. -/
def dungeonRule : MatchmakingRule :=
  { matchZoneId := "Dungeon", matchPlayerCount := 4, partyAvailablePlayerCount := 4,
    inRange := MatchmakingRule.inRange_four }

def dungeonTraffic : List (List MatchTicketRequest) :=
  trafficOf (soleGroup dungeonRule) 0 [[2, 2], [3, 1], [3, 1]]

/-- All submissions are in. -/
def dungeonSubmitted : World :=
  ((submitAll (soleDeployment dungeonRule) dungeonTraffic.flatten).run perform {}).2

def dungeonWorkerRun : Operation Unit :=
  (Call.partyWorkerRun (0, "Dungeon") 0 (.asListed _) (.asListed _)).program
    (soleDeployment dungeonRule)

/-- The first match takes one of the pairs and both single players. -/
def dungeonLeft : World := (dungeonWorkerRun.run perform dungeonSubmitted).2

theorem partyTraffic_dungeonTraffic : PartyTraffic (soleGroup dungeonRule) dungeonTraffic :=
  partyTraffic_trafficOf (by decide) (by decide) (by decide)

/-- One pair and the two parties of three players are left, and no match is found. -/
theorem dungeonTraffic_left :
    ∃ trace, TrafficRun (soleDeployment dungeonRule) (soleGroup dungeonRule)
        dungeonTraffic.flatten trace ⟨dungeonLeft, [.done ()] ++ [.done ()]⟩ ∧
      formedMatches trace = 1 ∧
      ((dungeonLeft.partyGroup (soleGroup dungeonRule)).workers 0).waitingQueue.keys =
        [1001, 1002, 1004] ∧
      ((dungeonLeft.partyGroup (soleGroup dungeonRule)).workers 0).makeMatchmaking
        dungeonLeft.ticketStatus (.asListed _) dungeonRule = [] := by
  have submitted : TrafficRun (soleDeployment dungeonRule) (soleGroup dungeonRule)
      dungeonTraffic.flatten _ ⟨dungeonSubmitted, [.done ()]⟩ :=
    PoolRun.finish (fun _ _ => trivial) .start
  have finished : TrafficRun (soleDeployment dungeonRule) (soleGroup dungeonRule)
      dungeonTraffic.flatten _ ⟨dungeonLeft, [.done ()] ++ [.done ()]⟩ :=
    PoolRun.finish (fun _ _ => trivial) (.join submitted ⟨_, _, rfl⟩)
  exact ⟨_, finished, by decide +kernel, by decide +kernel, by decide +kernel⟩

theorem dungeon_traffic_not_drained :
    (soleDeployment dungeonRule).getWorkerGroup .party (soleGroup dungeonRule).workerGroupKey =
        some (soleGroup dungeonRule) ∧ (soleGroup dungeonRule).workerCount = 1 ∧
      ¬ DrainsTraffic (soleDeployment dungeonRule) (soleGroup dungeonRule) := by
  refine ⟨served_soleGroup dungeonRule, rfl, fun drains => ?_⟩
  obtain ⟨trace, run, formed, -, idle⟩ := dungeonTraffic_left
  have all_formed := (drains _ partyTraffic_dungeonTraffic _ _ _ run _ idle).2
  rw [formed] at all_formed
  cases all_formed

end MatchmakingMvp
