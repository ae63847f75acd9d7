import MatchmakingMvp.Worker.Entries

/-! # The candidates of a party worker

A candidate takes, for every party size of a combination, the first queued tickets
of that size. `MatchmakingMvp.PartyMatchmakingWorker.makeMatchmaking` returns the
best of the candidates that fill a match.
-/

namespace MatchmakingMvp

open Foundation

namespace PartyMatchmakingWorker

variable {worker : PartyMatchmakingWorker} {statuses : TicketStatuses}
  {property : MatchmakingRequest → Prop}

theorem every_queuedRequests {queue : WaitingQueue} (every : WaitingQueue.Every property queue) :
    ∀ request ∈ queuedRequests statuses queue, property request :=
  fun _ member => every.of_mem_values (List.mem_of_mem_filter member)

theorem every_selectRequests (every : worker.Every property) {needs : List (Int × Int)}
    {selected : List MatchmakingRequest}
    (selects : worker.selectRequests statuses needs = some selected) :
    ∀ request ∈ selected, property request := by
  induction needs generalizing selected with
  | nil =>
      rw [selectRequests, Option.some.injEq] at selects
      subst selects
      nofun
  | cons need rest ih =>
      obtain ⟨needPlayerCount, needTicketCount⟩ := need
      rw [selectRequests] at selects
      cases found : worker.waitingQueueByPlayerCount.find? needPlayerCount with
      | none =>
          rw [found] at selects
          cases selects
      | some queue =>
          simp only [found] at selects
          split_ifs at selects
          obtain ⟨others, selectsOthers, rfl⟩ := Option.map_eq_some_iff.mp selects
          intro request member
          rcases List.mem_append.mp member with taken | inside
          · exact every_queuedRequests (every.buckets _ _ found) request
              (List.mem_of_mem_take taken)
          · exact ih selectsOthers request inside

theorem every_buildCandidate (every : worker.Every property) {combination : GroupedCombination}
    {candidate : List MatchmakingRequest}
    (builds : worker.buildCandidate statuses combination = some candidate) :
    ∀ request ∈ candidate, property request := by
  rw [buildCandidate] at builds
  split_ifs at builds
  split at builds
  · cases builds
  · cases builds
  next selected _ selects =>
    cases builds
    exact every_selectRequests every selects

/-- The requests of a bucket that is in order are distinct. -/
theorem nodup_queuedRequests {queue : WaitingQueue}
    (identified : ∀ id request, queue.find? id = some request → request.matchTicketId = id) :
    (queuedRequests statuses queue).Nodup := by
  refine List.Nodup.filter _ (List.pairwise_map.mpr (queue.ascending.imp_of_mem ?_))
  intro first second inFirst inSecond before same
  have firstId := identified _ _ (OrderedMap.find?_eq_some_iff.mpr inFirst)
  have secondId := identified _ _ (OrderedMap.find?_eq_some_iff.mpr inSecond)
  rw [same, secondId] at firstId
  exact before.ne firstId.symm

/-- The requests selected have the sizes needed, and are distinct. -/
theorem nodup_selectRequests (filed : worker.Filed) {needs : List (Int × Int)}
    (distinct : (needs.map Prod.fst).Nodup) {selected : List MatchmakingRequest}
    (selects : worker.selectRequests statuses needs = some selected) :
    selected.Nodup ∧ ∀ request ∈ selected, request.playerCount ∈ needs.map Prod.fst := by
  induction needs generalizing selected with
  | nil =>
      rw [selectRequests, Option.some.injEq] at selects
      subst selects
      exact ⟨List.nodup_nil, nofun⟩
  | cons need rest ih =>
      obtain ⟨needPlayerCount, needTicketCount⟩ := need
      obtain ⟨fresh, distinct⟩ := List.nodup_cons.mp distinct
      rw [selectRequests] at selects
      cases found : worker.waitingQueueByPlayerCount.find? needPlayerCount with
      | none =>
          rw [found] at selects
          cases selects
      | some queue =>
          have own : ∀ id request, queue.find? id = some request →
              request.matchTicketId = id ∧ request.playerCount = needPlayerCount :=
            fun id request stored => filed needPlayerCount id request (by
              rwa [bucket, found, Option.getD_some])
          simp only [found] at selects
          split_ifs at selects
          obtain ⟨others, selectsOthers, rfl⟩ := Option.map_eq_some_iff.mp selects
          obtain ⟨nodup, sizes⟩ := ih distinct selectsOthers
          have every : WaitingQueue.Every (fun request => request.playerCount = needPlayerCount)
              queue := fun id request stored => (own id request stored).2
          have sized : ∀ request ∈ (queuedRequests statuses queue).take needTicketCount.toNat,
              request.playerCount = needPlayerCount := fun request taken =>
            every_queuedRequests every request (List.mem_of_mem_take taken)
          refine ⟨List.nodup_append'.mpr ⟨?_, nodup, fun request taken inside => ?_⟩,
            fun request member => ?_⟩
          · exact (nodup_queuedRequests fun id request stored => (own id request stored).1).sublist
              (List.take_sublist _ _)
          · exact fresh (sized request taken ▸ sizes request inside)
          · rcases List.mem_append.mp member with taken | inside
            · rw [sized request taken]
              exact List.mem_cons_self
            · exact List.mem_cons_of_mem _ (sizes request inside)

theorem nodup_buildCandidate (filed : worker.Filed) {combination : GroupedCombination}
    {candidate : List MatchmakingRequest}
    (builds : worker.buildCandidate statuses combination = some candidate) : candidate.Nodup := by
  rw [buildCandidate] at builds
  split_ifs at builds
  split at builds
  · cases builds
  · cases builds
  next selected _ selects =>
    cases builds
    exact (nodup_selectRequests filed (OrderedMap.keys_nodup _) selects).1

/-- The best candidate so far is empty, or a candidate that fills a match. -/
private def Best.Sound (worker : PartyMatchmakingWorker) (statuses : TicketStatuses)
    (rule : MatchmakingRule) (best : Best) : Prop :=
  best.matchingList = [] ∨ ∃ combination,
    worker.buildCandidate statuses combination = some best.matchingList ∧
      (best.matchingList.map MatchmakingRequest.playerCount).sum = rule.matchPlayerCount

private theorem Best.Sound.considerCombination {rule : MatchmakingRule} {best : Best}
    (sound : best.Sound worker statuses rule) (combination : GroupedCombination) :
    (worker.considerCombination statuses rule best combination).Sound worker statuses rule := by
  rw [PartyMatchmakingWorker.considerCombination]
  cases builds : worker.buildCandidate statuses combination with
  | none => exact sound
  | some candidate =>
      simp only
      split_ifs with unfit better
      · exact sound
      · exact Or.inr ⟨combination, builds, not_not.mp fun wrong => unfit (Or.inl wrong)⟩
      · exact sound

private theorem Best.Sound.considerPlayerCount {rule : MatchmakingRule} {best : Best}
    (sound : best.Sound worker statuses rule) (playerCount : Int) :
    (worker.considerPlayerCount statuses rule best playerCount).Sound worker statuses rule := by
  rw [PartyMatchmakingWorker.considerPlayerCount]
  split_ifs
  · exact sound
  · generalize rule.getCombination playerCount = combinations
    induction combinations generalizing best with
    | nil => exact sound
    | cons combination rest ih => exact ih (sound.considerCombination combination)

/-- A matching list is a candidate that fills a match. -/
theorem makeMatchmaking_cases (worker : PartyMatchmakingWorker) (statuses : TicketStatuses)
    (order : IterationOrder Int) (rule : MatchmakingRule) :
    worker.makeMatchmaking statuses order rule = [] ∨ ∃ combination,
      worker.buildCandidate statuses combination =
        some (worker.makeMatchmaking statuses order rule) ∧
      ((worker.makeMatchmaking statuses order rule).map MatchmakingRequest.playerCount).sum =
        rule.matchPlayerCount := by
  rw [makeMatchmaking]
  split_ifs
  · exact Or.inl rfl
  · have initial : Best.Sound worker statuses rule {} := Or.inl rfl
    generalize order.1 worker.queuedCountByPlayerCount.keys = sizes
    generalize ({} : Best) = best at initial
    induction sizes generalizing best with
    | nil => exact initial
    | cons playerCount rest ih => exact ih _ (initial.considerPlayerCount playerCount)

/-- **A matching list** consists of stored requests and fills a match. -/
theorem makeMatchmaking_sound (every : worker.Every property) (order : IterationOrder Int)
    (rule : MatchmakingRule) :
    (∀ request ∈ worker.makeMatchmaking statuses order rule, property request) ∧
      (worker.makeMatchmaking statuses order rule ≠ [] →
        ((worker.makeMatchmaking statuses order rule).map MatchmakingRequest.playerCount).sum =
          rule.matchPlayerCount) := by
  rcases worker.makeMatchmaking_cases statuses order rule with nothing | ⟨_, builds, total⟩
  · rw [nothing]
    exact ⟨nofun, fun nonempty => (nonempty rfl).elim⟩
  · exact ⟨every_buildCandidate every builds, fun _ => total⟩

/-- No request is listed twice. -/
theorem nodup_makeMatchmaking (filed : worker.Filed) (order : IterationOrder Int)
    (rule : MatchmakingRule) : (worker.makeMatchmaking statuses order rule).Nodup := by
  rcases worker.makeMatchmaking_cases statuses order rule with nothing | ⟨_, builds, -⟩
  · rw [nothing]
    exact List.nodup_nil
  · exact nodup_buildCandidate filed builds

end PartyMatchmakingWorker

end MatchmakingMvp
