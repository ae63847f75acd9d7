import MatchmakingMvp.System.PartyRanges
import MatchmakingMvp.Worker.Candidates
import MatchmakingMvp.Worker.Matching

/-! # The three books of a party worker

A party worker records a waiting request in its queue, in the bucket of its size and in the count
of that size, and the matcher trusts each of the three to agree with the others
(`MatchmakingMvp.PartyMatchmakingWorker.Agrees`). Over the calls on its group they always
agree, and every waiting size is one the rule has combinations for
(`MatchmakingMvp.party_books_agree`), so that the statistics of a matched size are always found.
-/

namespace MatchmakingMvp

open Foundation

/-! ## Runs of a group -/

/-- The tickets a call is about. -/
def PartyGroupCall.tickets : PartyGroupCall → List MatchTicket
  | .enqueueJobRequest request => request.matchTicketPtr.toList
  | .cancelMatchTicket ticket => [ticket]
  | .tryCommitMatchmakingRequests listed =>
      listed.reduceOption.filterMap MatchmakingRequest.matchTicketPtr
  | .tick _ | .expandMatchmakingWorkerSlot => []

/-- The states of a group that starts empty. Calls about known tickets are made on it, and between
them the rest of the system changes anything but the group, such as the statuses of its
tickets. -/
inductive PartyGroupRun (group : WorkerGroup) (known : MatchTicket → Prop) : World → Prop
  | start {world : World} (empty : world.partyGroup group = {}) : PartyGroupRun group known world
  | call {world : World} (before : PartyGroupRun group known world) (call : PartyGroupCall)
      (own : ∀ ticket ∈ call.tickets, known ticket) :
      PartyGroupRun group known (call.complete group world)
  | elsewhere {world after : World} (before : PartyGroupRun group known world)
      (same : after.partyGroup group = world.partyGroup group) : PartyGroupRun group known after

section Books

variable {group : WorkerGroup} (rule : MatchmakingRule) {known : MatchTicket → Prop}
  {world : World}

/-- A request of a known ticket whose size the rule has combinations for. -/
def FitsRule (known : MatchTicket → Prop) (request : MatchmakingRequest) : Prop :=
  ∃ ticket, request.matchTicketPtr = some ticket ∧ known ticket ∧
    rule.combination.contains request.playerCount = true

/-- The books agree and record fitting requests only. -/
def PartyMatchmakingWorker.InOrder (known : MatchTicket → Prop) (worker : PartyMatchmakingWorker) :
    Prop :=
  worker.Agrees ∧ worker.Every (FitsRule rule known)

theorem PartyMatchmakingWorker.inOrder_maintained
    (unique : ∀ first second, known first → known second →
      first.matchTicketId = second.matchTicketId → first = second) :
    PartyMatchmakingWorker.Maintained (FitsRule rule known) known
      (PartyMatchmakingWorker.InOrder rule known) where
  enqueueJobRequest inOrder fits :=
    ⟨inOrder.1.enqueueJobRequest _, inOrder.2.enqueueJobRequest fits⟩
  erase {worker ticket} inOrder own := by
    refine ⟨inOrder.1.erase fun request found => ?_, inOrder.2.erase _⟩
    obtain ⟨other, pointer, otherKnown, -⟩ := inOrder.2.waiting _ _ found
    have id := inOrder.1.identified _ _ found
    rw [MatchmakingRequest.matchTicketId, pointer] at id
    rw [MatchmakingRequest.playerCount, pointer, unique other ticket otherKnown own id]

theorem PartyGroupCall.upholds_complete
    (unique : ∀ first second, known first → known second →
      first.matchTicketId = second.matchTicketId → first = second)
    (upholds : (world.partyGroup group).Upholds
      (PartyMatchmakingWorker.InOrder group.matchmakingRule known)
      (FitsRule group.matchmakingRule known)) {call : PartyGroupCall}
    (own : ∀ ticket ∈ call.tickets, known ticket) :
    ((call.complete group world).partyGroup group).Upholds
      (PartyMatchmakingWorker.InOrder group.matchmakingRule known)
      (FitsRule group.matchmakingRule known) := by
  have maintained := PartyMatchmakingWorker.inOrder_maintained group.matchmakingRule unique
  cases call with
  | tick timeMsec => exact upholds
  | enqueueJobRequest request =>
      cases pointer : request.matchTicketPtr with
      | none =>
          rw [complete_enqueueJobRequest_of_none pointer]
          exact upholds
      | some ticket =>
          have mine : known ticket := own ticket (by simp [tickets, pointer])
          rw [complete_enqueueJobRequest pointer]
          split_ifs with unfit
          · exact upholds
          · rw [World.partyGroup_partyEnqueue]
            exact upholds.enqueueSection maintained ⟨ticket, pointer, mine, by simpa using unfit⟩
              mine
  | expandMatchmakingWorkerSlot =>
      have stored : ((PartyGroupCall.expandMatchmakingWorkerSlot.complete group world).partyGroup
          group) = (world.partyExpand group).1 := Function.update_self _ _ _
      rw [stored]
      exact upholds.expandMatchmakingWorkerSlot maintained _
  | tryCommitMatchmakingRequests listed =>
      have stored : (((PartyGroupCall.tryCommitMatchmakingRequests listed).complete group
          world).partyGroup group) = (world.partyCommit group listed).2.1 :=
        Function.update_self _ _ _
      rw [stored]
      refine upholds.tryCommitMatchmakingRequests maintained fun request inside ticket pointer =>
        own ticket ?_
      exact List.mem_filterMap.mpr ⟨request, List.reduceOption_mem_iff.mpr inside, pointer⟩
  | cancelMatchTicket ticket =>
      have stored : (((PartyGroupCall.cancelMatchTicket ticket).complete group world).partyGroup
          group) = (world.partyCancel group ticket).2.1 := Function.update_self _ _ _
      rw [stored]
      exact upholds.cancelMatchTicket maintained (own ticket List.mem_cons_self)

theorem PartyGroupRun.upholds
    (unique : ∀ first second, known first → known second →
      first.matchTicketId = second.matchTicketId → first = second)
    (run : PartyGroupRun group known world) :
    (world.partyGroup group).Upholds
      (PartyMatchmakingWorker.InOrder group.matchmakingRule known)
      (FitsRule group.matchmakingRule known) := by
  induction run with
  | start empty =>
      rw [empty]
      exact ⟨fun _ => ⟨.default, .default⟩, nofun⟩
  | call _ call own ih => exact PartyGroupCall.upholds_complete unique ih own
  | elsewhere _ same ih =>
      rw [same]
      exact ih

/-- **The books of a party worker agree** in every run of its group in which a ticket id belongs
to one ticket. The queue is the disjoint union of the buckets, a bucket has the requests of its
size, the count of a size is the size of its bucket, and every waiting size has combinations. So
every request of a matching list has statistics. -/
theorem party_books_agree
    (unique : ∀ first second, known first → known second →
      first.matchTicketId = second.matchTicketId → first = second)
    (run : PartyGroupRun group known world) (index : Int) :
    let worker := (world.partyGroup group).workers index
    (∀ id request, worker.waitingQueue.find? id = some request ↔
        ∃ size, (worker.bucket size).find? id = some request) ∧
      (∀ id size other request rival, (worker.bucket size).find? id = some request →
        (worker.bucket other).find? id = some rival → size = other) ∧
      (∀ size id request, (worker.bucket size).find? id = some request →
        request.playerCount = size) ∧
      (∀ size, worker.queuedCount size = (worker.bucket size).size ∧
        ∀ count, worker.queuedCountByPlayerCount.find? size = some count → 0 ≤ count) ∧
      (∀ id request, worker.waitingQueue.find? id = some request →
        group.matchmakingRule.combination.contains request.playerCount = true) ∧
      ∀ statuses order, ∀ request ∈ worker.makeMatchmaking statuses order group.matchmakingRule,
        group.matchmakingRule.combination.contains request.playerCount = true := by
  intro worker
  obtain ⟨agrees, every⟩ := (run.upholds unique).workers index
  refine ⟨fun id request => ?_, fun id size other request rival here there => ?_,
    fun size id request found => ((agrees.buckets size id request).mp found).2, fun size => ?_,
    fun id request found => ?_, fun statuses order request inside => ?_⟩
  · refine ⟨fun found => ⟨_, (agrees.buckets _ id request).mpr ⟨found, rfl⟩⟩, ?_⟩
    rintro ⟨size, found⟩
    exact ((agrees.buckets size id request).mp found).1
  · obtain ⟨found, sized⟩ := (agrees.buckets size id request).mp here
    obtain ⟨same, otherSized⟩ := (agrees.buckets other id rival).mp there
    rw [← sized, ← otherSized, Option.some.inj (found.symm.trans same)]
  · have counted := agrees.counts size
    refine ⟨counted, fun count found => ?_⟩
    rw [PartyMatchmakingWorker.queuedCount, found, Option.getD_some] at counted
    exact counted ▸ Int.natCast_nonneg _
  · obtain ⟨-, -, -, fits⟩ := every.waiting id request found
    exact fits
  · obtain ⟨-, -, -, fits⟩ :=
      (PartyMatchmakingWorker.makeMatchmaking_sound every order group.matchmakingRule).1 request
        inside
    exact fits

end Books

/-- A party with an id of its own. -/
private def bookedTicket (id : MatchTicketId) (players : OrderedSet PlayerKey) : MatchTicket :=
  ⟨id.toNat, { worldNo := 0, matchZoneId := "Arena", matchTicketId := id, players := players }, 0⟩

private def bookedGroup : WorkerGroup :=
  ⟨(0, "Arena"), ⟨"Arena", 2, 2, MatchmakingRule.inRange_two⟩, 2, Nat.two_pos⟩

/-- A party of two and a party of one are enqueued, and the party of one is cancelled. -/
private def bookedCalls : List PartyGroupCall :=
  [.enqueueJobRequest (bookedTicket 4 ⟨[2, 9], by decide⟩).matchmakingRequest,
    .enqueueJobRequest (bookedTicket 6 (.single 7)).matchmakingRequest,
    .cancelMatchTicket (bookedTicket 6 (.single 7))]

theorem party_books_agree_pair :
    let worker := ((PartyGroupCall.completeAll bookedGroup bookedCalls {}).partyGroup
      bookedGroup).workers 0
    worker.queuedCount 2 = (worker.bucket 2).size ∧ worker.queuedCount 2 = 1 ∧
      worker.queuedCount 1 = 0 := by
  let known : MatchTicket → Prop := (· ∈ bookedCalls.flatMap PartyGroupCall.tickets)
  have unique : ∀ first second, known first → known second →
      first.matchTicketId = second.matchTicketId → first = second := by
    have among : ∀ first ∈ bookedCalls.flatMap PartyGroupCall.tickets,
        ∀ second ∈ bookedCalls.flatMap PartyGroupCall.tickets,
        first.matchTicketId = second.matchTicketId → first = second := by decide
    exact fun first second inFirst inSecond => among first inFirst second inSecond
  have run : PartyGroupRun bookedGroup known
      (PartyGroupCall.completeAll bookedGroup bookedCalls {}) := by
    refine .call (.call (.call (.start rfl) _ ?_) _ ?_) _ ?_ <;> decide
  exact ⟨((party_books_agree unique run 0).2.2.2.1 2).1, by decide +kernel, by decide +kernel⟩

end MatchmakingMvp
