import MatchmakingMvp.Worker.Range

/-! # A commit takes all of its list or nothing

A commit checks the whole list, changes the statuses one by one, setting the changed ones back
at the first that refuses, and then erases the requests from the workers of their ranges.
Whatever the list contains, either all of its tickets leave their workers or nothing changes
(`MatchmakingMvp.PartyMatchmakingWorkerGroup.tryCommit_all_or_nothing`).
-/

namespace MatchmakingMvp

open Foundation

theorem WaitingQueue.Stores.eq_of_matchTicketId {stored : MatchTicket → Prop}
    {queue : WaitingQueue} (stores : WaitingQueue.Stores stored queue)
    {first second : MatchTicket} (inFirst : stored first) (inSecond : stored second)
    (same : first.matchTicketId = second.matchTicketId) : first = second := by
  have found := stores.find?_of_stored inFirst
  rw [same, stores.find?_of_stored inSecond] at found
  exact (Option.some.inj (congrArg MatchmakingRequest.matchTicketPtr (Option.some.inj found))).symm

namespace PartyMatchmakingWorkerGroup

variable {workerCount : Nat} {slots : MatchmakingRequest → WorkerSlot}
  {group : PartyMatchmakingWorkerGroup} {statuses : TicketStatuses}
  {held : Int → MatchTicket → Prop} {matchingRequestList : List (Option MatchmakingRequest)}

/-- The queued tickets are held by the workers of their ranges and by no others. -/
def OccupyRanges (held : Int → MatchTicket → Prop) (slots : MatchmakingRequest → WorkerSlot)
    (workerCount : Nat) (statuses : TicketStatuses) : Prop :=
  ∀ index ticket, statuses ticket = .queued →
    (held index ticket ↔ (slots ticket.matchmakingRequest).Covers workerCount index ∧
      hasWorker workerCount index = true)

/-- A list of requests that a commit accepts: not empty, without null pointers or repetitions,
and with queued tickets only. -/
def Committable (statuses : TicketStatuses)
    (matchingRequestList : List (Option MatchmakingRequest)) : Prop :=
  matchingRequestList ≠ [] ∧ matchingRequestList.Nodup ∧
    ∀ entry ∈ matchingRequestList, ∃ request ticket, entry = some request ∧
      request.matchTicketPtr = some ticket ∧ statuses ticket = .queued

/-- A request is the one made for its ticket. -/
def OwnRequests (matchingRequestList : List (Option MatchmakingRequest)) : Prop :=
  ∀ request, some request ∈ matchingRequestList →
    ∀ ticket, request.matchTicketPtr = some ticket → request = ticket.matchmakingRequest

/-- Such a list consists of the requests of distinct queued tickets. -/
theorem Committable.exists_tickets (committable : Committable statuses matchingRequestList)
    (own : OwnRequests matchingRequestList) :
    ∃ tickets : List MatchTicket,
      matchingRequestList = tickets.map (some ∘ MatchTicket.matchmakingRequest) ∧
        tickets ≠ [] ∧ tickets.Nodup ∧ ∀ ticket ∈ tickets, statuses ticket = .queued := by
  obtain ⟨nonempty, nodup, queued⟩ := committable
  have requested : ∀ entry ∈ matchingRequestList,
      entry ∈ Set.range (some ∘ MatchTicket.matchmakingRequest) := by
    intro entry inside
    obtain ⟨request, ticket, rfl, pointer, -⟩ := queued entry inside
    exact ⟨ticket, congrArg some (own request inside ticket pointer).symm⟩
  obtain ⟨tickets, rfl⟩ := (Set.ext_iff.mp (Set.range_list_map _) _).mpr requested
  refine ⟨tickets, rfl, fun empty => nonempty (by rw [empty]; rfl), nodup.of_map _,
    fun ticket inside => ?_⟩
  obtain ⟨request, other, same, pointer, status⟩ := queued _ (List.mem_map_of_mem inside)
  rw [← Option.some.inj same] at pointer
  cases pointer
  exact status

theorem committable_of_ticketsOf {requests : List MatchmakingRequest}
    {tickets : List MatchTicket} (ticketsOf : TicketsOf requests tickets) (nonempty : tickets ≠ [])
    (nodup : tickets.Nodup) (queued : ∀ ticket ∈ tickets, statuses ticket = .queued) :
    Committable statuses (requests.map some) := by
  have distinct : requests.Nodup :=
    List.Nodup.of_map MatchmakingRequest.matchTicketPtr
      (ticketsOf.symm ▸ nodup.map (Option.some_injective _))
  refine ⟨fun empty => nonempty ?_, distinct.map (Option.some_injective _), ?_⟩
  · rw [TicketsOf, List.map_eq_nil_iff.mp empty, List.map_nil] at ticketsOf
    exact List.map_eq_nil_iff.mp ticketsOf.symm
  · intro entry inside
    obtain ⟨request, member, rfl⟩ := List.mem_map.mp inside
    obtain ⟨ticket, carried, pointer⟩ := ticketsOf.ticket_of_mem member
    exact ⟨request, ticket, rfl, pointer, queued ticket carried⟩

/-- A commit of distinct queued tickets changes them all and erases their requests. -/
theorem tryCommit_of_queued {tickets : List MatchTicket} (nonempty : tickets ≠ [])
    (nodup : tickets.Nodup) (queued : ∀ ticket ∈ tickets, statuses ticket = .queued) :
    group.tryCommitMatchmakingRequests workerCount slots
        (tickets.map (some ∘ MatchTicket.matchmakingRequest)) statuses =
      (true, (tickets.map MatchTicket.matchmakingRequest).foldl
        (eraseFromRange workerCount slots) group, moveAll tickets .searching statuses) := by
  have pointers : tickets.map (some ∘ MatchTicket.matchmakingRequest) =
      (tickets.map MatchTicket.matchmakingRequest).map some := (List.map_map ..).symm
  have ticketsOf : TicketsOf (tickets.map MatchTicket.matchmakingRequest) tickets := by
    rw [TicketsOf, List.map_map]
    rfl
  have firsts : (tickets.map fun ticket => (ticket, MatchTicketStatus.queued)).map Prod.fst =
      tickets := by
    simp [List.map_map, Function.comp_def]
  have ready : Ready .searching (tickets.map fun ticket => (ticket, .queued)) statuses := by
    refine ⟨firsts.symm ▸ nodup, fun entry inside => ?_⟩
    obtain ⟨ticket, member, rfl⟩ := List.mem_map.mp inside
    exact ⟨queued ticket member, rfl⟩
  have collected : queuedTickets statuses
      ((tickets.map MatchTicket.matchmakingRequest).map some) = some tickets :=
    queuedTickets_eq_some_iff.mpr ⟨_, rfl, ticketsOf, queued⟩
  rw [tryCommitMatchmakingRequests, if_neg (by simpa using nonempty), pointers, collected]
  simp only
  rw [changeAllIfCurrent_of_ready ready, firsts]
  simp [List.reduceOption]

theorem eraseAll_schedule (requests : List MatchmakingRequest) :
    (requests.foldl (eraseFromRange workerCount slots)
        group).matchmakingRequestSlotExpandTimeMap =
      group.matchmakingRequestSlotExpandTimeMap := by
  induction requests generalizing group with
  | nil => rfl
  | cons request rest ih =>
      rw [List.foldl_cons, ih, eraseFromRange]
      split <;> rfl

/-- **A commit is all or nothing.** In a group whose queued requests occupy the workers of their
ranges, a commit of any list succeeds exactly if the list is committable. Then its tickets are
searching and no worker holds them, and all other tickets have the status and the workers they
had. Otherwise nothing has changed. -/
theorem tryCommit_all_or_nothing (holds : group.Holds held)
    (occupy : OccupyRanges held slots workerCount statuses)
    (own : OwnRequests matchingRequestList) :
    let result := group.tryCommitMatchmakingRequests workerCount slots matchingRequestList statuses
    (result.1 = true ↔ Committable statuses matchingRequestList) ∧
      (result.1 = true →
        (∀ ticket, result.2.2 ticket =
          if some ticket.matchmakingRequest ∈ matchingRequestList then .searching
          else statuses ticket) ∧
        result.2.1.Holds (fun index ticket =>
          held index ticket ∧ some ticket.matchmakingRequest ∉ matchingRequestList) ∧
        result.2.1.matchmakingRequestSlotExpandTimeMap =
          group.matchmakingRequestSlotExpandTimeMap) ∧
      (result.1 = false → result.2 = (group, statuses)) := by
  intro result
  by_cases committable : Committable statuses matchingRequestList
  · obtain ⟨tickets, rfl, nonempty, nodup, queued⟩ := committable.exists_tickets own
    have committed : result = _ := tryCommit_of_queued nonempty nodup queued
    have listed : ∀ ticket : MatchTicket, some ticket.matchmakingRequest ∈
        tickets.map (some ∘ MatchTicket.matchmakingRequest) ↔ ticket ∈ tickets := by
      intro ticket
      refine ⟨fun inside => ?_, fun member => List.mem_map_of_mem member⟩
      obtain ⟨other, member, same⟩ := List.mem_map.mp inside
      cases congrArg MatchmakingRequest.matchTicketPtr (Option.some.inj same)
      exact member
    rw [committed]
    refine ⟨iff_of_true rfl committable, fun _ => ⟨fun ticket => ?_, ?_, eraseAll_schedule _⟩,
      (by rintro ⟨⟩)⟩
    · simp only [listed, moveAll]
    · refine (holds.eraseAll
        (fun index ticket member => (occupy index ticket (queued ticket member)).mp)
        fun ticket member index other covers present inside same => ?_).congr
          fun index ticket => by rw [listed]
      exact (holds index).waiting.eq_of_matchTicketId inside
        ((occupy index ticket (queued ticket member)).mpr ⟨covers, present⟩) same
  · have refused : result = (false, group, statuses) := by
      refine (tryCommit_cases matchingRequestList).resolve_right ?_
      rintro ⟨requests, tickets, rfl, ticketsOf, nonempty, nodup, queued, -⟩
      exact committable (committable_of_ticketsOf ticketsOf nonempty nodup queued)
    rw [refused]
    exact ⟨iff_of_false (by rintro ⟨⟩) committable, by rintro ⟨⟩, fun _ => rfl⟩

/-- A party of one and a party of two. -/
private def committedTicket (id : MatchTicketId) (players : OrderedSet PlayerKey) : MatchTicket :=
  ⟨id.toNat, { worldNo := 1, matchZoneId := "arena", matchTicketId := id, players := players }, 1⟩

private def firstCommitted : MatchTicket := committedTicket 4 (.single 7)

private def secondCommitted : MatchTicket := committedTicket 6 ⟨[4, 6], by decide⟩

/-- The first of two workers holds both. -/
private def committedGroup : PartyMatchmakingWorkerGroup :=
  (enqueueAt 2 {} 0 firstCommitted.matchmakingRequest).enqueueAt 2 0
    secondCommitted.matchmakingRequest

private def committedStatuses : TicketStatuses := fun ticket =>
  if ticket = firstCommitted ∨ ticket = secondCommitted then .queued else .none

theorem tryCommit_all_or_nothing_pair :
    (committedGroup.tryCommitMatchmakingRequests 2 (fun _ => {})
      [some secondCommitted.matchmakingRequest, some firstCommitted.matchmakingRequest]
      committedStatuses).1 = true := by
  have empty : Holds (fun _ _ => False) {} := fun _ => .default fun _ => id
  have first : (enqueueAt 2 {} 0 firstCommitted.matchmakingRequest).Holds fun index ticket =>
      False ∨ index = 0 ∧ ticket = firstCommitted := empty.enqueueAt (by decide) nofun
  have holds : committedGroup.Holds fun index ticket =>
      (False ∨ index = 0 ∧ ticket = firstCommitted) ∨ index = 0 ∧ ticket = secondCommitted := by
    refine first.enqueueAt (by decide) ?_
    rintro other (nobody | ⟨-, rfl⟩)
    · exact nobody.elim
    · decide
  refine (tryCommit_all_or_nothing holds (fun index ticket queued => ?_) ?_).1.mpr
    ⟨by decide, by decide, ?_⟩
  · have base : WorkerSlot.Covers {} 2 index ↔ index = 0 := WorkerSlot.covers_base_iff (by decide)
    have either : ticket = firstCommitted ∨ ticket = secondCommitted := by
      by_contra neither
      simp [committedStatuses, neither] at queued
    have present : index = 0 → hasWorker 2 index = true := by
      rintro rfl
      rfl
    rw [base, and_iff_left_of_imp present, false_or, ← and_or_left, and_iff_left either]
  · intro request inside ticket pointer
    simp only [List.mem_cons, Option.some.injEq, List.not_mem_nil, or_false] at inside
    rcases inside with rfl | rfl
    · cases pointer
      rfl
    · cases pointer
      rfl
  · intro entry inside
    simp only [List.mem_cons, List.not_mem_nil, or_false] at inside
    rcases inside with rfl | rfl
    · exact ⟨_, secondCommitted, rfl, rfl, by decide⟩
    · exact ⟨_, firstCommitted, rfl, rfl, by decide⟩

end PartyMatchmakingWorkerGroup

end MatchmakingMvp
