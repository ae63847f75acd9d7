import MatchmakingMvp.Worker.Holding

/-! # What a solo worker holds at most

Where ticket ids are chosen freely, a refused submission takes the entries of another ticket
with it, so a worker may have lost tickets it was handed. What it still holds is of a set of
tickets, and no ticket is both in its queue and in its list in progress
(`MatchmakingMvp.SoloMatchmakingWorker.HoldsOnly`). -/

namespace MatchmakingMvp

open Foundation

namespace WaitingQueue

variable {stored kept : MatchTicket → Prop} {queue : WaitingQueue} {ticket : MatchTicket}

/-- All requests of the queue are of tickets of the set and stored under their ids. -/
def StoresOnly (stored : MatchTicket → Prop) (queue : WaitingQueue) : Prop :=
  ∀ id request, queue.find? id = some request →
    ∃ ticket, stored ticket ∧ id = ticket.matchTicketId ∧ request = ticket.matchmakingRequest

theorem StoresOnly.mono (stores : WaitingQueue.StoresOnly stored queue)
    (implies : ∀ ticket, stored ticket → kept ticket) : WaitingQueue.StoresOnly kept queue := by
  intro id request found
  obtain ⟨ticket, holds, rest⟩ := stores id request found
  exact ⟨ticket, implies ticket holds, rest⟩

theorem StoresOnly.empty : WaitingQueue.StoresOnly stored OrderedMap.empty := nofun

theorem StoresOnly.insertOrAssign (stores : WaitingQueue.StoresOnly stored queue) :
    WaitingQueue.StoresOnly (fun other => stored other ∨ other = ticket)
      (queue.insertOrAssign ticket.matchTicketId ticket.matchmakingRequest) := by
  intro id request found
  rw [OrderedMap.find?_insertOrAssign] at found
  split_ifs at found with own
  · exact ⟨ticket, Or.inr rfl, own, (Option.some.inj found).symm⟩
  · exact stores.mono (fun _ => Or.inl) id request found

theorem StoresOnly.erase (stores : WaitingQueue.StoresOnly stored queue) :
    WaitingQueue.StoresOnly (fun other => stored other ∧ other ≠ ticket)
      (queue.erase ticket.matchTicketId) := by
  intro id request found
  rw [OrderedMap.find?_erase] at found
  split_ifs at found with own
  obtain ⟨other, holds, rfl, rfl⟩ := stores id request found
  exact ⟨other, ⟨holds, fun same => own (same ▸ rfl)⟩, rfl, rfl⟩

theorem StoresOnly.emplace (stores : WaitingQueue.StoresOnly stored queue) :
    WaitingQueue.StoresOnly (fun other => stored other ∨ other = ticket)
      (queue.emplace ticket.matchTicketId ticket.matchmakingRequest) := by
  intro id request found
  rw [OrderedMap.find?_emplace, Option.or_eq_some_iff] at found
  rcases found with earlier | ⟨-, moved⟩
  · exact stores.mono (fun _ => Or.inl) id request earlier
  · split_ifs at moved with own
    exact ⟨ticket, Or.inr rfl, own, (Option.some.inj moved).symm⟩

/-- The requests of such a queue are those of distinct tickets of the set. -/
theorem StoresOnly.tickets (stores : WaitingQueue.StoresOnly stored queue) :
    ∃ tickets, TicketsOf queue.values tickets ∧ tickets.Nodup ∧
      ∀ ticket ∈ tickets, stored ticket := by
  have named : ∀ entry ∈ queue.entries, ∃ ticket, stored ticket ∧
      entry.1 = ticket.matchTicketId ∧ entry.2 = ticket.matchmakingRequest :=
    fun entry member => stores entry.1 entry.2 (OrderedMap.find?_eq_some_iff.mpr member)
  have requested : ∀ request ∈ queue.values,
      request ∈ Set.range MatchTicket.matchmakingRequest := by
    intro request member
    obtain ⟨entry, inside, rfl⟩ := List.mem_map.mp member
    obtain ⟨ticket, -, -, same⟩ := named entry inside
    exact ⟨ticket, same.symm⟩
  obtain ⟨tickets, values⟩ := (Set.ext_iff.mp (Set.range_list_map _) _).mpr requested
  have keys : queue.keys = tickets.map MatchTicket.matchTicketId := by
    have ids : queue.keys = queue.values.map MatchmakingRequest.matchTicketId := by
      rw [OrderedMap.keys, OrderedMap.values, List.map_map]
      refine List.map_congr_left fun entry inside => ?_
      obtain ⟨ticket, -, id, request⟩ := named entry inside
      rw [id, Function.comp_apply, request, MatchTicket.matchmakingRequest_matchTicketId]
    rw [ids, ← values, List.map_map]
    rfl
  refine ⟨tickets, ?_, List.Nodup.of_map _ (keys ▸ queue.keys_nodup), fun ticket inside => ?_⟩
  · rw [TicketsOf, ← values, List.map_map]
    rfl
  · have member := List.mem_map_of_mem (f := MatchTicket.matchmakingRequest) inside
    rw [values] at member
    obtain ⟨entry, present, same⟩ := List.mem_map.mp member
    obtain ⟨other, holds, -, request⟩ := named entry present
    rw [request] at same
    cases congrArg MatchmakingRequest.matchTicketPtr same
    exact holds

end WaitingQueue

namespace SoloMatchmakingWorker

variable {held kept : MatchTicket → Prop} {worker : SoloMatchmakingWorker} {ticket : MatchTicket}

/-- The worker holds none but tickets of the set, each in its queue or in its list in
progress. -/
def HoldsOnly (held : MatchTicket → Prop) (worker : SoloMatchmakingWorker) : Prop :=
  ∃ progressing : MatchTicket → Prop,
    WaitingQueue.StoresOnly (fun ticket => held ticket ∧ ¬ progressing ticket)
      worker.waitingQueue ∧
    WaitingQueue.StoresOnly (fun ticket => held ticket ∧ progressing ticket)
      worker.sendProgressingList

theorem HoldsOnly.default : HoldsOnly held {} := ⟨fun _ => False, .empty, .empty⟩

theorem HoldsOnly.mono (holds : worker.HoldsOnly held)
    (implies : ∀ ticket, held ticket → kept ticket) : worker.HoldsOnly kept := by
  obtain ⟨progressing, waiting, sending⟩ := holds
  exact ⟨progressing, waiting.mono fun ticket inside => ⟨implies ticket inside.1, inside.2⟩,
    sending.mono fun ticket inside => ⟨implies ticket inside.1, inside.2⟩⟩

/-- A ticket that is not of the set joins the queue. -/
theorem HoldsOnly.insertOrAssign (holds : worker.HoldsOnly held) (outside : ¬ held ticket) :
    HoldsOnly (fun other => held other ∨ other = ticket)
      { worker with
        waitingQueue := worker.waitingQueue.insertOrAssign ticket.matchTicketId
          ticket.matchmakingRequest } := by
  obtain ⟨progressing, waiting, sending⟩ := holds
  refine ⟨fun other => held other ∧ progressing other,
    waiting.insertOrAssign.mono fun other => ?_, sending.mono fun other => ?_⟩
  · rintro (⟨inside, idle⟩ | rfl)
    · exact ⟨Or.inl inside, fun busy => idle busy.2⟩
    · exact ⟨Or.inr rfl, fun busy => outside busy.1⟩
  · exact fun inside => ⟨Or.inl inside.1, inside⟩

/-- Erasing a ticket takes it out of the set. -/
theorem HoldsOnly.erase (holds : worker.HoldsOnly held) :
    (worker.erase ticket).HoldsOnly fun other => held other ∧ other ≠ ticket := by
  obtain ⟨progressing, waiting, sending⟩ := holds
  exact ⟨progressing,
    waiting.erase.mono fun _ inside => ⟨⟨inside.1.1, inside.2⟩, inside.1.2⟩,
    sending.erase.mono fun _ inside => ⟨⟨inside.1.1, inside.2⟩, inside.1.2⟩⟩

private theorem holdsOnly_fillProgressingList {matchPlayerCount : Int}
    {entries : List (MatchTicketId × MatchmakingRequest)} {waiting sending : WaitingQueue}
    (nodup : (entries.map Prod.fst).Nodup)
    (listed : ∀ entry ∈ entries, waiting.find? entry.1 = some entry.2)
    (holds : HoldsOnly held ⟨waiting, sending⟩) :
    HoldsOnly held ⟨(fillProgressingList matchPlayerCount entries waiting sending).1,
      (fillProgressingList matchPlayerCount entries waiting sending).2⟩ := by
  induction entries generalizing waiting sending with
  | nil => exact holds
  | cons head rest ih =>
      obtain ⟨id, request⟩ := head
      rw [fillProgressingList]
      split_ifs
      · exact holds
      obtain ⟨progressing, inQueue, inProgress⟩ := holds
      obtain ⟨ticket, ⟨inside, idle⟩, rfl, rfl⟩ :=
        inQueue id request (listed _ List.mem_cons_self)
      obtain ⟨outside, distinct⟩ := List.nodup_cons.mp nodup
      refine ih distinct (fun entry member => ?_)
        ⟨fun other => progressing other ∨ other = ticket, ?_, ?_⟩
      · rw [OrderedMap.find?_erase, if_neg]
        · exact listed entry (List.mem_cons_of_mem _ member)
        · intro same
          exact outside (List.mem_map.mpr ⟨entry, member, same⟩)
      · exact inQueue.erase.mono fun other waits =>
          ⟨waits.1.1, not_or.mpr ⟨waits.1.2, waits.2⟩⟩
      · rw [MatchTicket.matchmakingRequest_matchTicketId]
        refine inProgress.emplace.mono fun other => ?_
        rintro (busy | rfl)
        · exact ⟨busy.1, Or.inl busy.2⟩
        · exact ⟨inside, Or.inr rfl⟩

theorem HoldsOnly.filled (holds : worker.HoldsOnly held) (rule : MatchmakingRule) :
    (worker.filled rule).HoldsOnly held :=
  holdsOnly_fillProgressingList worker.waitingQueue.keys_nodup
    (fun _ member => OrderedMap.find?_eq_some_iff.mpr member) holds

/-- The tickets of the list in progress are distinct tickets of the set. -/
theorem HoldsOnly.progressing (holds : worker.HoldsOnly held) :
    ∃ tickets, TicketsOf worker.sendProgressingList.values tickets ∧ tickets.Nodup ∧
      (∀ ticket ∈ tickets, held ticket) ∧
      HoldsOnly (fun ticket => held ticket ∧ ticket ∉ tickets)
        ⟨worker.waitingQueue, OrderedMap.empty⟩ := by
  obtain ⟨progressing, waiting, sending⟩ := holds
  obtain ⟨tickets, ticketsOf, nodup, inside⟩ := sending.tickets
  refine ⟨tickets, ticketsOf, nodup, fun ticket member => (inside ticket member).1,
    fun _ => False, waiting.mono fun ticket waits => ?_, .empty⟩
  exact ⟨⟨waits.1, fun member => waits.2 (inside ticket member).2⟩, not_false⟩

/-- **A run of a worker** whose tickets are queued finds too few of them, or claims distinct
tickets of the set. It never finds one that cannot be claimed. -/
theorem HoldsOnly.doWorkerAsyncJob (holds : worker.HoldsOnly held) (rule : MatchmakingRule)
    {statuses : TicketStatuses} (queued : ∀ ticket, held ticket → statuses ticket = .queued) :
    ((worker.doWorkerAsyncJob rule statuses).1 = .incomplete ∧
      (worker.doWorkerAsyncJob rule statuses).2.2 = statuses ∧
      (worker.doWorkerAsyncJob rule statuses).2.1.HoldsOnly held) ∨
    ∃ tickets, (worker.doWorkerAsyncJob rule statuses).1 = .matched tickets ∧ tickets.Nodup ∧
      (∀ ticket ∈ tickets, held ticket) ∧
      (worker.doWorkerAsyncJob rule statuses).2.2 = moveAll tickets .searching statuses ∧
      (worker.doWorkerAsyncJob rule statuses).2.1.HoldsOnly
        fun ticket => held ticket ∧ ticket ∉ tickets := by
  have filled := holds.filled rule
  obtain ⟨tickets, ticketsOf, nodup, inside, rest⟩ := filled.progressing
  have searched : searchTickets _ statuses = (true, tickets, moveAll tickets .searching statuses) :=
    searchTickets_of_queued ticketsOf nodup
      fun ticket member => queued ticket (inside ticket member)
  rcases doWorkerAsyncJob_cases rule worker statuses with
    ⟨-, run⟩ | ⟨-, ⟨-, run⟩ | ⟨failure, -⟩⟩
  · rw [run]
    exact Or.inl ⟨rfl, rfl, filled⟩
  · rw [searched] at run
    rw [run]
    exact Or.inr ⟨tickets, rfl, nodup, inside, rfl, rest⟩
  · rw [searched] at failure
    cases failure

end SoloMatchmakingWorker

end MatchmakingMvp
