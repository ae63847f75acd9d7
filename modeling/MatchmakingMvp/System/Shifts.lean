import MatchmakingMvp.System.Keeping
import MatchmakingMvp.System.Seats

/-! # Who changes a ticket's status

A section changes the status of a ticket for one of a few reasons
(`MatchmakingMvp.Shift`): its thread submits the ticket or gives it up, a cancel takes it out of
its queue, a match claims it, its thread fails it, or a session that the thread attends to
changes together with its tickets.
-/

namespace MatchmakingMvp

open Foundation

/-- The registered session in the thread's hands. -/
def Stage.attends : Stage → Option MatchSession
  | .free (some (_, session)) | .inserted _ _ session | .closing _ session => some session
  | .free none | .starting _ _ _ | .claimed _ _ _ | .opened _ _ _ _ | .failing _ => none

/-- Why a section changes the status of a ticket, and to which status. -/
inductive Shift (deployment : Deployment) :
    Section → World → Stage → Stage → MatchTicket → MatchTicketStatus → Prop
  | queues {world ticket base} (made : world.Made .solo ticket) :
      Shift deployment (.changeTicketStatus ticket .queued) world (.starting .solo ticket base)
        (.starting .solo ticket base) ticket .queued
  | enqueues {world ticket group index base}
      (carried : Carried deployment world .party group ticket) :
      Shift deployment (.partyEnqueue group index ticket.matchmakingRequest ticket) world
        (.starting .party ticket base) (.free none) ticket .queued
  | abandons {world queue ticket base} (made : world.Made queue ticket) :
      Shift deployment (.changeTicketStatus ticket .failed) world (.starting queue ticket base)
        (.free none) ticket .failed
  | soloCancels {world held ticket group index} (made : world.Made .solo ticket) :
      Shift deployment (.soloCancel group index ticket) world (.free held) (.free held) ticket
        .cancelled
  | partyCancels {world held ticket group} (made : world.Made .party ticket)
      (served : deployment.getWorkerGroup .party ticket.matchingGroupKey = some group) :
      Shift deployment (.partyCancel group ticket) world (.free held) (.free held) ticket .cancelled
  | runs {world held group index stage' ticket} (made : world.Made .solo ticket)
      (queued : world.ticketStatus ticket = .queued) :
      Shift deployment (.soloRun group index) world (.free held) stage' ticket .searching
  | commits {world held group requests stage' ticket}
      (carried : Carried deployment world .party group ticket)
      (queued : world.ticketStatus ticket = .queued) :
      Shift deployment (.partyCommit group requests) world (.free held) stage' ticket .searching
  | fails {world queue ticket rest} (made : world.Made queue ticket)
      (departed : (world.ticketStatus ticket).departed = true) :
      Shift deployment (.changeTicketStatus ticket .failed) world (.failing (ticket :: rest))
        (.failing rest) ticket .failed
  | changes {world session status stage stage' ticket} (attends : stage.attends = some session)
      (inside : ticket ∈ session.tickets)
      (engaged : (world.ticketStatus ticket).engaged = true) :
      Shift deployment (.changeSessionStatus session status) world stage stage' ticket status

variable {deployment : Deployment} {permits : MatchTicketRequest → Prop} {step : Section}
  {world : World} {stage stage' : Stage}

/-- A change of one ticket leaves a status alone or is about it. -/
theorem MatchTicket.changeStatus_apply (ticket : MatchTicket) (status : MatchTicketStatus)
    {statuses : TicketStatuses} (other : MatchTicket) :
    (ticket.changeStatus status statuses).2 other = statuses other ∨
      other = ticket ∧ (ticket.changeStatus status statuses).2 other = status := by
  by_cases own : other = ticket
  · subst own
    cases can : canChangeStatus (statuses other) status with
    | true =>
        rw [changeStatus_of_can can]
        exact Or.inr ⟨rfl, Function.update_self ..⟩
    | false => exact Or.inl (by rw [changeStatus_of_cannot can])
  · exact Or.inl (changeStatus_of_ne own)

theorem World.changeSessionStatus_apply {session : MatchSession} {status : MatchTicketStatus}
    (ticket : MatchTicket) :
    (world.changeSessionStatus session status).2.2 ticket = world.ticketStatus ticket ∨
      ticket ∈ session.tickets ∧
        (world.changeSessionStatus session status).2.2 ticket = status := by
  rw [World.changeSessionStatus]
  by_cases changeable : session.Changeable status (world.sessionState session) world.ticketStatus
  · rw [MatchSession.changeStatus_of_changeable changeable]
    by_cases inside : ticket ∈ session.tickets
    · exact Or.inr ⟨inside, moveAll_of_mem inside⟩
    · exact Or.inl (moveAll_of_not_mem inside)
  · rw [MatchSession.changeStatus_of_not_changeable changeable]
    exact Or.inl rfl

/-- A ticket that a run of a solo worker claims is one of its requests. -/
theorem World.Sound.made_of_soloRun (sound : world.Sound deployment permits) {group : WorkerGroup}
    {index : Int} {ticket : MatchTicket}
    (moved : (world.soloRun group index).2.2 ticket ≠ world.ticketStatus ticket) :
    world.Made .solo ticket := by
  have filled := (sound.solo group.workerGroupKey index).filled group.matchmakingRule
  have claimed : ticket ∈ (SoloMatchmakingWorker.searchTickets
      ((world.soloWorker group index).filled group.matchmakingRule).sendProgressingList.values
        world.ticketStatus).2.1 := by
    by_contra outside
    have kept := SoloMatchmakingWorker.searchTickets_of_not_mem outside
    rcases SoloMatchmakingWorker.doWorkerAsyncJob_cases group.matchmakingRule
      (world.soloWorker group index) world.ticketStatus with
      ⟨-, run⟩ | ⟨-, ⟨-, run⟩ | ⟨-, run⟩⟩
    · exact moved (congrFun (congrArg (·.2.2) run) ticket)
    · exact moved ((congrFun (congrArg (·.2.2) run) ticket).trans kept)
    · exact moved ((congrFun (congrArg (·.2.2) run) ticket).trans kept)
  obtain ⟨request, listed, pointer⟩ := SoloMatchmakingWorker.mem_searchTickets.mp claimed
  obtain ⟨entry, inside, rfl⟩ := List.mem_map.mp listed
  obtain ⟨_, other, -, same, carried⟩ :=
    filled.progressing entry.1 entry.2 (OrderedMap.find?_eq_some_iff.mpr inside)
  rw [same] at pointer
  cases pointer
  exact carried.made

/-- **Every change of a ticket's status has a reason.** -/
theorem Issues.shift (issues : Issues deployment permits step world stage stage')
    (sound : world.Sound deployment permits) (ticket : MatchTicket) :
    (perform step world).ticketStatus ticket = world.ticketStatus ticket ∨
      Shift deployment step world stage stage' ticket
        ((perform step world).ticketStatus ticket) := by
  by_cases moved : (perform step world).ticketStatus ticket = world.ticketStatus ticket
  · exact Or.inl moved
  refine Or.inr ?_
  have only : ∀ {other : MatchTicket} {status : MatchTicketStatus},
      (perform step world).ticketStatus ticket =
        (other.changeStatus status world.ticketStatus).2 ticket →
      ticket = other ∧ (perform step world).ticketStatus ticket = status := by
    intro other status changed
    rcases other.changeStatus_apply status ticket with same | own
    · exact (moved (changed.trans same)).elim
    · exact ⟨own.1, changed.trans own.2⟩
  have shifted : ∀ {status : MatchTicketStatus},
      (perform step world).ticketStatus ticket = status →
      Shift deployment step world stage stage' ticket status →
      Shift deployment step world stage stage' ticket
        ((perform step world).ticketStatus ticket) := fun same shift => same ▸ shift
  cases issues with
  | neutral neutral =>
      exact (moved (by rw [(sameMatchmaking_of_neutral neutral world).ticketStatus])).elim
  | queue made =>
      obtain ⟨rfl, later⟩ := only rfl
      exact shifted later (.queues made)
  | abandon made =>
      obtain ⟨rfl, later⟩ := only rfl
      exact shifted later (.abandons made)
  | fail made departed =>
      obtain ⟨rfl, later⟩ := only rfl
      exact shifted later (.fails made departed)
  | soloCancel made =>
      obtain ⟨rfl, later⟩ := only (congrFun SoloMatchmakingWorker.cancel_statuses ticket)
      exact shifted later (.soloCancels made)
  | partyCancel made served =>
      obtain ⟨rfl, later⟩ :=
        only (congrFun PartyMatchmakingWorkerGroup.cancelMatchTicket_statuses ticket)
      exact shifted later (.partyCancels made served)
  | @partyEnqueue _ other group index carried =>
      by_cases accepted : (world.partyEnqueue group index other.matchmakingRequest other).1 = true
      · obtain ⟨rfl, later⟩ := only (congrFun
          (PartyMatchmakingWorkerGroup.enqueueSection_statuses.trans (if_pos accepted)) ticket)
        refine shifted later ?_
        rw [if_pos accepted]
        exact .enqueues carried
      · have refused := Bool.eq_false_iff.mpr accepted
        exact (moved (congrFun (World.partyEnqueue_statuses_of_refused refused) ticket)).elim
  | soloWait | soloClaim | soloReject =>
      rcases SoloMatchmakingWorker.doWorkerAsyncJob_apply ticket with same | ⟨queued, later⟩
      · exact (moved same).elim
      · exact shifted later (.runs (sound.made_of_soloRun moved) queued)
  | partyRefuse refused =>
      exact (moved (by rw [World.partyCommit_of_refused refused])).elim
  | @partyClaim _ _ group requests tickets _ committed carried requested =>
      subst requested
      rcases PartyMatchmakingWorkerGroup.tryCommit_cases _ with
        run | ⟨listed, claimed, same, ticketsOf, -, -, queued, run⟩
      · rw [World.partyCommit, run] at committed
        cases committed
      obtain rfl := List.map_injective_iff.mpr (Option.some_injective _) same
      obtain rfl := (ticketsOf_matchmakingRequest _).unique ticketsOf
      have statuses : (perform (.partyCommit group
          ((tickets.map MatchTicket.matchmakingRequest).map some)) world).ticketStatus =
          moveAll tickets .searching world.ticketStatus := congrArg (·.2.2) run
      by_cases inside : ticket ∈ tickets
      · exact shifted (by rw [statuses, moveAll_of_mem inside])
          (.commits (carried ticket inside) (queued ticket inside))
      · exact (moved (by rw [statuses, moveAll_of_not_mem inside])).elim
  | require engaged =>
      rcases World.changeSessionStatus_apply ticket with same | ⟨inside, later⟩
      · exact (moved same).elim
      · exact shifted later (.changes rfl inside (engaged ticket inside))
  | change engaged =>
      rcases World.changeSessionStatus_apply ticket with same | ⟨inside, later⟩
      · exact (moved same).elim
      · exact shifted later (.changes rfl inside (engaged ticket inside))
  | _ => exact (moved rfl).elim

end MatchmakingMvp
