import MatchmakingMvp.System.PartyGroups
import Mathlib.Data.Multiset.Filter

/-! # What party queues hold

A stop that runs between the manager's insertion of a ticket and its enqueue
cancels a ticket that no queue holds yet. The group then queues the cancelled
ticket, whose status it does not check. As long as no cancel comes that early,
party workers hold queued tickets only
(`MatchmakingMvp.party_queues_hold_queued_tickets`).
-/

namespace MatchmakingMvp

open Foundation

/-- A worker keeps requests of queued tickets only, and counts them. -/
structure PartyMatchmakingWorker.Live (statuses : TicketStatuses)
    (worker : PartyMatchmakingWorker) : Prop where
  waiting : ∀ id request, worker.waitingQueue.find? id = some request →
    ∃ ticket, request.matchTicketPtr = some ticket ∧ statuses ticket = .queued
  buckets : ∀ playerCount id request, (worker.bucket playerCount).find? id = some request →
    ∃ ticket, request.matchTicketPtr = some ticket ∧ statuses ticket = .queued
  counts : ∀ playerCount, worker.queuedCount playerCount = (worker.bucket playerCount).size

theorem PartyMatchmakingWorker.Holds.live {held : MatchTicket → Prop}
    {worker : PartyMatchmakingWorker} {statuses : TicketStatuses} (holds : worker.Holds held)
    (queued : ∀ ticket, held ticket → statuses ticket = .queued) : worker.Live statuses where
  waiting id request found := by
    obtain ⟨ticket, inside, -, rfl⟩ := (holds.waiting id request).mp found
    exact ⟨ticket, rfl, queued ticket inside⟩
  buckets playerCount id request found := by
    obtain ⟨ticket, inside, -, rfl⟩ := (holds.buckets playerCount id request).mp found
    exact ⟨ticket, rfl, queued ticket inside.1⟩
  counts := holds.counts

/-- If the section cancels a party ticket, its group has queued the ticket before. -/
def Section.cancelsSettled (step : Section) (world : World) : Bool :=
  match step with
  | .partyCancel _ ticket => decide (world.ticketStatus ticket ≠ .none)
  | _ => true

theorem Section.started_of_cancelsSettled {step : Section} {world : World}
    (settled : step.cancelsSettled world = true) (group : WorkerGroup) (ticket : MatchTicket)
    (cancels : step = .partyCancel group ticket) : world.ticketStatus ticket ≠ .none := by
  subst cancels
  exact of_decide_eq_true settled

section Steps

variable {deployment : Deployment} {permits : MatchTicketRequest → Prop} {step : Section}
  {world : World} {stage stage' : Stage} {others : Multiset Stage}

/-- Party groups hold their queued tickets, and each ticket on its way to a group
is in the hands of one thread. -/
structure World.PartySettled (deployment : Deployment) (world : World)
    (stages : Multiset Stage) : Prop where
  held : world.PartyHeld deployment
  awaits : ∀ stage ∈ stages, world.Awaits stage
  apart : (stages.filterMap Stage.starts).Nodup

theorem World.PartySettled.initial : ({} : World).PartySettled deployment 0 := by
  refine ⟨⟨fun group _ index => ?_, fun _ => le_refl _⟩,
    fun stage member => (Multiset.notMem_zero stage member).elim, List.nodup_nil⟩
  exact PartyMatchmakingWorker.Holds.default fun ticket inside => List.not_mem_nil inside.1.1.1

theorem World.PartySettled.join (settled : world.PartySettled deployment others) :
    world.PartySettled deployment (.free none ::ₘ others) := by
  refine ⟨settled.held, fun stage member => ?_, ?_⟩
  · rcases Multiset.mem_cons.mp member with rfl | member
    · trivial
    · exact settled.awaits stage member
  · rw [Multiset.filterMap_cons_none _ _ rfl]
    exact settled.apart

theorem World.PartySettled.perform
    (settled : world.PartySettled deployment (stage ::ₘ others))
    (issues : Issues deployment permits step world stage stage')
    (sound : world.Sound deployment permits) (serverIssues : ServerIssues permits)
    (cancels : step.cancelsSettled world = true) :
    (MatchmakingMvp.perform step world).PartySettled deployment (stage' ::ₘ others) := by
  have started := Section.started_of_cancelsSettled cancels
  have mine : world.Awaits stage := settled.awaits stage (Multiset.mem_cons_self _ _)
  obtain ⟨awaits', starts'⟩ := issues.awaits sound serverIssues settled.held mine
  have apart := settled.apart
  have foreign : ∀ {other ticket}, other ∈ others → other.starts = some ticket →
      stage.starts ≠ some ticket := by
    intro other ticket member starting same
    rw [Multiset.filterMap_cons_some _ _ _ same] at apart
    exact (Multiset.nodup_cons.mp apart).1 (Multiset.mem_filterMap _ _ |>.mpr
      ⟨other, member, starting⟩)
  refine ⟨issues.partyHeld sound serverIssues settled.held mine started, ?_, ?_⟩
  · intro other member
    rcases Multiset.mem_cons.mp member with rfl | member
    · exact awaits'
    · have before := settled.awaits other (Multiset.mem_cons_of_mem member)
      cases other with
      | starting queue ticket base =>
          cases queue with
          | solo => trivial
          | party =>
              obtain ⟨made, unqueued, slot⟩ := before
              obtain ⟨status, kept⟩ := issues.waits sound started made unqueued
                (foreign member rfl)
              exact ⟨perform_made made, status, kept.trans slot⟩
      | _ => trivial
  · have alone : (others.filterMap Stage.starts).Nodup := by
      cases starting : stage.starts with
      | none => rwa [Multiset.filterMap_cons_none _ _ starting] at apart
      | some ticket =>
          rw [Multiset.filterMap_cons_some _ _ _ starting] at apart
          exact (Multiset.nodup_cons.mp apart).2
    cases starting : stage'.starts with
    | none =>
        rw [Multiset.filterMap_cons_none _ _ starting]
        exact alone
    | some ticket =>
        rw [Multiset.filterMap_cons_some _ _ _ starting, Multiset.nodup_cons]
        refine ⟨fun inside => ?_, alone⟩
        obtain ⟨other, member, same⟩ := (Multiset.mem_filterMap _ _).mp inside
        rw [starting] at starts'
        rcases starts' with absent | kept | ⟨created, equal, unmade⟩
        · cases absent
        · exact foreign member same kept.symm
        · cases equal
          have before := settled.awaits other (Multiset.mem_cons_of_mem member)
          cases other with
          | starting queue owned base =>
              cases queue with
              | solo => cases same
              | party =>
                  cases same
                  exact unmade _ before.1
          | _ => cases same

end Steps

/-- **What party workers hold.** Take any interleaving of calls with server-issued
ids in which every cancel of a party ticket comes after the ticket was queued.
Then in every state, every worker of a party group holds requests of queued
tickets only, in its queue and in its buckets, and its counts are the sizes of
its buckets. -/
theorem party_queues_hold_queued_tickets {deployment : Deployment}
    {steps : List (Executed Section World)} {pool : Pool Section World}
    (execution : Interleaved deployment Call.ServerIssued
      (fun step world => step.cancelsSettled world = true) steps pool)
    {group : WorkerGroup}
    (served : deployment.getWorkerGroup .party group.workerGroupKey = some group) (index : Int) :
    ((pool.state.partyGroup group).workers index).Live pool.state.ticketStatus := by
  have permitted : ∀ call : Call, call.ServerIssued → ∀ request, call.request = some request →
      request.matchTicketId = -1 := fun call issued request asks => issued request asks
  obtain ⟨-, -, stages, settled⟩ := execution.asserted permitted
    (fun _ world stages => world.PartySettled deployment stages) .initial
    (fun _ _ _ settled => settled.join)
    (by
      intro steps world others step stage stage' sound issues cancels settled
      exact settled.perform issues sound (fun _ issued => issued) cancels)
  exact (settled.held.groups group served index).live fun ticket inside => inside.1.1.2

/-- Two players queue alone, and the first one stops. -/
def settledStopRun : List (Executed Section World) × Pool Section World :=
  playCalls soleMatchDeployment
    [.partyStartMatchmaking (soleRequest 1), .partyStartMatchmaking (soleRequest 2),
      .partyStopMatchmaking 1]
    (List.replicate 20 0 ++ List.replicate 20 1 ++ List.replicate 20 2)

theorem party_queues_hold_queued_tickets_settledStop :
    settledStopRun.2.quiet = true ∧
      ((settledStopRun.2.state.partyGroup soleMatchGroup).workers 0).waitingQueue.size = 1 ∧
      ((settledStopRun.2.state.partyGroup soleMatchGroup).workers 0).Live
        settledStopRun.2.state.ticketStatus := by
  have execution : Interleaved soleMatchDeployment Call.ServerIssued (fun _ _ => True)
      settledStopRun.1 settledStopRun.2 :=
    Interleaved.play soleMatchDeployment (by decide) _
  have settled : ∀ executed ∈ settledStopRun.1,
      executed.command.cancelsSettled executed.before = true :=
    List.all_eq_true.mp (by decide +kernel)
  exact ⟨by decide +kernel, by decide +kernel,
    party_queues_hold_queued_tickets (execution.restrict settled)
      (by decide) 0⟩

/-- A player queues alone and stops after the manager has indexed the ticket and
before the group has queued it. -/
def earlyStopRun : List (Executed Section World) × Pool Section World :=
  playCalls soleMatchDeployment
    [.partyStartMatchmaking (soleRequest 1), .partyStopMatchmaking 1]
    (List.replicate 7 0 ++ List.replicate 20 1 ++ List.replicate 20 0)

/-- Both calls have returned, and the worker holds the cancelled ticket. -/
theorem early_stop_leaves_cancelled_ticket :
    Interleaved soleMatchDeployment Call.ServerIssued (fun _ _ => True)
        earlyStopRun.1 earlyStopRun.2 ∧
      earlyStopRun.2.quiet = true ∧
      earlyStopRun.2.state.ticketStatus (soleTicket 1) = .cancelled ∧
      ((earlyStopRun.2.state.partyGroup soleMatchGroup).workers 0).waitingQueue.find? 1000 =
        some (soleTicket 1).matchmakingRequest ∧
      ¬ ((earlyStopRun.2.state.partyGroup soleMatchGroup).workers 0).Live
        earlyStopRun.2.state.ticketStatus := by
  have cancelled : earlyStopRun.2.state.ticketStatus (soleTicket 1) = .cancelled := by
    decide +kernel
  have waiting : ((earlyStopRun.2.state.partyGroup soleMatchGroup).workers 0).waitingQueue.find?
      1000 = some (soleTicket 1).matchmakingRequest := by decide +kernel
  refine ⟨Interleaved.play _ (by decide) _, by decide +kernel, cancelled, waiting, fun live => ?_⟩
  obtain ⟨ticket, pointer, queued⟩ := live.waiting _ _ waiting
  cases pointer
  rw [cancelled] at queued
  cases queued

end MatchmakingMvp
