import MatchmakingMvp.Foundation.Monitor
import MatchmakingMvp.Session.LateResponses
import MatchmakingMvp.System.Keeping
import MatchmakingMvp.Tickets.Whereabouts

/-! # The threads of worker groups

Every worker has a thread. Under the mutex of its group the thread waits, on the group's
condition variable and until the execution time of the worker's first job, while no job is
available; then it runs the worker. A group has one more thread of its own, which in a party
group expands slots every five seconds. The worker groups are monitors
(`MatchmakingMvp.ThreadGroup.monitor`) whose callers are all operations of the system, and what
their threads do is an interleaving of the same critical sections
(`MatchmakingMvp.ThreadGroup.interleaves`).

No wake-up is lost: at rest the threads of a solo group leave no full match behind
(`MatchmakingMvp.solo_group_at_rest`), those of a party group no queued ticket
(`MatchmakingMvp.party_group_at_rest`), and the thread of a job queue sleeps no longer than until
its first job is due (`MatchmakingMvp.job_thread_sleeps`). The flag that stops a group is lowered
without its mutex, so a stop can be missed (`MatchmakingMvp.stop_can_be_missed`), but a stop that
returns leaves no thread behind (`MatchmakingMvp.stopped_group_rests`).
-/

namespace MatchmakingMvp

open Foundation

/-! ## When a job is available -/

def SoloMatchmakingWorker.isWorkerJobAvailable (worker : SoloMatchmakingWorker) : Bool :=
  decide (0 < worker.waitingQueue.size)

def PartyMatchmakingWorker.isWorkerJobAvailable (worker : PartyMatchmakingWorker) : Bool :=
  if worker.waitingQueue.isEmpty then false else decide (0 < worker.waitingQueue.size)

/-- `IWorker::GetJobExecuteTimeMSec`: ten minutes from now. -/
def getJobExecuteTimeMsec (timeSec : Int) : Int := timeSec * 1000 + 600000

/-- `IWorker::GetJobExecuteTimePoint`, in milliseconds. -/
def getJobExecuteTimePoint (executeTimeMsec : Int) : Int :=
  executeTimeMsec.tdiv 1000 * 1000 + executeTimeMsec.tmod 1000

theorem getJobExecuteTimePoint_eq (executeTimeMsec : Int) :
    getJobExecuteTimePoint executeTimeMsec = executeTimeMsec :=
  Int.tdiv_mul_add_tmod _ _

namespace AsyncJobQueue

variable {Job : Type}

def isWorkerJobAvailable (queue : AsyncJobQueue Job) (timeMsec : Nat) : Bool :=
  match queue with
  | [] => false
  | (executeTimeMsec, _) :: _ => decide (executeTimeMsec % 2 ^ 64 ≤ timeMsec)

def getJobExecuteTimeMsec (queue : AsyncJobQueue Job) (timeSec : Int) : Int :=
  match queue with
  | [] => MatchmakingMvp.getJobExecuteTimeMsec timeSec
  | (executeTimeMsec, _) :: _ => executeTimeMsec

end AsyncJobQueue

theorem isEmpty_of_size {queue : WaitingQueue} (none : decide (0 < queue.size) = false) :
    queue.isEmpty = true := by
  rw [decide_eq_false_iff_not, not_lt, Nat.le_zero] at none
  exact List.isEmpty_iff.mpr (List.length_eq_zero_iff.mp none)

/-! ## The groups -/

/-- The groups of job queues, with one worker each. -/
inductive JobGroup
  | session | penalty | zone
deriving DecidableEq

namespace JobGroup

/-- The due times of the jobs that wait, in their order. -/
def dueTimes (world : World) : JobGroup → List Int
  | .session => world.sessionJobs.map Prod.fst
  | .penalty => world.penaltyJobs.map Prod.fst
  | .zone => world.zoneJobs.map Prod.fst

/-- The section enqueues a job. -/
def adds : JobGroup → Section → Bool
  | .session, .addSessionJob _ _ | .penalty, .addPenaltyJob _ _ | .zone, .addZoneJob _ _ => true
  | _, _ => false

def isWorkerJobAvailable (world : World) : JobGroup → Bool
  | .session => world.sessionJobs.isWorkerJobAvailable world.timeMsec
  | .penalty => world.penaltyJobs.isWorkerJobAvailable world.timeMsec
  | .zone => world.zoneJobs.isWorkerJobAvailable world.timeMsec

def getJobExecuteTimeMsec (world : World) : JobGroup → Int
  | .session => world.sessionJobs.getJobExecuteTimeMsec world.timeSec
  | .penalty => world.penaltyJobs.getJobExecuteTimeMsec world.timeSec
  | .zone => world.zoneJobs.getJobExecuteTimeMsec world.timeSec

/-- The call that runs the worker. -/
def workerRun : JobGroup → Call
  | .session => .sessionWorkerRun
  | .penalty => .penaltyWorkerRun
  | .zone => .zoneWorkerRun

end JobGroup

/-- The groups whose workers have threads. -/
inductive ThreadGroup
  | solo (group : WorkerGroup)
  | party (group : WorkerGroup)
  | jobs (group : JobGroup)

namespace ThreadGroup

def workerCount : ThreadGroup → Nat
  | .solo group | .party group => group.workerCount
  | .jobs _ => 1

/-- The section holds the mutex of the group. -/
def locks : ThreadGroup → Section → Bool
  | .solo group, .soloEnqueue other _ _ _ => decide (other.workerGroupKey = group.workerGroupKey)
  | .party group, .partyEnqueue other _ _ _ | .party group, .partyCancel other _
  | .party group, .partyCommit other _ | .party group, .partyExpand other =>
      decide (other.workerGroupKey = group.workerGroupKey)
  | .jobs group, step => group.adds step
  | _, _ => false

/-- The section is followed by a notification of the group's condition variable. -/
def notifies : ThreadGroup → Section → World → Bool
  | .solo group, .soloEnqueue other index request ticket, world =>
      decide (other.workerGroupKey = group.workerGroupKey) &&
        (world.soloEnqueue other index request ticket).1
  | .party group, .partyEnqueue other index request ticket, world =>
      decide (other.workerGroupKey = group.workerGroupKey) &&
        (world.partyEnqueue other index request ticket).1
  | .party group, .partyExpand other, world =>
      decide (other.workerGroupKey = group.workerGroupKey) &&
        (world.partyGroup other).expandSlotSuccess world.timeSec world.ticketStatus
  | .jobs group, step, _ => group.adds step
  | _, _, _ => false

def isWorkerJobAvailable : ThreadGroup → Nat → World → Bool
  | .solo group, index, world => (world.soloWorker group index).isWorkerJobAvailable
  | .party group, index, world => ((world.partyGroup group).workers index).isWorkerJobAvailable
  | .jobs group, _, world => group.isWorkerJobAvailable world

def getJobExecuteTimeMsec : ThreadGroup → World → Int
  | .solo _, world | .party _, world => MatchmakingMvp.getJobExecuteTimeMsec world.timeSec
  | .jobs group, world => group.getJobExecuteTimeMsec world

/-- The calls that run a worker. -/
inductive Runs : ThreadGroup → Nat → Call → Prop
  | solo {group index} (order : IterationOrder MatchTicket) :
      Runs (.solo group) index (.soloWorkerRun group.workerGroupKey index order)
  | party {group index} (countOrder : IterationOrder Int) (order : IterationOrder MatchTicket) :
      Runs (.party group) index (.partyWorkerRun group.workerGroupKey index countOrder order)
  | jobs {group index} : Runs (.jobs group) index group.workerRun

/-- `WorkerGroupThreadFunc` has work: the party group has slots to expand to. -/
def expands : ThreadGroup → Bool
  | .party group => PartyMatchmakingWorkerGroup.isAvailableMatchmakingExpandSlot group.workerCount
  | .solo _ | .jobs _ => false

/-- The call the group's own thread makes after each sleep. -/
inductive Upkeep : ThreadGroup → Call → Prop
  | party {group} : Upkeep (.party group) (.expandMatchmakingWorkerSlots group.workerGroupKey)

variable {threads : ThreadGroup}

theorem exists_runs (threads : ThreadGroup) (index : Nat) : ∃ call, threads.Runs index call := by
  cases threads with
  | solo group => exact ⟨_, .solo (IterationOrder.asListed _)⟩
  | party group => exact ⟨_, .party (IterationOrder.asListed _) (IterationOrder.asListed _)⟩
  | jobs group => exact ⟨_, .jobs⟩

theorem Runs.serverIssued {index : Nat} {call : Call} (runs : threads.Runs index call) :
    call.ServerIssued := by
  cases runs with
  | solo | party => exact fun _ => nofun
  | @jobs group =>
      cases group with
      | session | penalty | zone => exact fun _ => nofun

theorem Upkeep.serverIssued {call : Call} (upkeep : threads.Upkeep call) : call.ServerIssued := by
  cases upkeep
  exact fun _ => nofun

theorem locks_of_notifies {step : Section} {world : World}
    (notifies : threads.notifies step world = true) : threads.locks step = true := by
  cases threads with
  | solo group =>
      cases step with
      | soloEnqueue => exact (Bool.and_eq_true_iff.mp notifies).1
      | _ => cases notifies
  | party group =>
      cases step with
      | partyEnqueue | partyExpand => exact (Bool.and_eq_true_iff.mp notifies).1
      | _ => cases notifies
  | jobs group => exact notifies

/-- The threads of the group beside the admissible calls. -/
@[simps] def monitor (deployment : Deployment) (admissible : Call → Prop)
    (threads : ThreadGroup) : Monitor Section World where
  perform := perform
  workerCount := threads.workerCount
  locks := threads.locks
  notifies := threads.notifies
  locks_of_notifies := locks_of_notifies
  isAvailable := threads.isWorkerJobAvailable
  deadline _ world := getJobExecuteTimePoint (threads.getJobExecuteTimeMsec world)
  jobs index program := ∃ call, threads.Runs index call ∧ program = call.program deployment
  exists_job index := by
    obtain ⟨call, runs⟩ := threads.exists_runs index
    exact ⟨_, call, runs, rfl⟩
  isKept := threads.expands
  upkeep program := ∃ call, threads.Upkeep call ∧ program = call.program deployment
  calls program := ∃ call : Call, admissible call ∧ program = call.program deployment

variable {deployment : Deployment} {admissible : Call → Prop}
  {config : Monitor.Config Section World}

/-- **The threads of a group interleave calls.** -/
theorem interleaves
    (reached : (threads.monitor deployment Call.ServerIssued).Reached {} config) :
    config.Interleaves (threads.monitor deployment Call.ServerIssued)
      (fun program => ∃ call : Call, call.ServerIssued ∧ program = call.program deployment) {} :=
  reached.interleaves (fun _ _ ⟨call, runs, same⟩ => ⟨call, runs.serverIssued, same⟩)
    (fun _ ⟨call, upkeep, same⟩ => ⟨call, upkeep.serverIssued, same⟩) fun _ => id

/-- States between complete calls can be reached before the threads begin. -/
theorem exists_unbegun {world : World} (threads : ThreadGroup)
    (reached : Reached deployment admissible world) :
    ∃ config, (threads.monitor deployment admissible).Reached {} config ∧
      config.Unbegun (threads.monitor deployment admissible) ∧ config.state = world := by
  induction reached with
  | start => exact ⟨_, .start, ⟨rfl, rfl, rfl, rfl, nofun⟩, rfl⟩
  | call _ call issued ih =>
      obtain ⟨config, before, unbegun, rfl⟩ := ih
      exact before.call unbegun ⟨call, issued, rfl⟩

/-- **Groups come to rest.** Where no worker of a group has a job, its threads can be at rest. -/
theorem exists_atRest {world : World} (threads : ThreadGroup)
    (reached : Reached deployment admissible world)
    (unavailable : ∀ index < threads.workerCount,
      threads.isWorkerJobAvailable index world = false) :
    ∃ config, (threads.monitor deployment admissible).Reached {} config ∧
      config.AtRest (threads.monitor deployment admissible) ∧ config.state = world ∧
      ∀ index < threads.workerCount, config.threads index =
        .waiting (getJobExecuteTimePoint (threads.getJobExecuteTimeMsec world)) := by
  obtain ⟨config, before, unbegun, rfl⟩ := threads.exists_unbegun reached
  exact before.exists_atRest unbegun unavailable

end ThreadGroup

/-! ## What sections do to empty queues -/

section Empty

variable {world : World} {group other : WorkerGroup} {index changed : Int} {step : Section}

theorem isEmpty_withSoloWorker {worker : SoloMatchmakingWorker}
    (empty : (world.soloWorker group index).waitingQueue.isEmpty = true)
    (mine : world.soloWorker other changed = world.soloWorker group index →
      other.workerGroupKey = group.workerGroupKey → worker.waitingQueue.isEmpty = true) :
    ((world.withSoloWorker other changed worker).soloWorker group index).waitingQueue.isEmpty =
      true := by
  rw [World.soloWorker, World.withSoloWorker_soloWorkers]
  by_cases sameKey : group.workerGroupKey = other.workerGroupKey
  · rw [sameKey, Function.update_self]
    by_cases sameIndex : index = changed
    · subst sameIndex
      rw [Function.update_self]
      exact mine (by rw [World.soloWorker, World.soloWorker, sameKey]) sameKey.symm
    · rw [Function.update_of_ne sameIndex, ← sameKey]
      exact empty
  · rw [Function.update_of_ne sameKey]
    exact empty

/-- A solo worker's queue stays empty unless its group notifies. -/
theorem isEmpty_soloWorker_perform
    (quiet : (ThreadGroup.solo group).notifies step world = false)
    (empty : (world.soloWorker group index).waitingQueue.isEmpty = true) :
    ((perform step world).soloWorker group index).waitingQueue.isEmpty = true := by
  cases step with
  | soloEnqueue other changed request ticket =>
      refine isEmpty_withSoloWorker empty fun same key => ?_
      have refused : (world.soloEnqueue other changed request ticket).1 = false := by
        simpa [ThreadGroup.notifies, key] using quiet
      rw [World.soloEnqueue] at refused ⊢
      split at refused
      · rename_i worker result
        refine SoloMatchmakingWorker.isEmpty_erase ?_
        rw [show worker = _ from (congrArg Prod.snd result).symm,
          SoloMatchmakingWorker.enqueueJobRequest_refused (congrArg Prod.fst result), same]
        exact empty
      · cases refused
  | soloCancel other changed ticket =>
      refine isEmpty_withSoloWorker empty fun same _ => ?_
      refine SoloMatchmakingWorker.isEmpty_cancel ?_
      rw [same]
      exact empty
  | soloRun other changed =>
      refine isEmpty_withSoloWorker empty fun same _ => ?_
      refine SoloMatchmakingWorker.isEmpty_doWorkerAsyncJob ?_
      rw [same]
      exact empty
  | nextIntegrationWorldNo worldGroupNo =>
      simp only [perform]
      split_ifs <;> exact empty
  | _ => exact empty

theorem isEmpty_withPartyGroup {state : PartyMatchmakingWorkerGroup}
    (empty : ((world.partyGroup group).workers index).waitingQueue.isEmpty = true)
    (mine : world.partyGroup other = world.partyGroup group →
      other.workerGroupKey = group.workerGroupKey →
      (state.workers index).waitingQueue.isEmpty = true) :
    (((world.withPartyGroup other state).partyGroup group).workers index).waitingQueue.isEmpty =
      true := by
  rw [World.partyGroup, World.withPartyGroup_partyGroups]
  by_cases sameKey : group.workerGroupKey = other.workerGroupKey
  · rw [sameKey, Function.update_self]
    exact mine (by rw [World.partyGroup, World.partyGroup, sameKey]) sameKey.symm
  · rw [Function.update_of_ne sameKey]
    exact empty

/-- A party worker's queue stays empty unless its group notifies. -/
theorem isEmpty_partyWorker_perform
    (quiet : (ThreadGroup.party group).notifies step world = false)
    (empty : ((world.partyGroup group).workers index).waitingQueue.isEmpty = true) :
    (((perform step world).partyGroup group).workers index).waitingQueue.isEmpty = true := by
  cases step with
  | partyEnqueue other base request ticket =>
      refine isEmpty_withPartyGroup empty fun same key => ?_
      have refused : (world.partyEnqueue other base request ticket).1 = false := by
        simpa [ThreadGroup.notifies, key] using quiet
      refine PartyMatchmakingWorkerGroup.isEmpty_enqueueSection refused ?_
      rw [same]
      exact empty
  | partyCancel other ticket =>
      refine isEmpty_withPartyGroup empty fun same _ => ?_
      refine PartyMatchmakingWorkerGroup.isEmpty_cancelMatchTicket ?_
      rw [same]
      exact empty
  | partyCommit other requests =>
      refine isEmpty_withPartyGroup empty fun same _ => ?_
      refine PartyMatchmakingWorkerGroup.isEmpty_tryCommit ?_
      rw [same]
      exact empty
  | partyExpand other =>
      have kept : ∀ slots : MatchmakingRequest → WorkerSlot,
          ((({ world.withPartyGroup other (world.partyExpand other).1 with
            workerSlot := slots } : World).partyGroup group).workers
              index).waitingQueue.isEmpty = true := by
        intro slots
        refine isEmpty_withPartyGroup empty fun same key => ?_
        have idle : (world.partyGroup other).expandSlotSuccess world.timeSec world.ticketStatus =
            false := by
          simpa [ThreadGroup.notifies, key] using quiet
        rw [World.partyExpand,
          PartyMatchmakingWorkerGroup.expandMatchmakingWorkerSlot_workers idle, same]
        exact empty
      exact kept _
  | nextIntegrationWorldNo worldGroupNo =>
      simp only [perform]
      split_ifs <;> exact empty
  | _ => exact empty

end Empty

/-! ## No lost wake-up -/

section Rests

variable (deployment : Deployment) (admissible : Call → Prop)

/-- The queue of a sleeping thread's solo worker is empty. -/
def soloRest (group : WorkerGroup) :
    ((ThreadGroup.solo group).monitor deployment admissible).Rest where
  invariant _ := True
  idle index world := (world.soloWorker group index).waitingQueue.isEmpty = true
  rests index _ world := (world.soloWorker group index).waitingQueue.isEmpty = true
  kept _ := trivial
  idle_of_unavailable _ := isEmpty_of_size
  rests_of_idle _ := id
  idle_perform _ := isEmpty_soloWorker_perform
  rests_perform _ := isEmpty_soloWorker_perform

/-- The queue of a sleeping thread's party worker is empty. -/
def partyRest (group : WorkerGroup) :
    ((ThreadGroup.party group).monitor deployment admissible).Rest where
  invariant _ := True
  idle index world := ((world.partyGroup group).workers index).waitingQueue.isEmpty = true
  rests index _ world := ((world.partyGroup group).workers index).waitingQueue.isEmpty = true
  kept _ := trivial
  idle_of_unavailable {index world} _ unavailable := by
    cases empty : ((world.partyGroup group).workers index).waitingQueue.isEmpty with
    | true => rfl
    | false =>
        refine empty.symm.trans (isEmpty_of_size ?_)
        rwa [ThreadGroup.monitor_isAvailable, ThreadGroup.isWorkerJobAvailable,
          PartyMatchmakingWorker.isWorkerJobAvailable, empty] at unavailable
  rests_of_idle _ := id
  idle_perform _ := isEmpty_partyWorker_perform
  rests_perform _ := isEmpty_partyWorker_perform

namespace JobGroup

variable {group : JobGroup} {step : Section} {world : World}

theorem pairwise_enqueueJobRequest {Job : Type} {queue : AsyncJobQueue Job}
    (ordered : (queue.map Prod.fst).Pairwise (· ≤ ·)) (executeTimeMsec : Int) (job : Job) :
    ((queue.enqueueJobRequest executeTimeMsec job).map Prod.fst).Pairwise (· ≤ ·) := by
  rw [List.pairwise_map] at ordered ⊢
  exact insertMulti_pairwise ordered (fun _ _ ordered => ordered) (fun _ _ before => before)
    fun _ _ after => after.le

theorem takeJob_sublist {Job : Type} (queue : AsyncJobQueue Job) (timeMsec : Nat) :
    ((queue.takeJob timeMsec).2.map Prod.fst).Sublist (queue.map Prod.fst) := by
  rcases queue.takeJob_cases timeMsec with same | ⟨due, job, rest, rfl, taken⟩
  · rw [same]
  · rw [taken]
    exact List.sublist_cons_self _ _

/-- The jobs of a group stay in the order of their due times. -/
theorem pairwise_dueTimes (ordered : (group.dueTimes world).Pairwise (· ≤ ·)) :
    (group.dueTimes (perform step world)).Pairwise (· ≤ ·) := by
  cases step with
  | addSessionJob due job | addPenaltyJob due job | addZoneJob due job =>
      cases group with
      | session | penalty | zone =>
          first | exact ordered | exact pairwise_enqueueJobRequest ordered _ _
  | takeSessionJob | takePenaltyJob | takeZoneJob =>
      cases group with
      | session | penalty | zone =>
          first | exact ordered | exact ordered.sublist (takeJob_sublist _ _)
  | nextIntegrationWorldNo worldGroupNo =>
      simp only [perform]
      split_ifs <;> cases group <;> exact ordered
  | _ => cases group <;> exact ordered

/-- No job is added to a group that is not notified. -/
theorem dueTimes_sublist (quiet : group.adds step = false) :
    (group.dueTimes (perform step world)).Sublist (group.dueTimes world) := by
  cases step with
  | addSessionJob due job | addPenaltyJob due job | addZoneJob due job =>
      cases group with
      | session | penalty | zone => first | exact List.Sublist.refl _ | cases quiet
  | takeSessionJob | takePenaltyJob | takeZoneJob =>
      cases group with
      | session | penalty | zone =>
          first | exact List.Sublist.refl _ | exact takeJob_sublist _ _
  | nextIntegrationWorldNo worldGroupNo =>
      simp only [perform]
      split_ifs <;> cases group <;> exact List.Sublist.refl _
  | _ => cases group <;> exact List.Sublist.refl _

/-- A thread waits until the first job is due. -/
theorem getJobExecuteTimeMsec_le (ordered : (group.dueTimes world).Pairwise (· ≤ ·)) {due : Int}
    (pending : due ∈ group.dueTimes world) : group.getJobExecuteTimeMsec world ≤ due := by
  have first : ∀ {Job : Type} {queue : AsyncJobQueue Job},
      (queue.map Prod.fst).Pairwise (· ≤ ·) → due ∈ queue.map Prod.fst →
      queue.getJobExecuteTimeMsec world.timeSec ≤ due := by
    intro Job queue ordered pending
    cases queue with
    | nil => cases pending
    | cons entry rest =>
        rcases List.mem_cons.mp pending with rfl | later
        · exact le_rfl
        · exact (List.pairwise_cons.mp ordered).1 due later
  cases group with
  | session | penalty | zone => exact first ordered pending

end JobGroup

/-- A sleeping thread's deadline is no later than the due time of any pending job. -/
def jobRest (group : JobGroup) :
    ((ThreadGroup.jobs group).monitor deployment admissible).Rest where
  invariant world := (group.dueTimes world).Pairwise (· ≤ ·)
  idle _ _ := True
  rests _ deadline world := ∀ due ∈ group.dueTimes world, deadline ≤ due
  kept := JobGroup.pairwise_dueTimes
  idle_of_unavailable _ _ := trivial
  rests_of_idle {_ world} ordered _ due pending := by
    rw [ThreadGroup.monitor_deadline, getJobExecuteTimePoint_eq]
    exact JobGroup.getJobExecuteTimeMsec_le ordered pending
  idle_perform _ _ _ := trivial
  rests_perform _ quiet rests due pending :=
    rests due ((JobGroup.dueTimes_sublist quiet).subset pending)

end Rests

/-! ## Lists in progress -/

/-- No list in progress holds a full match. -/
def World.Short (deployment : Deployment) (world : World) : Prop :=
  ∀ group : WorkerGroup, deployment.getWorkerGroup .solo group.workerGroupKey = some group →
    0 < group.matchmakingRule.matchPlayerCount → ∀ index,
      ((world.soloWorkers group.workerGroupKey index).sendProgressingList.size : Int) <
        group.matchmakingRule.matchPlayerCount

section Short

variable {deployment : Deployment} {permits : MatchTicketRequest → Prop} {step : Section}
  {world : World} {stage stage' : Stage}

theorem World.Short.withSoloWorker (short : world.Short deployment) {group : WorkerGroup}
    {index : Int} {worker : SoloMatchmakingWorker}
    (holds : ∀ other : WorkerGroup,
      deployment.getWorkerGroup .solo other.workerGroupKey = some other →
      0 < other.matchmakingRule.matchPlayerCount →
      other.workerGroupKey = group.workerGroupKey →
        (worker.sendProgressingList.size : Int) < other.matchmakingRule.matchPlayerCount) :
    (world.withSoloWorker group index worker).Short deployment := by
  intro other served playable position
  rw [World.withSoloWorker_soloWorkers]
  by_cases sameKey : other.workerGroupKey = group.workerGroupKey
  · rw [sameKey, Function.update_self]
    by_cases sameIndex : position = index
    · rw [sameIndex, Function.update_self]
      exact holds other served playable sameKey
    · rw [Function.update_of_ne sameIndex, ← sameKey]
      exact short other served playable position
  · rw [Function.update_of_ne sameKey]
    exact short other served playable position

/-- A worker whose list in progress does not grow. -/
theorem World.Short.shrink (short : world.Short deployment) {group : WorkerGroup} {index : Int}
    {worker : SoloMatchmakingWorker}
    (shrinks : worker.sendProgressingList.size ≤
      (world.soloWorker group index).sendProgressingList.size) :
    (world.withSoloWorker group index worker).Short deployment := by
  refine short.withSoloWorker fun other served playable same => ?_
  have before := short other served playable index
  rw [same] at before
  exact (Int.ofNat_le.mpr shrinks).trans_lt before

/-- A run takes a full list away. -/
theorem SoloMatchmakingWorker.size_doWorkerAsyncJob_lt {rule : MatchmakingRule}
    (playable : 0 < rule.matchPlayerCount) (worker : SoloMatchmakingWorker)
    (statuses : TicketStatuses) :
    ((worker.doWorkerAsyncJob rule statuses).2.1.sendProgressingList.size : Int) <
      rule.matchPlayerCount := by
  rcases doWorkerAsyncJob_cases rule worker statuses with
    ⟨incomplete, run⟩ | ⟨-, ⟨-, run⟩ | ⟨-, run⟩⟩
  · rw [run]
    rw [sizeAtLeast, decide_eq_true_iff, not_le] at incomplete
    have within : rule.matchPlayerCount % 2 ^ 64 ≤ rule.matchPlayerCount := by omega
    exact incomplete.trans_le within
  · rw [run]
    exact playable
  · rw [run]
    exact playable

theorem Issues.short (issues : Issues deployment permits step world stage stage')
    (short : world.Short deployment) : (perform step world).Short deployment := by
  cases issues with
  | @soloEnqueue _ ticket _ group index =>
      refine short.shrink ?_
      have kept := SoloMatchmakingWorker.size_enqueueJobRequest_progressing
        (world.soloWorker group index) world.ticketStatus ticket.matchmakingRequest
      rw [World.soloEnqueue]
      generalize SoloMatchmakingWorker.enqueueJobRequest _ _ _ = result at kept ⊢
      obtain ⟨accepted, worker⟩ := result
      rw [← kept]
      cases accepted with
      | true => exact le_rfl
      | false => exact OrderedMap.size_erase_le _ _
  | @soloCancel _ _ ticket group index =>
      refine short.shrink ?_
      change (world.soloCancel group index ticket).2.1.sendProgressingList.size ≤ _
      rw [World.soloCancel]
      cases can : canChangeStatus (world.ticketStatus ticket) .cancelled with
      | true =>
          rw [SoloMatchmakingWorker.cancel_of_can can]
          exact OrderedMap.size_erase_le _ _
      | false =>
          rw [SoloMatchmakingWorker.cancel_of_cannot can]
  | soloWait groupServed | soloClaim groupServed | soloReject groupServed =>
      refine short.withSoloWorker fun other served playable same => ?_
      rw [← same, served] at groupServed
      cases groupServed
      exact SoloMatchmakingWorker.size_doWorkerAsyncJob_lt playable _ _
  | neutral neutral =>
      intro group served playable index
      rw [(sameMatchmaking_of_neutral neutral world).soloWorkers]
      exact short group served playable index
  | _ => exact short

/-- In every interleaving, no list in progress holds a full match. -/
theorem Interleaved.short {admissible : Call → Prop} {allowed : Section → World → Prop}
    {trace : List (Executed Section World)} {pool : Pool Section World}
    (execution : Interleaved deployment admissible allowed trace pool) :
    pool.state.Short deployment := by
  have initially : ({} : World).Short deployment := fun _ _ playable _ => playable
  have permitted : ∀ call : Call, admissible call → ∀ request, call.request = some request →
      (fun _ => True : MatchTicketRequest → Prop) request := fun _ _ _ _ => trivial
  obtain ⟨-, -, _, short⟩ := execution.asserted permitted
    (fun _ world _ => world.Short deployment) initially (fun _ _ _ => id)
    fun _ _ _ _ _ _ _ issues _ short => issues.short short
  exact short

end Short

/-! ## Groups at rest -/

section AtRest

variable {deployment : Deployment} {admissible : Call → Prop} {group : WorkerGroup}
  {config : Monitor.Config Section World}

/-- **A solo group at rest.** Where all calls are done and the threads of a solo group can do
nothing but wait, fewer queued tickets than make a match are assigned to each worker. -/
theorem solo_group_at_rest
    (served : deployment.getWorkerGroup .solo group.workerGroupKey = some group)
    (playable : 0 < group.matchmakingRule.matchPlayerCount)
    (reached : ((ThreadGroup.solo group).monitor deployment Call.ServerIssued).Reached {} config)
    (atRest : config.AtRest ((ThreadGroup.solo group).monitor deployment Call.ServerIssued))
    {index : Nat} (below : index < group.workerCount) {tickets : List MatchTicket}
    (distinct : tickets.Nodup)
    (queued : ∀ ticket ∈ tickets, config.state.QueuedIn .solo group.workerGroupKey ticket)
    (assigned : ∀ ticket ∈ tickets,
      getWorkerIndex group.workerCount ticket.matchTicketId = index) :
    (tickets.length : Int) < group.matchmakingRule.matchPlayerCount := by
  obtain ⟨deadline, -, empty⟩ := reached.rests_of_atRest (soloRest deployment _ group) trivial
    atRest below
  obtain ⟨trace, pool, execution, state, quiet⟩ := atRest.exists_quiet (ThreadGroup.interleaves
    reached)
  have execution : Interleaved deployment Call.ServerIssued (fun _ _ => True) trace pool :=
    execution
  have permitted : ∀ call : Call, call.ServerIssued → ∀ request, call.request = some request →
      request.matchTicketId = -1 := fun call issued request asks => issued request asks
  have sound := execution.sound permitted
  have short := execution.short group served playable index
  rw [state] at sound short
  -- the queue is empty, so all of them are in progress
  have listed : tickets.map MatchTicket.matchTicketId ⊆
      (config.state.soloWorker group index).sendProgressingList.keys := by
    intro id inside
    obtain ⟨ticket, member, rfl⟩ := List.mem_map.mp inside
    have kept := execution.keeps_of_quiet quiet served (state ▸ queued ticket member)
    rw [state, assigned ticket member] at kept
    rcases kept with waits | progresses
    · rw [OrderedMap.find?_eq_some_iff, List.isEmpty_iff.mp empty] at waits
      exact (List.not_mem_nil waits).elim
    · exact OrderedMap.mem_keys_iff.mpr ⟨_, progresses⟩
  have apart : (tickets.map MatchTicket.matchTicketId).Nodup :=
    distinct.map_on fun ticket member rival other same =>
      (sound.eq_of_matchTicketId (fun _ issued => issued) (queued ticket member).1.1
        (queued rival other).1.1 same).2
  have fewer := (List.subperm_of_subset apart listed).length_le
  rw [List.length_map, OrderedMap.keys, List.length_map] at fewer
  exact (Int.ofNat_le.mpr fewer).trans_lt short

/-- The group of matches of two players. -/
def pairSoloGroup : WorkerGroup := ⟨(0, "Dungeon"), pairRule, 1, Nat.one_pos⟩

/-- One of two players waits for the other. -/
def lonelyWorld : World :=
  completeAll pairDeployment [.soloStartMatchmaking (soloRequest 1), pairWorkerRun] {}

theorem solo_group_at_rest_lonely :
    ∃ config,
      ((ThreadGroup.solo pairSoloGroup).monitor pairDeployment Call.ServerIssued).Reached {}
        config ∧
      config.state = lonelyWorld ∧ ∃ ticket, config.state.QueuedIn .solo (0, "Dungeon") ticket ∧
        (([ticket] : List MatchTicket).length : Int) < 2 := by
  have reached : Reached pairDeployment Call.ServerIssued lonelyWorld :=
    Reached.completeAll pairDeployment .start (by decide)
  obtain ⟨config, configReached, atRest, state, -⟩ :=
    ThreadGroup.exists_atRest (.solo pairSoloGroup) reached (by decide +kernel)
  have queued : config.state.QueuedIn .solo (0, "Dungeon")
      ⟨0, { soloRequest 1 with matchTicketId := 1000 }, 0⟩ := by
    rw [state]
    refine ⟨⟨?_, by decide +kernel⟩, by decide +kernel⟩
    rw [World.Made]
    decide +kernel
  refine ⟨config, configReached, state, _, queued, ?_⟩
  have below : 0 < pairSoloGroup.workerCount := by decide
  exact solo_group_at_rest (by decide) (by decide) configReached atRest below
    (List.nodup_singleton _)
    (fun ticket member => List.mem_singleton.mp member ▸ queued)
    (fun ticket member => List.mem_singleton.mp member ▸ by decide)

/-- **A party group at rest.** Where all calls are done and the threads of a party group can do
nothing but wait, no ticket of the group is queued. -/
theorem party_group_at_rest
    (served : deployment.getWorkerGroup .party group.workerGroupKey = some group)
    (reached : ((ThreadGroup.party group).monitor deployment Call.ServerIssued).Reached {} config)
    (atRest : config.AtRest ((ThreadGroup.party group).monitor deployment Call.ServerIssued))
    (ticket : MatchTicket) :
    ¬ config.state.QueuedIn .party group.workerGroupKey ticket := by
  intro queued
  obtain ⟨trace, pool, execution, state, -⟩ := atRest.exists_quiet (ThreadGroup.interleaves
    reached)
  have execution : Interleaved deployment Call.ServerIssued (fun _ _ => True) trace pool :=
    execution
  have waits := execution.partyKept group served ticket (state ▸ queued)
  rw [state] at waits
  have permitted : ∀ call : Call, call.ServerIssued → ∀ request, call.request = some request →
      request.matchTicketId = -1 := fun call issued request asks => issued request asks
  have indexed := hasWorker_getWorkerIndex group.hasWorkers
    ((execution.sound permitted).nonneg.2 _ _ (state ▸ queued.1.1))
  rw [hasWorker, decide_eq_true_iff] at indexed
  obtain ⟨index, same⟩ := Int.eq_ofNat_of_zero_le indexed.1
  rw [same] at waits indexed
  obtain ⟨deadline, -, empty⟩ := reached.rests_of_atRest (partyRest deployment _ group) trivial
    atRest (Int.ofNat_lt.mp indexed.2)
  rw [OrderedMap.find?_eq_some_iff, List.isEmpty_iff.mp empty] at waits
  exact List.not_mem_nil waits

/-- The tickets of two matched players are not queued. -/
theorem party_group_at_rest_pair :
    ∃ config,
      ((ThreadGroup.party pairSoloGroup).monitor pairDeployment Call.ServerIssued).Reached {}
        config ∧
      config.state = pairMatchWorld ∧
        ∀ ticket, ¬ config.state.QueuedIn .party (0, "Dungeon") ticket := by
  have reached : Reached pairDeployment Call.ServerIssued pairMatchWorld :=
    Reached.completeAll pairDeployment .start (by decide)
  obtain ⟨config, configReached, atRest, state, -⟩ :=
    ThreadGroup.exists_atRest (.party pairSoloGroup) reached (by decide +kernel)
  exact ⟨config, configReached, state, party_group_at_rest (by decide) configReached atRest⟩

/-- **Sleeping threads of job queues.** Where nobody owes a notification, a sleeping thread
waits no longer than until the first of the pending jobs is due. -/
theorem job_thread_sleeps {jobs : JobGroup}
    (reached : ((ThreadGroup.jobs jobs).monitor deployment admissible).Reached {} config)
    (settled : ¬ config.Owes) {index : Nat} {deadline : Int}
    (sleeps : config.threads index = .waiting deadline) :
    ∀ due ∈ jobs.dueTimes config.state, deadline ≤ due := by
  have ordered : (jobs.dueTimes {}).Pairwise (· ≤ ·) := by cases jobs <;> exact .nil
  have attentive : (jobRest deployment admissible jobs).Attentive config :=
    reached.attentive ordered
  exact attentive.rests sleeps settled

/-- A player is answered for in a second, and the acceptance times out in a minute. -/
theorem job_thread_sleeps_sole :
    ∃ config deadline,
      ((ThreadGroup.jobs .session).monitor soleMatchDeployment Call.ServerIssued).Reached {}
        config ∧
      config.state = soleMatchWorld ∧ config.threads 0 = .waiting deadline ∧
      JobGroup.session.dueTimes config.state = [1000, 60000] ∧
      ∀ due ∈ JobGroup.session.dueTimes config.state, deadline ≤ due := by
  obtain ⟨config, configReached, atRest, state, asleep⟩ :=
    ThreadGroup.exists_atRest (.jobs .session) soleMatchWorld_reached (by decide +kernel)
  have sleeps := asleep 0 (by decide)
  exact ⟨config, _, configReached, state, sleeps, by rw [state]; decide +kernel,
    job_thread_sleeps configReached atRest.settled sleeps⟩

end AtRest

/-! ## Stopping -/

/-- **Stopped groups.** Once the flag of a group is down, a worker thread that performs no job
begins none any more, and the group's own thread, unless it is asleep, never sleeps again and
begins no expansion. When the stop has returned, all threads of the group have finished. -/
theorem stopped_group_rests {deployment : Deployment} {admissible : Call → Prop}
    {threads : ThreadGroup} {config after : Monitor.Config Section World}
    (reached : (threads.monitor deployment admissible).Reached {} config)
    (down : config.isRunning = false)
    (later : Relation.ReflTransGen (threads.monitor deployment admissible).Step config after) :
    (∀ index, (config.threads index).isWorking = false →
      (after.threads index).isWorking = false) ∧
    (config.keeper ≠ .resting → after.keeper ≠ .resting ∧
      (config.keeper.isWorking = false → after.keeper.isWorking = false)) ∧
    (after.stop = .stopped →
      (∀ index < threads.workerCount, after.threads index = .finished) ∧
        after.keeper = .finished) := by
  refine ⟨fun index idle => Monitor.not_working_of_flagged down idle later,
    fun awake => Monitor.not_resting_of_flagged down awake later, fun stopped => ?_⟩
  have orderly := (reached.trans later).orderly
  exact ⟨orderly.joined stopped, orderly.kept stopped⟩

/-- The party group of matches of two players, with two workers. -/
def twinGroup : WorkerGroup := ⟨(0, "Dungeon"), pairRule, 2, Nat.two_pos⟩

def twinDeployment : Deployment := ⟨fun _ => [pairRule], fun _ => 2, fun _ => Nat.two_pos⟩

/-- The flag is lowered before the two workers begin and while the group's own thread sleeps,
which expands once more and finishes. -/
theorem stopped_group_rests_twin :
    ∃ asleep config after : Monitor.Config Section World,
      let threads := (ThreadGroup.party twinGroup).monitor twinDeployment Call.ServerIssued
      threads.Reached {} asleep ∧ asleep.isRunning = false ∧ asleep.keeper = .resting ∧
      Relation.ReflTransGen threads.Step asleep config ∧ config.keeper.isWorking = true ∧
      Relation.ReflTransGen threads.Step config after ∧ after.stop = .stopped ∧
      (∀ index < 2, after.threads index = .finished) ∧ after.keeper = .finished := by
  let threads := (ThreadGroup.party twinGroup).monitor twinDeployment Call.ServerIssued
  have initially : Reached twinDeployment Call.ServerIssued {} := .start
  obtain ⟨config, reached, unbegun, state⟩ :=
    ThreadGroup.exists_unbegun (.party twinGroup) initially
  have free : config.Free := Monitor.free_of_begin unbegun.threads
  let flagged : Monitor.Config Section World :=
    { config.withKeeper .resting with isRunning := false, stop := .flagged }
  have asleep : threads.Reached {} flagged := by
    have decided := (reached.step (.keeper (.begin unbegun.keeper))).step (.keeper (.decide rfl))
    rw [Monitor.Config.withKeeper_isRunning, unbegun.running] at decided
    exact decided.step (.other (.stop unbegun.idle))
  -- the expansion is one section, without a notification while nothing is scheduled
  let expansion : Operation Unit := Program.atomically (.partyExpand twinGroup) fun _ => ()
  have upkeep : threads.upkeep expansion := ⟨_, .party, rfl⟩
  let working := flagged.withKeeper (.working { rest := expansion })
  have works : threads.Step flagged working := .keeper (.work rfl upkeep)
  let expanded : Monitor.Config Section World :=
    { working.withKeeper (.working ⟨.done (), false⟩) with
      state := perform (.partyExpand twinGroup) config.state }
  have performs : threads.Step working expanded := by
    have performed : threads.Step working _ := .keeper (.perform rfl fun _ => free)
    have quiet : threads.notifies (.partyExpand twinGroup) config.state = false := by
      rw [state]
      decide +kernel
    rwa [show working.state = config.state from rfl, quiet] at performed
  let idle := expanded.withKeeper .finished
  have completes : Relation.ReflTransGen threads.Step expanded idle :=
    .tail (.single (.keeper (.complete rfl))) (.keeper (.decide rfl))
  -- the workers quit, and the stop joins all threads
  let quit := (idle.withThread 0 .finished).withThread 1 .finished
  have quits : Relation.ReflTransGen threads.Step idle quit :=
    .tail (.single (.thread (.begin (unbegun.starting (by decide)))))
      (.thread (.begin (unbegun.starting (by decide))))
  let joining : Monitor.Config Section World := { quit.wakeAll with stop := .joining }
  let stopped : Monitor.Config Section World := { joining with stop := .stopped }
  have joins : Relation.ReflTransGen threads.Step quit stopped := by
    have finished : ∀ index < 2, quit.wakeAll.threads index = .finished := by
      intro index below
      rw [Monitor.Config.wakeAll_threads, WorkerPhase.notified_eq_finished]
      have which : index = 0 ∨ index = 1 := by omega
      rcases which with rfl | rfl <;> simp [quit]
    exact .tail (.single (.other (.stopNotify rfl))) (.other (.join rfl finished rfl))
  have later : Relation.ReflTransGen threads.Step working stopped :=
    .head performs (completes.trans (quits.trans joins))
  have workingReached := asleep.step works
  exact ⟨flagged, working, stopped, asleep, rfl, rfl, .single works, rfl, later, rfl,
    (stopped_group_rests workingReached rfl later).2.2 rfl⟩

end MatchmakingMvp
