import MatchmakingMvp.System.Operations

/-! # Calls from outside and runs of the system

What clients, worker threads and timers may start: the managers' public
operations, the runs of the workers and the deferred jobs. Two kinds of runs
arise from them: the states between complete operations
(`MatchmakingMvp.Reached`) and the interleavings of critical sections
(`MatchmakingMvp.Interleaved`). Timeouts, acceptances and completions may arrive
for any session at any moment, which includes every schedule of the deferred
jobs.
-/

namespace MatchmakingMvp

open Foundation

inductive Call
  | tick (timeMsec : Nat)
  | soloStartMatchmaking (request : MatchTicketRequest)
  | soloStopMatchmaking (playerKey : PlayerKey) (applyDodgePenalty : Bool)
  | soloWorkerRun (key : MatchmakingGroupKey) (workerId : Int) (order : IterationOrder MatchTicket)
  | partyStartMatchmaking (request : MatchTicketRequest)
  | partyStopMatchmaking (playerKey : PlayerKey)
  | startMatchBackfill (request : MatchTicketRequest)
  | stopMatchBackfill (matchTicketId : MatchTicketId)
  | partyWorkerRun (key : MatchmakingGroupKey) (workerId : Int)
      (countOrder : IterationOrder Int) (order : IterationOrder MatchTicket)
  | expandMatchmakingWorkerSlots (key : MatchmakingGroupKey)
  | acceptMatchSession (acceptInfo : PlayerMatchAcceptInfo)
  | onTimeOutAcceptMatchSession (matchId : MatchId)
  | onTimeOutPlaceMatchSession (matchId : MatchId)
  | onFailedMatchSession (matchId : MatchId)
  | onCompleteMatchSession (info : IntegrationZoneInstanceInfo) (success : Bool)
  | sessionWorkerRun
  | penaltyWorkerRun
  | zoneWorkerRun
  | playerLogin (playerKey : PlayerKey)
  | playerLeave (playerKey : PlayerKey) (isDodge : Bool)
  | playerLeaved (playerKey : PlayerKey) (isDodge : Bool)
  | zoneUpdated (key : IntegrationZoneInstanceKey)
  | zoneTerminated (info : IntegrationZoneInstanceInfo)
  | integrationServerClosed (sessionKey : Int) (worldNo : Int)

/-- Execute the first session job if it is due. -/
def sessionWorkerRun : Operation Unit := do
  match ← Program.atomically .takeSessionJob
      (fun world => (world.sessionJobs.takeJob world.timeMsec).1) with
  | none => return ()
  | some (.timeOutAccept matchId) => MatchSessionManager.onTimeOutAcceptMatchSession matchId
  | some (.accept playerKey) =>
      MatchSessionManager.acceptMatchSession { playerKey := playerKey, isAccept := true }
  | some (.timeOutPlace matchId) => MatchSessionManager.onTimeOutPlaceMatchSession matchId
  | some (.complete info) => MatchSessionManager.onCompleteMatchSession info true

/-- Execute the first penalty job if it is due. -/
def penaltyWorkerRun : Operation Unit := do
  match ← Program.atomically .takePenaltyJob
      (fun world => (world.penaltyJobs.takeJob world.timeMsec).1) with
  | none => return ()
  | some playerKey => MatchPenaltyManager.expireDodgePenalty playerKey

/-- Execute the first zone job if it is due. -/
def zoneWorkerRun : Operation Unit := do
  match ← Program.atomically .takeZoneJob
      (fun world => (world.zoneJobs.takeJob world.timeMsec).1) with
  | none => return ()
  | some (.serverClosed sessionKey worldNo) =>
      IntegrationZoneInstanceManager.processIntegrationServerClosedAsync sessionKey worldNo
  | some (.expire key) => IntegrationZoneInstanceManager.processZoneInstanceExpireAsync key
  | some (.playerLeaved playerKey isDodge) =>
      IntegrationZoneInstanceManager.processPlayerLeavedFromIntegrationServer playerKey isDodge

variable (deployment : Deployment)

/-- Run an operation of the group with a key, if there is one. -/
def onGroup (queue : QueueKind) (key : MatchmakingGroupKey)
    (operation : WorkerGroup → Operation Unit) : Operation Unit :=
  match deployment.getWorkerGroup queue key with
  | none => pure ()
  | some group => operation group

def processPlayerLogin (playerKey : PlayerKey) : Operation Unit := do
  let _ ← PartyMatchmakingManager.stopMatchmaking deployment playerKey
  let _ ← SoloMatchmakingManager.stopMatchmaking deployment playerKey false
  let _ ← IntegrationZoneInstanceManager.findByPlayerKey playerKey

/-- The program of a call. -/
def Call.program : Call → Operation Unit
  | .tick timeMsec => Program.atomically (.tick timeMsec) fun _ => ()
  | .soloStartMatchmaking request => do
      let _ ← SoloMatchmakingManager.startMatchmaking deployment request
  | .soloStopMatchmaking playerKey applyDodgePenalty => do
      let _ ← SoloMatchmakingManager.stopMatchmaking deployment playerKey applyDodgePenalty
  | .soloWorkerRun key workerId order =>
      onGroup deployment .solo key fun group => do
        let _ ← SoloMatchmakingWorkerGroup.doWorkerAsyncJob group workerId order
  | .partyStartMatchmaking request => do
      let _ ← PartyMatchmakingManager.startMatchmaking deployment request
  | .partyStopMatchmaking playerKey => do
      let _ ← PartyMatchmakingManager.stopMatchmaking deployment playerKey
  | .startMatchBackfill request => do
      let _ ← PartyMatchmakingManager.startMatchBackfill deployment request
  | .stopMatchBackfill matchTicketId =>
      PartyMatchmakingManager.stopMatchBackfill deployment matchTicketId
  | .partyWorkerRun key workerId countOrder order =>
      onGroup deployment .party key fun group => do
        let _ ← PartyMatchmakingWorkerGroup.doWorkerAsyncJob group workerId countOrder order
  | .expandMatchmakingWorkerSlots key =>
      onGroup deployment .party key PartyMatchmakingWorkerGroup.expandMatchmakingWorkerSlots
  | .acceptMatchSession acceptInfo => MatchSessionManager.acceptMatchSession acceptInfo
  | .onTimeOutAcceptMatchSession matchId => MatchSessionManager.onTimeOutAcceptMatchSession matchId
  | .onTimeOutPlaceMatchSession matchId => MatchSessionManager.onTimeOutPlaceMatchSession matchId
  | .onFailedMatchSession matchId => MatchSessionManager.onFailedMatchSession matchId
  | .onCompleteMatchSession info success => MatchSessionManager.onCompleteMatchSession info success
  | .sessionWorkerRun => MatchmakingMvp.sessionWorkerRun
  | .penaltyWorkerRun => MatchmakingMvp.penaltyWorkerRun
  | .zoneWorkerRun => MatchmakingMvp.zoneWorkerRun
  | .playerLogin playerKey => processPlayerLogin deployment playerKey
  | .playerLeave playerKey isDodge => do
      let _ ← IntegrationZoneInstanceManager.processPlayerLeaveToIntegrationServer playerKey isDodge
  | .playerLeaved playerKey isDodge =>
      IntegrationZoneInstanceManager.processPlayerLeavedFromIntegrationServer playerKey isDodge
  | .zoneUpdated key =>
      IntegrationZoneInstanceManager.processZoneInstanceInfoUpdatedFromIntegrationServer key
  | .zoneTerminated info =>
      IntegrationZoneInstanceManager.processZoneInstanceTerminatedFromIntegrationServer info
  | .integrationServerClosed sessionKey worldNo =>
      IntegrationZoneInstanceManager.processIntegrationServerClosed sessionKey worldNo

/-- The requests a call brings into the system. -/
def Call.request : Call → Option MatchTicketRequest
  | .soloStartMatchmaking request | .partyStartMatchmaking request
  | .startMatchBackfill request => some request
  | _ => none

/-- The call leaves the choice of ticket ids to the server. -/
def Call.ServerIssued (call : Call) : Prop :=
  ∀ request, call.request = some request → request.matchTicketId = -1

instance (call : Call) : Decidable call.ServerIssued :=
  inferInstanceAs (Decidable (∀ request ∈ call.request, request.matchTicketId = -1))

/-- The state after a complete call. -/
def Call.complete (call : Call) (world : World) : World :=
  ((call.program deployment).run perform world).2

/-- The states between complete calls. -/
inductive Reached (admissible : Call → Prop) : World → Prop
  | start : Reached admissible {}
  | call {world : World} (before : Reached admissible world) (call : Call)
      (admits : admissible call) : Reached admissible (call.complete deployment world)

theorem Reached.mono {admissible wider : Call → Prop} {world : World}
    (reached : Reached deployment admissible world)
    (implies : ∀ call, admissible call → wider call) : Reached deployment wider world := by
  induction reached with
  | start => exact .start
  | call _ call admits ih => exact ih.call call (implies call admits)

/-- The states between complete calls each of which meets a condition where it is made. -/
inductive ReachedWhere (condition : Call → World → Prop) : World → Prop
  | start : ReachedWhere condition {}
  | call {world : World} (before : ReachedWhere condition world) (call : Call)
      (meets : condition call world) : ReachedWhere condition (call.complete deployment world)

theorem ReachedWhere.reached {condition : Call → World → Prop} {admissible : Call → Prop}
    {world : World} (reached : ReachedWhere deployment condition world)
    (admits : ∀ call world, condition call world → admissible call) :
    Reached deployment admissible world := by
  induction reached with
  | start => exact .start
  | @call world _ call meets ih => exact ih.call call (admits call world meets)

/-- The state after complete calls, one after another. -/
def completeAll (calls : List Call) (world : World) : World :=
  calls.foldl (fun world call => call.complete deployment world) world

theorem Reached.completeAll {admissible : Call → Prop} {world : World}
    (reached : Reached deployment admissible world) {calls : List Call}
    (admits : ∀ call ∈ calls, admissible call) :
    Reached deployment admissible (completeAll deployment calls world) := by
  induction calls generalizing world with
  | nil => exact reached
  | cons call rest ih =>
      exact ih (reached.call call (admits call List.mem_cons_self)) fun other inside =>
        admits other (List.mem_cons_of_mem _ inside)

/-- The interleavings of the critical sections of calls, each section allowed
where it is performed. -/
abbrev Interleaved (admissible : Call → Prop) (allowed : Section → World → Prop) :
    List (Executed Section World) → Pool Section World → Prop :=
  Execution perform (fun program => ∃ call, admissible call ∧ program = call.program deployment)
    allowed {}

/-- All calls made at once and followed through a schedule of their threads. -/
def playCalls (calls : List Call) (schedule : List Nat) :
    List (Executed Section World) × Pool Section World :=
  Pool.follow perform schedule ⟨{}, calls.map (Call.program deployment)⟩

theorem Interleaved.play {admissible : Call → Prop} {calls : List Call}
    (admits : ∀ call ∈ calls, admissible call) (schedule : List Nat) :
    Interleaved deployment admissible (fun _ _ => True) (playCalls deployment calls schedule).1
      (playCalls deployment calls schedule).2 := by
  refine Execution.play (fun program member => ?_) schedule
  obtain ⟨call, inside, rfl⟩ := List.mem_map.mp member
  exact ⟨call, admits call inside, rfl⟩

/-- Matches of a single player. -/
def soleMatchRule : MatchmakingRule := { matchZoneId := "Dungeon", partyAvailablePlayerCount := 1 }

def soleMatchDeployment : Deployment := ⟨fun _ => [soleMatchRule], fun _ => 1, fun _ => by decide⟩

/-- The group of the rule for matches of a single player. -/
def soleMatchGroup : WorkerGroup := ⟨(0, "Dungeon"), soleMatchRule, 1, by decide⟩

/-- A party of one player. -/
def soleRequest (playerKey : PlayerKey) : MatchTicketRequest :=
  { worldNo := 0, matchZoneId := "Dungeon", partyKey := 1,
    players := ⟨[playerKey], List.pairwise_singleton _ _⟩ }

/-- A player without a party. -/
def soloRequest (playerKey : PlayerKey) : MatchTicketRequest :=
  { soleRequest playerKey with partyKey := 0 }

/-- The ticket made from the first party request. -/
def soleTicket (playerKey : PlayerKey) : MatchTicket :=
  ⟨0, { soleRequest playerKey with matchTicketId := 1000 }, 0⟩

def solePartyWorkerRun : Call :=
  .partyWorkerRun (0, "Dungeon") 0 (IterationOrder.asListed _) (IterationOrder.asListed _)

/-- Matches of two players without parties. -/
def pairRule : MatchmakingRule :=
  { matchZoneId := "Dungeon", matchPlayerCount := 2, partyAvailablePlayerCount := 1 }

/-- Both managers serve them with one worker. -/
def pairDeployment : Deployment := ⟨fun _ => [pairRule], fun _ => 1, fun _ => Nat.one_pos⟩

def pairWorkerRun : Call := .soloWorkerRun (0, "Dungeon") 0 (IterationOrder.asListed _)

/-- Two players queue as parties of one and are matched. -/
def pairMatchWorld : World :=
  completeAll pairDeployment [.partyStartMatchmaking (soleRequest 1),
    .partyStartMatchmaking (soleRequest 2), solePartyWorkerRun] {}

/-- Every state between complete calls is the state of an interleaving in which
all threads are done. -/
theorem Reached.interleaved {admissible : Call → Prop} {world : World}
    (reached : Reached deployment admissible world) :
    ∃ trace threads,
      Interleaved deployment admissible (fun _ _ => True) trace ⟨world, threads⟩ := by
  induction reached with
  | start => exact ⟨[], [], .start⟩
  | call _ call admits ih =>
      obtain ⟨trace, threads, execution⟩ := ih
      exact ⟨_, _, execution.alone (fun _ _ => trivial) ⟨call, admits, rfl⟩⟩

end MatchmakingMvp
