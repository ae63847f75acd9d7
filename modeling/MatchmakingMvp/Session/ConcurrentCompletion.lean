import MatchmakingMvp.Session.TaskPrograms
import MatchmakingMvp.Integration.ZoneInsertion

/-! # A completion beside timeouts, failures and responses

A completion makes its zone first and then completes the session, and it undoes the
zone where something else ended the session before. Whatever runs beside it, in the end
the zone is registered exactly if the session was completed
(`MatchmakingMvp.completion_settles`).
-/

namespace MatchmakingMvp

open Foundation

namespace IntegrationZones

variable {zones : IntegrationZones} {key : IntegrationZoneInstanceKey}
  {zone : IntegrationZoneInstance} {players : OrderedSet PlayerKey}

/-- Nothing is registered or indexed under the key. -/
structure Vacant (zones : IntegrationZones) (key : IntegrationZoneInstanceKey) : Prop where
  unregistered : zones.instanceMap.find? key = none
  unindexed : ∀ playerKey, zones.findMapByPlayerKey playerKey ≠ some key

/-- The zone is registered under the key, and exactly the players are indexed there. -/
structure Houses (zones : IntegrationZones) (key : IntegrationZoneInstanceKey)
    (zone : IntegrationZoneInstance) (players : OrderedSet PlayerKey) : Prop where
  registered : zones.instanceMap.find? key = some zone
  indexed : ∀ playerKey, zones.findMapByPlayerKey playerKey = some key ↔
    playerKey ∈ players.elements

theorem Vacant.houses (vacant : zones.Vacant zone.integrationZoneInstanceKey)
    (inserted : (zones.insertSection zone players).1 = true) :
    (zones.insertSection zone players).2.Houses zone.integrationZoneInstanceKey zone players := by
  rw [insertSection_of_insertable (insertSection_fst_iff.mp inserted)]
  refine ⟨by simp, fun playerKey => ?_⟩
  by_cases inside : playerKey ∈ players.elements
  · simp [inside]
  · simp [inside, vacant.unindexed playerKey]

/-- A refused insertion registered the zone and indexed some of its players. -/
theorem Vacant.refused (vacant : zones.Vacant zone.integrationZoneInstanceKey) :
    (zones.insertSection zone players).2.instanceMap.find? zone.integrationZoneInstanceKey =
        some zone ∧
      ∀ playerKey, (zones.insertSection zone players).2.findMapByPlayerKey playerKey =
        some zone.integrationZoneInstanceKey → playerKey ∈ players.elements := by
  rw [insertSection, OrderedMap.contains_eq_false_iff.mpr vacant.unregistered]
  refine ⟨by simp, fun playerKey indexed => ?_⟩
  exact ((mem_or_of_indexPlayers indexed).resolve_right (vacant.unindexed playerKey)).1

/-- Erasing a zone leaves nothing under its key if only its players are indexed there. -/
theorem vacant_erase {activePlayers : IntegrationZoneInstance → OrderedSet PlayerKey}
    (registered : zones.instanceMap.find? key = some zone)
    (indexed : ∀ playerKey, zones.findMapByPlayerKey playerKey = some key →
      playerKey ∈ (activePlayers zone).elements) :
    (zones.erase key activePlayers).2.Vacant key := by
  rw [erase, registered]
  refine ⟨by simp, fun playerKey => ?_⟩
  simp only [dropPlayers_apply]
  split_ifs with inside
  · rintro ⟨⟩
  · exact mt (indexed playerKey) inside

end IntegrationZones

/-- Any call that may be about the session, except another completion. -/
def IsOtherSessionCall (program : Operation Unit) : Prop :=
  (∃ acceptInfo, program = MatchSessionManager.acceptMatchSession acceptInfo) ∨
    (∃ matchId, program = MatchSessionManager.onTimeOutAcceptMatchSession matchId) ∨
    (∃ matchId, program = MatchSessionManager.onTimeOutPlaceMatchSession matchId) ∨
    ∃ matchId, program = MatchSessionManager.onFailedMatchSession matchId

/-- All calls, with the completion of one session. -/
def completionTraffic (start : World) (session : MatchSession) : Traffic where
  fails := True
  expires _ := True
  completes other info := other = session ∧ info = start.zoneInfo session

/-- The thread has yet to make the zone or still has it in hand. -/
def Task.zonal : Task → Bool
  | .due | .making _ _ | .zoned _ _ | .undoing _ => true
  | _ => false

@[simp] theorem Task.zonal_idle : Task.idle.zonal = false := rfl

/-- The zone was made for the session in the course of the run. -/
def MadeZone (start : World) (session : MatchSession) (trace : List (Executed Section World))
    (zone : IntegrationZoneInstance) : Prop :=
  ∃ executed ∈ trace, executed.command = .newZoneInstance (start.zoneInfo session) ∧
    zone = executed.before.newZoneInstance (start.zoneInfo session)

/-- What the zones are like while a thread is at its task. -/
def Task.Fits (start : World) (session : MatchSession) (trace : List (Executed Section World))
    (world : World) : Task → Prop
  | .due => world.zones.Vacant (start.zoneInfo session).key
  | .making other zone => other = session ∧ MadeZone start session trace zone ∧
      world.playerSessions zone = (start.zoneInfo session).players ∧
      world.zones.Vacant (start.zoneInfo session).key
  | .zoned other zone => other = session ∧ MadeZone start session trace zone ∧
      world.playerSessions zone = (start.zoneInfo session).players ∧
      world.zones.Houses (start.zoneInfo session).key zone (start.zoneInfo session).players
  | .undoing zone => zone.integrationZoneInstanceKey = (start.zoneInfo session).key ∧
      world.zones.instanceMap.find? (start.zoneInfo session).key = some zone ∧
      ∀ playerKey, world.zones.findMapByPlayerKey playerKey = some (start.zoneInfo session).key →
        playerKey ∈ (world.playerSessions zone).elements
  | _ => True

/-- The session is completed and its zone registered, or neither. -/
def World.Concluded (start : World) (session : MatchSession)
    (trace : List (Executed Section World)) (world : World) : Prop :=
  (world.sessionState session).status = .completed ∧
      (∃ zone, MadeZone start session trace zone ∧ world.zones.Houses
        (start.zoneInfo session).key zone (start.zoneInfo session).players) ∨
    (world.sessionState session).status ≠ .completed ∧
      world.zones.Vacant (start.zoneInfo session).key

/-- At most one thread has the zone in hand, and the session is not completed yet. With no
such thread the zone is registered exactly if the session was completed. An end of the
session lasts. -/
structure World.Completing (start : World) (session : MatchSession)
    (trace : List (Executed Section World)) (world : World) (tasks : Multiset Task) : Prop where
  fits : ∀ task ∈ tasks, task.Fits start session trace world
  sole : tasks.countP (fun task => task.zonal = true) ≤ 1
  unfinished : ∀ task ∈ tasks, task.zonal = true →
    (world.sessionState session).status ≠ .completed
  settled : (∀ task ∈ tasks, task.zonal = false) → World.Concluded start session trace world
  lasting : ∀ executed ∈ trace, (executed.after.sessionState session).status.terminal = true →
    (world.sessionState session).status = (executed.after.sessionState session).status

variable {start world after : World} {session : MatchSession}
  {trace : List (Executed Section World)}

theorem MadeZone.append {zone : IntegrationZoneInstance} (made : MadeZone start session trace zone)
    (later : List (Executed Section World)) :
    MadeZone start session (trace ++ later) zone := by
  obtain ⟨executed, inside, made⟩ := made
  exact ⟨executed, List.mem_append_left _ inside, made⟩

theorem MadeZone.key {zone : IntegrationZoneInstance} (made : MadeZone start session trace zone) :
    zone.integrationZoneInstanceKey = (start.zoneInfo session).key := by
  obtain ⟨executed, -, -, rfl⟩ := made
  rfl

theorem Task.Fits.later {task : Task} (fits : task.Fits start session trace world)
    (zones : after.zones = world.zones)
    (playerSessions : after.playerSessions = world.playerSessions)
    (later : List (Executed Section World)) :
    task.Fits start session (trace ++ later) after := by
  cases task with
  | due =>
      rw [Fits, zones]
      exact fits
  | making other zone =>
      rw [Fits, zones, playerSessions]
      exact ⟨fits.1, fits.2.1.append later, fits.2.2⟩
  | zoned other zone =>
      rw [Fits, zones, playerSessions]
      exact ⟨fits.1, fits.2.1.append later, fits.2.2⟩
  | undoing zone =>
      rw [Fits, zones, playerSessions]
      exact fits
  | _ => trivial

theorem Task.fits_of_calm {task : Task} (calm : task.zonal = false) :
    task.Fits start session trace world := by
  cases task with
  | due | making | zoned | undoing => cases calm
  | _ => trivial

/-- A thread without the zone in hand leaves the zones alone. -/
theorem TaskIssues.untouched {traffic : Traffic} {step : Section} {task task' : Task}
    (issues : TaskIssues start traffic step world task task') (calm : task.zonal = false) :
    (perform step world).zones = world.zones ∧
      (perform step world).playerSessions = world.playerSessions ∧ task'.zonal = false := by
  cases issues with
  | quiet quiet awake =>
      cases step with
      | read | setDodgePenalty | addPenaltyJob | addZoneJob => exact ⟨rfl, rfl, calm⟩
      | _ => cases quiet
  | record | place | fail | expire => exact ⟨rfl, rfl, by split_ifs <;> rfl⟩
  | lapse | make | insert | complete | undo => cases calm
  | _ => exact ⟨rfl, rfl, rfl⟩

section Step

variable {step : Section} {task task' : Task} (inStep : start.InStep)
  (together : start.Together world)
  (issues : TaskIssues start (completionTraffic start session) step world task task')

include inStep together issues

theorem TaskIssues.lasting
    (terminal : (world.sessionState session).status.terminal = true) :
    ((perform step world).sessionState session).status =
      (world.sessionState session).status := by
  rcases (issues.step inStep together).status_or session with same | ⟨status, -, -, can, -, -⟩
  · exact same
  · rw [MatchTicketStatus.not_terminal_of_can can] at terminal
    cases terminal

/-- A session is completed by the thread that has its zone in hand. -/
theorem TaskIssues.completed_iff (calm : task.zonal = false) :
    ((perform step world).sessionState session).status = .completed ↔
      (world.sessionState session).status = .completed := by
  rcases (issues.step inStep together).status_or session with
    same | ⟨status, -, -, can, becomes, changes⟩
  · rw [same]
  · have open_ : (world.sessionState session).status ≠ .completed := by
      intro completed
      rw [completed] at can
      cases status <;> cases can
    rw [becomes]
    refine ⟨fun completed => ?_, fun completed => (open_ completed).elim⟩
    subst completed
    cases changes
    cases calm

/-- **One section of the thread that has the zone in hand.** -/
theorem TaskIssues.zonal (zonal : task.zonal = true)
    (fits : task.Fits start session trace world)
    (unfinished : (world.sessionState session).status ≠ .completed) :
    if task'.zonal then
      task'.Fits start session (trace ++ [⟨step, world, perform step world⟩])
          (perform step world) ∧
        ((perform step world).sessionState session).status ≠ .completed
    else World.Concluded start session (trace ++ [⟨step, world, perform step world⟩])
      (perform step world) := by
  cases issues with
  | quiet quiet calm =>
      rw [if_pos zonal]
      cases step with
      | read | setDodgePenalty | addPenaltyJob | addZoneJob =>
          exact ⟨fits.later rfl rfl _, unfinished⟩
      | _ => cases quiet
  | lapse => exact Or.inr ⟨unfinished, fits⟩
  | make known completes =>
      obtain ⟨rfl, rfl⟩ := completes
      refine ⟨⟨rfl, ⟨_, List.mem_append_right _ List.mem_cons_self, rfl, rfl⟩, ?_, fits⟩,
        unfinished⟩
      simp [perform]
  | @insert _ other zone =>
      obtain ⟨rfl, made, players, vacant⟩ := fits
      have key := made.key
      have later := made.append [⟨.insertZoneInstance zone, world,
        perform (.insertZoneInstance zone) world⟩]
      rw [← key] at vacant
      cases inserted : (world.zones.insertSection zone (world.playerSessions zone)).1 with
      | true =>
          refine ⟨⟨rfl, later, players, ?_⟩, unfinished⟩
          rw [← key, ← players]
          exact vacant.houses inserted
      | false =>
          refine ⟨⟨key, ?_⟩, unfinished⟩
          rw [← key]
          exact vacant.refused
  | @complete _ other zone known completes =>
      obtain ⟨rfl, made, players, houses⟩ := fits
      rcases together.change inStep known .completed with
        ⟨-, changed, effect⟩ | ⟨-, refused, effect⟩
      · have later := made.append [⟨.changeSessionStatus other .completed, world,
          perform (.changeSessionStatus other .completed) world⟩]
        rw [effect] at later ⊢
        rw [changed]
        exact Or.inl ⟨by simp, zone, later, houses⟩
      · rw [effect, refused]
        exact ⟨⟨made.key, houses.registered, fun playerKey indexed =>
          players ▸ (houses.indexed playerKey).mp indexed⟩, unfinished⟩
  | @undo _ zone =>
      obtain ⟨key, registered, indexed⟩ := fits
      refine Or.inr ⟨unfinished, ?_⟩
      rw [← key]
      exact IntegrationZones.vacant_erase (key ▸ registered) (key ▸ indexed)
  | record | await | agree | placedAlready | place | scheduleTimeOut | scheduleComplete | giveUp
  | fail | check | expire | close => cases zonal
  | gone task_eq => rcases task_eq with rfl | rfl <;> cases zonal

/-- **One section beside the completion, or of it.** -/
theorem TaskIssues.completing {others : Multiset Task}
    (holds : World.Completing start session trace world (task ::ₘ others)) :
    World.Completing start session (trace ++ [⟨step, world, perform step world⟩])
      (perform step world) (task' ::ₘ others) := by
  have lasting : ∀ executed ∈ trace ++ [⟨step, world, perform step world⟩],
      (executed.after.sessionState session).status.terminal = true →
      ((perform step world).sessionState session).status =
        (executed.after.sessionState session).status := by
    intro executed member terminal
    rcases List.mem_append.mp member with earlier | last
    · have same := holds.lasting executed earlier terminal
      rw [← same] at terminal ⊢
      exact issues.lasting inStep together terminal
    · rw [List.mem_singleton.mp last]
  have fits := holds.fits task (Multiset.mem_cons_self _ _)
  have sole := holds.sole
  rw [Multiset.countP_cons] at sole
  cases zonal : task.zonal with
  | true =>
      have unfinished := holds.unfinished task (Multiset.mem_cons_self _ _) zonal
      have next := issues.zonal inStep together zonal fits unfinished
      rw [if_pos zonal] at sole
      have nobody : others.countP (fun task => task.zonal = true) = 0 := by omega
      have calm : ∀ other ∈ others, other.zonal = false := fun other inside => by
        simpa using Multiset.countP_eq_zero.mp nobody other inside
      refine ⟨fun other member => ?_, ?_, fun other member zonal => ?_, fun done => ?_, lasting⟩
      · rcases Multiset.mem_cons.mp member with rfl | inside
        · cases zonal' : other.zonal with
          | true => exact ((if_pos zonal').mp next).1
          | false => exact Task.fits_of_calm zonal'
        · exact Task.fits_of_calm (calm other inside)
      · rw [Multiset.countP_cons, nobody]
        split_ifs <;> omega
      · rcases Multiset.mem_cons.mp member with rfl | inside
        · exact ((if_pos zonal).mp next).2
        · rw [calm other inside] at zonal
          cases zonal
      · have calm' := done task' (Multiset.mem_cons_self _ _)
        exact (if_neg (by simp [calm'])).mp next
  | false =>
      obtain ⟨zones, playerSessions, calm⟩ := issues.untouched zonal
      have completed := issues.completed_iff inStep together zonal
      refine ⟨fun other member => ?_, ?_, fun other member zonal => ?_, fun done => ?_, lasting⟩
      · rcases Multiset.mem_cons.mp member with rfl | inside
        · exact Task.fits_of_calm calm
        · exact (holds.fits other (Multiset.mem_cons_of_mem inside)).later zones playerSessions _
      · rw [Multiset.countP_cons, if_neg (by simp [calm])]
        omega
      · rcases Multiset.mem_cons.mp member with rfl | inside
        · rw [calm] at zonal
          cases zonal
        · exact mt completed.mp (holds.unfinished other (Multiset.mem_cons_of_mem inside) zonal)
      · have before : ∀ other ∈ task ::ₘ others, other.zonal = false := by
          intro other member
          rcases Multiset.mem_cons.mp member with rfl | inside
          · exact zonal
          · exact done other (Multiset.mem_cons_of_mem inside)
        rw [World.Concluded, completed, zones]
        rcases holds.settled before with ⟨ended, zone, made, houses⟩ | empty
        · exact Or.inl ⟨ended, zone, made.append _, houses⟩
        · exact Or.inr ⟨mt (issues.completed_iff inStep together zonal).mp empty.1, empty.2⟩

end Step

/-- No section changes a ticket with a terminal status. -/
theorem ticketStatus_foldl_of_terminal (steps : List Section) {ticket : MatchTicket}
    (terminal : (world.ticketStatus ticket).terminal = true) :
    (steps.foldl (fun world step => perform step world) world).ticketStatus ticket =
      world.ticketStatus ticket := by
  induction steps generalizing world with
  | nil => rfl
  | cons step rest ih =>
      have same := ((perform_stepsAtMostOnce step world).advances ticket).of_terminal terminal
      rw [List.foldl_cons, ih (same.symm ▸ terminal), same]

/-- **A completion settles its session.** Take a registered session whose zone key is not
in use, and any interleaving of one successful completion for it with responses, timeouts
and failures. When all calls have returned, and the session ended at some moment: it is
deregistered, it shares a terminal status with its tickets that no later section changes,
and the zone made in the run is registered with exactly the players of the session if and
only if that status is completed. -/
theorem completion_settles (reached : SessionsReached start)
    (found : start.matchSessions.items session.matchId = some session)
    (vacant : start.zones.Vacant (start.zoneInfo session).key)
    {pool : Pool Section World}
    (run : PoolRun perform IsOtherSessionCall (fun _ _ _ => True)
      ⟨start, [MatchSessionManager.onCompleteMatchSession (start.zoneInfo session) true]⟩
      trace pool)
    (quiet : pool.quiet = true)
    (ended : ∃ executed ∈ trace,
      (executed.after.sessionState session).status.terminal = true) :
    ∃ status : MatchTicketStatus, status.terminal = true ∧ pool.state.Ended session status ∧
      (∀ steps : List Section, ∀ ticket ∈ session.tickets,
        (steps.foldl (fun world step => perform step world) pool.state).ticketStatus ticket =
          status) ∧
      ((∃ zone, MadeZone start session trace zone ∧ pool.state.zones.Houses
          (start.zoneInfo session).key zone (start.zoneInfo session).players) ↔
        status = .completed) := by
  have inStep := reached.inStep
  have joining : ∀ program, IsOtherSessionCall program →
      Does start (completionTraffic start session) .idle program fun task _ => task = .idle := by
    rintro program (⟨acceptInfo, rfl⟩ | ⟨matchId, rfl⟩ | ⟨matchId, rfl⟩ | ⟨matchId, rfl⟩)
    · exact MatchSessionManager.does_acceptMatchSession inStep (Or.inr trivial)
    · exact MatchSessionManager.does_onTimeOutAcceptMatchSession inStep trivial matchId
    · exact MatchSessionManager.does_onTimeOutPlaceMatchSession inStep trivial matchId
    · exact MatchSessionManager.does_onFailedMatchSession inStep (.free trivial)
  have completes : Does start (completionTraffic start session) .due
      (MatchSessionManager.onCompleteMatchSession (start.zoneInfo session) true)
      fun task _ => task = .idle := by
    refine MatchSessionManager.does_onCompleteMatchSession inStep trivial
      fun other known named => ?_
    rw [show other.matchId = session.matchId from named, found] at known
    exact ⟨(Option.some.inj known).symm, rfl⟩
  have follows : List.Forall₂ (fun task (program : Operation Unit) =>
      Does start (completionTraffic start session) task program fun task _ => task = .idle)
      [.due] [MatchSessionManager.onCompleteMatchSession (start.zoneInfo session) true] :=
    .cons completes .nil
  have alive : (start.sessionState session).status.terminal = false :=
    MatchTicketStatus.not_terminal_of_inPlay
      (MatchTicketStatus.inPlay_of_seated (inStep.seated _ session found))
  have initially : World.Completing start session [] start
      (([.due] : List Task) : Multiset Task) := by
    refine ⟨fun task inside => ?_, Multiset.countP_le_card _ _, fun _ _ _ => ?_,
      fun done => ?_, by simp⟩
    · obtain rfl := List.mem_singleton.mp (Multiset.mem_coe.mp inside)
      exact vacant
    · intro completed
      rw [completed] at alive
      cases alive
    · cases done .due (by simp)
  obtain ⟨together, tasks, attended, completing, idle⟩ :=
    tasks_asserted (completionTraffic start session) (World.Completing start session) inStep rfl
      ⟨[.due], follows, by simp, initially⟩ joining
      (fun trace world tasks holds => ⟨by simpa [Task.Fits] using holds.fits,
        by simpa using holds.sole, by simpa using holds.unfinished,
        by simpa using holds.settled, holds.lasting⟩)
      (fun trace world others threads step task task' together issues _ carried attended holds =>
        issues.completing inStep together holds) run
  have resting := idle quiet
  obtain ⟨executed, member, terminal⟩ := ended
  rw [← completing.lasting executed member terminal] at terminal
  have shares := together.shares inStep found
  have gone : pool.state.matchSessions.items session.matchId = none := by
    by_contra present
    obtain ⟨stored, registered⟩ := Option.ne_none_iff_exists'.mp present
    have known := together.known _ stored registered
    rw [found] at known
    cases known
    have closing := attended.ended _ session found terminal registered
    cases resting _ (Multiset.mem_coe.mp closing)
  refine ⟨_, terminal, ⟨shares, gone, fun playerKey indexed => ?_⟩,
    fun steps ticket inside => ?_, ?_⟩
  · obtain ⟨stored, registered, -⟩ := together.consistent.indexed.mp indexed
    rw [gone] at registered
    cases registered
  · have own := together.agrees _ session found ticket inside
    rw [ticketStatus_foldl_of_terminal steps (own.symm ▸ terminal), own]
  · have released : ∀ task ∈ (tasks : Multiset Task), task.zonal = false := fun task inside => by
      rw [resting task (Multiset.mem_coe.mp inside), Task.zonal_idle]
    rcases completing.settled released with ⟨completed, housed⟩ | ⟨unfinished, empty⟩
    · exact iff_of_true housed completed
    · refine iff_of_false (fun housed => ?_) unfinished
      obtain ⟨zone, -, houses⟩ := housed
      cases empty.unregistered.symm.trans houses.registered

/-- The session of the players 1 and 2 is being placed. -/
def pairPlacingWorld : World :=
  ((acceptance 2).run perform ((acceptance 1).run perform pairSessionWorld).2).2

theorem pairPlacingWorld_reached : SessionsReached pairPlacingWorld :=
  .call (.call pairSessionWorld_reached (.acceptMatchSession { playerKey := 1, isAccept := true })
    trivial) (.acceptMatchSession { playerKey := 2, isAccept := true }) trivial

/-- Its completion. -/
def pairCompletion : Operation Unit :=
  MatchSessionManager.onCompleteMatchSession (pairPlacingWorld.zoneInfo pairSession) true

/-- The place timeout finds the session being placed, and changes it after so many steps of the
completion, while player 3 declines. -/
def racingSchedule (steps : Nat) : List Nat :=
  [1, 1] ++ List.replicate steps 2 ++ [0, 0, 1, 1] ++ List.replicate 10 2 ++ List.replicate 10 0

def racingRun (steps : Nat) : List (Executed Section World) × Pool Section World :=
  Pool.follow perform (racingSchedule steps)
    ⟨pairPlacingWorld, [MatchSessionManager.acceptMatchSession { playerKey := 3 },
      MatchSessionManager.onTimeOutPlaceMatchSession 1001, pairCompletion]⟩

theorem racingRun_poolRun (steps : Nat) :
    PoolRun perform IsOtherSessionCall (fun _ _ _ => True) ⟨pairPlacingWorld, [pairCompletion]⟩
      (racingRun steps).1 (racingRun steps).2 := by
  have joined := ((PoolRun.start :
    PoolRun perform IsOtherSessionCall (fun _ _ _ => True) ⟨pairPlacingWorld, [pairCompletion]⟩
      [] _).join (Or.inr (Or.inr (Or.inl ⟨1001, rfl⟩)))).join (Or.inl ⟨{ playerKey := 3 }, rfl⟩)
  exact joined.follow (racingSchedule steps)
    (Pool.permits_of_free (fun _ _ _ => trivial) _ _)

/-- The session ends with the given status, and its zone houses its players if it is completed. -/
def RacingSettles (steps : Nat) (ends : MatchTicketStatus) : Prop :=
  ((racingRun steps).2.state.sessionState pairSession).status = ends ∧
  ∃ status : MatchTicketStatus, status.terminal = true ∧
    (racingRun steps).2.state.Ended pairSession status ∧
    (∀ later : List Section, ∀ ticket ∈ pairSession.tickets,
      (later.foldl (fun world step => perform step world)
        (racingRun steps).2.state).ticketStatus ticket = status) ∧
    ((∃ zone, MadeZone pairPlacingWorld pairSession (racingRun steps).1 zone ∧
        (racingRun steps).2.state.zones.Houses (pairPlacingWorld.zoneInfo pairSession).key
          zone (pairPlacingWorld.zoneInfo pairSession).players) ↔ status = .completed)

/-- The timeout wins where it comes between the insertion of the zone and the change of the
session, and loses after the change. -/
theorem completion_settles_racing :
    RacingSettles 3 .timedOut ∧ RacingSettles 6 .completed := by
  have empty : pairPlacingWorld.zones = {} := rfl
  have settles : ∀ steps ends,
      ((racingRun steps).2.state.sessionState pairSession).status = ends ∧
        (racingRun steps).2.quiet = true ∧ (∃ executed ∈ (racingRun steps).1,
          (executed.after.sessionState pairSession).status.terminal = true) →
      RacingSettles steps ends := by
    rintro steps ends ⟨reached, quiet, ended⟩
    exact ⟨reached, completion_settles pairPlacingWorld_reached (by decide +kernel)
      ⟨by rw [empty]; rfl, by rw [empty]; exact fun _ => nofun⟩ (racingRun_poolRun steps) quiet
      ended⟩
  exact ⟨settles 3 .timedOut (by decide +kernel), settles 6 .completed (by decide +kernel)⟩

end MatchmakingMvp
