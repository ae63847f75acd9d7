import MatchmakingMvp.Session.RejectedCreation
import MatchmakingMvp.System.Custody

/-! # Sessions agree with their tickets

Whatever ids the callers choose and however the threads interleave, a session that was
registered has the status of each of its tickets, and a registered session is being accepted or
placed, unless a thread has just registered it or is about to deregister it
(`MatchmakingMvp.World.Accord`).
-/

namespace MatchmakingMvp

open Foundation

variable {deployment : Deployment} {permits : MatchTicketRequest → Prop} {step : Section}
  {world : World} {stage stage' : Stage} {others stages : Multiset Stage}
  {known : Set MatchSession}

/-- A session that was just registered and is still in search, or that has ended and is about
to be deregistered. -/
inductive World.Passing (world : World) (stages : Multiset Stage) (session : MatchSession) : Prop
  | inserted {queue group} (member : .inserted queue group session ∈ stages)
      (searching : (world.sessionState session).status = .searching)
  | closing {matchId} (member : .closing matchId session ∈ stages)

/-- Sessions that were registered, and the threads that deal with them. -/
structure World.Accord (deployment : Deployment) (world : World) (stages : Multiset Stage)
    (known : Set MatchSession) : Prop where
  queueing : world.Queueing deployment stages
  custody : world.Custody known (carriedBy stages)
  attended : ∀ stage ∈ stages, ∀ session, stage.attends = some session → session ∈ known
  consistent : world.matchSessions.Consistent
  closes : ∀ stage ∈ stages, ∀ id session,
    stage = .free (some (id, session)) ∨ stage = .closing id session → session.matchId = id
  whole : ∀ session ∈ known, session.Whole
  opened : ∀ queue group session forced, .opened queue group session forced ∈ stages →
    session.Whole ∧ (forced = true → (world.sessionState session).status = .searching)
  agrees : ∀ session ∈ known, ∀ ticket ∈ session.tickets,
    world.ticketStatus ticket = (world.sessionState session).status
  expected : ∀ id session, world.matchSessions.items id = some session →
    (world.sessionState session).status.seated = true ∨ world.Passing stages session

theorem World.Accord.initial : ({} : World).Accord deployment 0 ∅ where
  queueing := .initial
  custody := .initial
  attended := fun stage member => (Multiset.notMem_zero stage member).elim
  consistent := .empty _ _
  closes := fun stage member => (Multiset.notMem_zero stage member).elim
  whole := fun _ member => member.elim
  opened := fun _ _ _ _ member => (Multiset.notMem_zero _ member).elim
  agrees := fun _ member => member.elim
  expected := nofun

section Sections

variable (accord : world.Accord deployment (stage ::ₘ others) known)

section Opened

include accord

/-- A session that a thread has opened was not registered. -/
theorem World.Accord.not_known {queue : QueueKind} {group : WorkerGroup} {session : MatchSession}
    {forced : Bool} (member : .opened queue group session forced ∈ stage ::ₘ others) :
    session ∉ known := by
  intro registered
  obtain ⟨⟨-, ticket, inside, -⟩, -⟩ := accord.opened _ _ _ _ member
  exact accord.custody.outside session registered ticket inside (mem_carriedBy member inside)

/-- No two threads have opened one session. -/
theorem World.Accord.opened_apart {queue other : QueueKind} {group rival : WorkerGroup}
    {session : MatchSession} {forced forced' : Bool}
    (own : stage = .opened queue group session forced) :
    .opened other rival session forced' ∉ others := by
  subst own
  intro member
  obtain ⟨⟨-, ticket, inside, -⟩, -⟩ := accord.opened _ _ _ _ (Multiset.mem_cons_self _ others)
  have distinct := accord.custody.distinct
  rw [carriedBy_cons] at distinct
  exact Multiset.disjoint_left.mp (Multiset.nodup_add.mp distinct).2.2
    (Multiset.mem_coe.mpr inside) (mem_carriedBy member inside)

end Opened

variable (issues : Issues deployment permits step world stage stage')

/-- How a section changes the status of a session. -/
theorem Issues.sessionStatus_cases (issues : Issues deployment permits step world stage stage')
    (session : MatchSession) :
    ((perform step world).sessionState session).status = (world.sessionState session).status ∨
    (∃ queue group forced, stage = .opened queue group session forced ∧
      stage' = .opened queue group session true ∧
      ((perform step world).sessionState session).status = .searching) ∨
    stage.attends = some session ∧ ∃ status, step = .changeSessionStatus session status ∧
      session.Changeable status (world.sessionState session) world.ticketStatus ∧
      ((perform step world).sessionState session).status = status := by
  have changed : ∀ {changing status}, step = .changeSessionStatus changing status →
      stage.attends = some changing →
      ((perform step world).sessionState session).status = (world.sessionState session).status ∨
      stage.attends = some session ∧ ∃ status, step = .changeSessionStatus session status ∧
        session.Changeable status (world.sessionState session) world.ticketStatus ∧
        ((perform step world).sessionState session).status = status := by
    rintro changing status rfl attends
    by_cases changeable :
        changing.Changeable status (world.sessionState changing) world.ticketStatus
    · rw [(perform_changeSessionStatus changeable).2]
      by_cases own : session = changing
      · subst own
        exact Or.inr ⟨attends, status, rfl, changeable, by simp⟩
      · exact Or.inl (by simp [own])
    · rw [(perform_changeSessionStatus_of_stuck changeable).2]
      exact Or.inl rfl
  cases issues with
  | neutral neutral => exact Or.inl ((sameMatchmaking_of_neutral neutral world).sessionStatus _)
  | @force _ queue group forcing forced =>
      by_cases own : session = forcing
      · subst own
        exact Or.inr (Or.inl ⟨queue, group, forced, rfl, rfl, by simp [perform]⟩)
      · exact Or.inl (by simp [perform, own])
  | require => exact (changed rfl rfl).imp_right Or.inr
  | change => exact (changed rfl rfl).imp_right Or.inr
  | _ => exact Or.inl rfl

/-- The id a thread looked a session up under is the session's. -/
theorem Issues.closes (issues : Issues deployment permits step world stage stage')
    (consistent : world.matchSessions.Consistent)
    (closes : ∀ id session, stage = .free (some (id, session)) ∨ stage = .closing id session →
      session.matchId = id) {id : MatchId} {session : MatchSession}
    (holds : stage' = .free (some (id, session)) ∨ stage' = .closing id session) :
    session.matchId = id := by
  cases issues with
  | hold found =>
      rcases holds with holds | holds
      · cases holds
        exact consistent.keyed found
      · cases holds
  | soloEnqueue | partyEnqueue =>
      split_ifs at holds <;> rcases holds with holds | holds <;> cases holds
  | change =>
      split_ifs at holds
      · rcases holds with holds | holds
        · cases holds
        · cases holds
          exact closes _ _ (Or.inl rfl)
      · rcases holds with holds | holds <;> cases holds
  | make | assign | abandon | soloClaim | soloReject | partyClaim | openSession | force | insert
  | reject | fail | require | close => rcases holds with holds | holds <;> cases holds
  | _ => exact closes _ _ holds

/-- A session is opened with its tickets, and set in search once. -/
theorem Issues.opened_cases (issues : Issues deployment permits step world stage stage')
    {queue : QueueKind} {group : WorkerGroup} {session : MatchSession} {forced : Bool}
    (opened : stage' = .opened queue group session forced) :
    (stage = stage' ∧ ((perform step world).sessionState session).status =
      (world.sessionState session).status) ∨
    session.Whole ∧ forced = false ∨
    ∃ earlier, stage = .opened queue group session earlier ∧
      ((perform step world).sessionState session).status = .searching := by
  cases issues with
  | neutral neutral =>
      exact Or.inl ⟨rfl, (sameMatchmaking_of_neutral neutral world).sessionStatus session⟩
  | forget => exact Or.inl ⟨rfl, rfl⟩
  | @openSession _ _ _ matchZoneId worldNo matchId tickets named =>
      cases opened
      refine Or.inr (Or.inl ⟨⟨?_, ?_⟩, rfl⟩)
      · rw [world.newMatchSession_tickets]
        rfl
      · obtain ⟨ticket, first, id⟩ := Option.map_eq_some_iff.mp named
        rw [world.newMatchSession_tickets]
        exact ⟨ticket, List.mem_of_mem_head? first, id⟩
  | force =>
      cases opened
      exact Or.inr (Or.inr ⟨_, rfl, by simp [perform]⟩)
  | soloEnqueue | partyEnqueue | change => split_ifs at opened
  | _ => cases opened

/-- A thread that has registered a session asks its players next, and one that has ended a
session deregisters it. -/
theorem Issues.passing_cases (issues : Issues deployment permits step world stage stage')
    (session : MatchSession) :
    (∀ {queue group}, stage = .inserted queue group session → stage' = stage ∨
      step = .changeSessionStatus session .requiresAcceptance) ∧
    ∀ {matchId}, stage = .closing matchId session → stage' = stage ∨
      step = .eraseMatchSession matchId := by
  cases issues with
  | neutral | forget => exact ⟨fun _ => Or.inl rfl, fun _ => Or.inl rfl⟩
  | require =>
      refine ⟨fun own => ?_, fun own => ?_⟩ <;> cases own
      exact Or.inr rfl
  | close =>
      refine ⟨fun own => ?_, fun own => ?_⟩ <;> cases own
      exact Or.inr rfl
  | _ => refine ⟨fun own => ?_, fun own => ?_⟩ <;> cases own

section Steps

include accord issues

/-- A session that a thread has opened is in search from the moment its status is set. -/
theorem World.Accord.opened_perform {queue : QueueKind} {group : WorkerGroup}
    {session : MatchSession} {forced : Bool}
    (member : .opened queue group session forced ∈ stage' ::ₘ others) :
    session.Whole ∧ (forced = true →
      ((perform step world).sessionState session).status = .searching) := by
  rcases Multiset.mem_cons.mp member with own | theirs
  · rcases issues.opened_cases own.symm with
      ⟨same, status⟩ | ⟨whole, fresh⟩ | ⟨earlier, before, searching⟩
    · have opened := accord.opened queue group session forced
        (by rw [same, own]; exact Multiset.mem_cons_self _ _)
      exact ⟨opened.1, fun set => status.trans (opened.2 set)⟩
    · exact ⟨whole, fun set => (Bool.false_ne_true (fresh.symm.trans set)).elim⟩
    · have opened := accord.opened queue group session earlier
        (by rw [before]; exact Multiset.mem_cons_self _ _)
      exact ⟨opened.1, fun _ => searching⟩
  · obtain ⟨whole, searching⟩ := accord.opened _ _ _ _ (Multiset.mem_cons_of_mem theirs)
    refine ⟨whole, fun set => ?_⟩
    rcases issues.sessionStatus_cases session with
      same | ⟨_, _, _, own, -, -⟩ | ⟨attends, -⟩
    · exact same.trans (searching set)
    · exact (accord.opened_apart own theirs).elim
    · exact (accord.not_known (Multiset.mem_cons_of_mem theirs)
        (accord.attended stage (Multiset.mem_cons_self _ _) session attends)).elim

/-- A registered session is accepted or placed, unless a thread is about to see to it. -/
theorem World.Accord.expected_perform {id : MatchId} {session : MatchSession}
    (found : (perform step world).matchSessions.items id = some session) :
    ((perform step world).sessionState session).status.seated = true ∨
      (perform step world).Passing (stage' ::ₘ others) session := by
  rcases World.items_perform found with earlier | registers
  swap
  · obtain ⟨rfl, inserted⟩ := registers
    cases issues with
    | neutral neutral => cases neutral
    | reject rejected => cases inserted.symm.trans rejected
    | insert =>
        exact Or.inr (.inserted (Multiset.mem_cons_self _ _)
          ((accord.opened _ _ _ _ (Multiset.mem_cons_self _ _)).2 rfl))
  have member := accord.custody.registered id session earlier
  by_cases changed : ∃ status, step = .changeSessionStatus session status ∧
      session.Changeable status (world.sessionState session) world.ticketStatus
  · obtain ⟨status, rfl, changeable⟩ := changed
    obtain ⟨accepted, effect⟩ := perform_changeSessionStatus changeable
    have after : ((perform (.changeSessionStatus session status) world).sessionState
        session).status = status := by
      rw [effect]
      simp
    rw [after]
    cases issues with
    | neutral neutral => cases neutral
    | require => exact Or.inl rfl
    | change _ target =>
        rcases target with rfl | terminal
        · exact Or.inl rfl
        · rw [if_pos ⟨terminal, accepted⟩]
          exact Or.inr (.closing (Multiset.mem_cons_self _ _))
  have status : ((perform step world).sessionState session).status =
      (world.sessionState session).status := by
    rcases issues.sessionStatus_cases session with
      same | ⟨_, _, _, rfl, -, -⟩ | ⟨-, status, own, changeable, -⟩
    · exact same
    · exact (accord.not_known (Multiset.mem_cons_self _ _) member).elim
    · exact (changed ⟨status, own, changeable⟩).elim
  rw [status]
  refine (accord.expected id session earlier).imp_right fun passing => ?_
  obtain ⟨asks, closes⟩ := issues.passing_cases session
  cases passing with
  | inserted inside searching =>
      rcases Multiset.mem_cons.mp inside with own | theirs
      · rcases asks own.symm with same | rfl
        · exact .inserted (by rw [same, own]; exact Multiset.mem_cons_self _ _)
            (status.trans searching)
        · refine (changed ⟨_, rfl, (accord.whole session member).changeable ?_ searching
            fun ticket inside => (accord.agrees session member ticket inside).trans
              searching⟩).elim
          rfl
      · exact .inserted (Multiset.mem_cons_of_mem theirs) (status.trans searching)
  | @closing matchId inside =>
      rcases Multiset.mem_cons.mp inside with own | theirs
      · rcases closes own.symm with same | rfl
        · exact .closing (by rw [same, own]; exact Multiset.mem_cons_self _ _)
        · have key := accord.closes stage (Multiset.mem_cons_self _ _) matchId session
            (Or.inr own.symm)
          have away := (Registry.stored_of_erase _ _ found).1
          exact (away ((accord.consistent.keyed earlier).symm.trans key)).elim
      · exact .closing (Multiset.mem_cons_of_mem theirs)

/-- A session is registered with tickets in search. -/
theorem World.Accord.agrees_registers {session : MatchSession}
    (registers : session ∈ world.registers step) :
    session.Whole ∧ ∀ ticket ∈ session.tickets, (perform step world).ticketStatus ticket =
      ((perform step world).sessionState session).status := by
  obtain ⟨rfl, inserted⟩ := registers
  cases issues with
  | neutral neutral => cases neutral
  | reject rejected => cases inserted.symm.trans rejected
  | insert =>
      obtain ⟨whole, searching⟩ := accord.opened _ _ _ _ (Multiset.mem_cons_self _ others)
      refine ⟨whole, fun ticket inside => ?_⟩
      refine (accord.custody.searching ticket ?_).trans (searching rfl).symm
      exact mem_carriedBy (Multiset.mem_cons_self _ others) inside

variable (sound : world.Sound deployment permits)

include sound

/-- A registered session changes together with its tickets. -/
theorem World.Accord.agrees_perform {session : MatchSession} (member : session ∈ known)
    {ticket : MatchTicket} (inside : ticket ∈ session.tickets) :
    (perform step world).ticketStatus ticket =
      ((perform step world).sessionState session).status := by
  have agrees := accord.agrees session member ticket inside
  have attended := accord.attended stage (Multiset.mem_cons_self _ _)
  have custody := accord.custody
  rw [carriedBy_cons] at custody
  by_cases changing : ∃ status, step = .changeSessionStatus session status
  · obtain ⟨status, rfl⟩ := changing
    by_cases changeable :
        session.Changeable status (world.sessionState session) world.ticketStatus
    · rw [(perform_changeSessionStatus changeable).2]
      simp [moveAll_of_mem inside]
    · rw [(perform_changeSessionStatus_of_stuck changeable).2]
      exact agrees
  · have settled := custody.settled attended accord.queueing issues sound member inside
    have still := settled.resolve_right fun own => changing own.2
    rw [still, agrees]
    rcases issues.sessionStatus_cases session with
      same | ⟨queue, group, forced, rfl, -, -⟩ | ⟨-, status, own, -⟩
    · exact same.symm
    · exact (accord.not_known (Multiset.mem_cons_self _ _) member).elim
    · exact (changing ⟨status, own⟩).elim

/-- **Every section keeps sessions in accord with their tickets.** -/
theorem World.Accord.perform : (MatchmakingMvp.perform step world).Accord deployment
    (stage' ::ₘ others) (known ∪ world.registers step) where
  queueing := accord.queueing.perform issues sound
  custody := by
    have custody := accord.custody
    rw [carriedBy_cons] at custody ⊢
    exact custody.perform (accord.attended stage (Multiset.mem_cons_self _ _)) accord.queueing
      issues sound
  attended := by
    intro other member session attends
    rcases Multiset.mem_cons.mp member with rfl | theirs
    · rcases issues.attends_cases attends with own | ⟨id, found⟩ | registers
      · exact Or.inl (accord.attended stage (Multiset.mem_cons_self _ _) session own)
      · exact Or.inl (accord.custody.registered id session found)
      · exact Or.inr registers
    · exact Or.inl (accord.attended other (Multiset.mem_cons_of_mem theirs) session attends)
  consistent := matchSessions_consistent_perform step world accord.consistent
  closes := by
    intro other member id session holds
    rcases Multiset.mem_cons.mp member with rfl | theirs
    · exact issues.closes accord.consistent
        (accord.closes stage (Multiset.mem_cons_self _ _)) holds
    · exact accord.closes other (Multiset.mem_cons_of_mem theirs) id session holds
  whole := by
    rintro session (member | registers)
    · exact accord.whole session member
    · exact (accord.agrees_registers issues registers).1
  opened := fun _ _ _ _ member => accord.opened_perform issues member
  agrees := by
    rintro session (member | registers) ticket inside
    · exact accord.agrees_perform issues sound member inside
    · exact (accord.agrees_registers issues registers).2 ticket inside
  expected := fun _ _ found => accord.expected_perform issues found

end Steps

end Sections

/-! ## Complete calls -/

/-- A call begins. -/
theorem World.Accord.join (accord : world.Accord deployment others known) :
    world.Accord deployment (.free none ::ₘ others) known where
  queueing := accord.queueing.join rfl
  custody := by
    rw [carriedBy_cons]
    exact (zero_add (carriedBy others)).symm ▸ accord.custody
  attended := by
    intro stage member session attends
    rcases Multiset.mem_cons.mp member with rfl | theirs
    · cases attends
    · exact accord.attended stage theirs session attends
  consistent := accord.consistent
  closes := by
    intro stage member id session holds
    rcases Multiset.mem_cons.mp member with rfl | theirs
    · rcases holds with holds | holds <;> cases holds
    · exact accord.closes stage theirs id session holds
  whole := accord.whole
  opened := by
    intro queue group session forced member
    rcases Multiset.mem_cons.mp member with own | theirs
    · cases own
    · exact accord.opened queue group session forced theirs
  agrees := accord.agrees
  expected := fun id session found => (accord.expected id session found).imp_right
    fun passing => by
      cases passing with
      | inserted member searching =>
          exact .inserted (Multiset.mem_cons_of_mem member) searching
      | closing member => exact .closing (Multiset.mem_cons_of_mem member)

theorem Stage.Idle.carries (idle : stage.Idle) : stage.carries = [] := by
  cases idle with
  | free free =>
      cases free
      rfl
  | _ => rfl

theorem Stage.Idle.not_passing (idle : stage.Idle) {session : MatchSession} :
    (∀ queue group, stage ≠ .inserted queue group session) ∧
      ∀ matchId, stage ≠ .closing matchId session := by
  refine ⟨fun queue group own => ?_, fun matchId own => ?_⟩ <;> subst own <;>
    cases idle with
    | free free => cases free

/-- A call that is done leaves nothing behind. -/
theorem World.Accord.leave (accord : world.Accord deployment (stage ::ₘ others) known)
    (idle : stage.Idle) : world.Accord deployment others known where
  queueing := accord.queueing.leave
  custody := by
    have custody := accord.custody
    rw [carriedBy_cons, idle.carries, Multiset.coe_nil, zero_add] at custody
    exact custody
  attended := fun other member => accord.attended other (Multiset.mem_cons_of_mem member)
  consistent := accord.consistent
  closes := fun other member => accord.closes other (Multiset.mem_cons_of_mem member)
  whole := accord.whole
  opened := fun queue group session forced member =>
    accord.opened queue group session forced (Multiset.mem_cons_of_mem member)
  agrees := accord.agrees
  expected := fun id session found => (accord.expected id session found).imp_right
    fun passing => by
      cases passing with
      | inserted member searching =>
          refine .inserted ((Multiset.mem_cons.mp member).resolve_left ?_) searching
          exact (idle.not_passing.1 _ _).symm
      | closing member =>
          refine .closing ((Multiset.mem_cons.mp member).resolve_left ?_)
          exact (idle.not_passing.2 _).symm

/-- **Between complete calls** every registered session is in accord with its tickets. -/
theorem Reached.accord {admissible : Call → Prop}
    (reached : Reached deployment admissible world) :
    world.Sound deployment (fun _ => True) ∧ ∃ known, world.Accord deployment 0 known := by
  induction reached with
  | start => exact ⟨World.Sound.initial, ∅, .initial⟩
  | @call before _ call _ ih =>
      obtain ⟨sound, known, accord⟩ := ih
      have adheres : Adheres deployment (fun _ => True) before (.free none)
          (call.program deployment) _ := adheres_program fun _ _ => trivial
      have kept : ∀ step world stage stage', World.Sound deployment (fun _ => True) world →
          Issues deployment (fun _ => True) step world stage stage' →
          (∃ known, world.Accord deployment (stage ::ₘ 0) known) →
          ∃ known, (perform step world).Accord deployment (stage' ::ₘ 0) known :=
        fun _ _ _ _ sound issues ⟨_, accord⟩ => ⟨_, accord.perform issues sound⟩
      obtain ⟨sound', stage, ⟨known', accord'⟩, -, idle⟩ := Program.Follows.run
        (fun _ _ _ _ sound issues => issues.sound sound) World.Precedes.refl kept adheres sound
        ⟨known, accord.join⟩
      exact ⟨sound', known', accord'.leave idle⟩

end MatchmakingMvp
