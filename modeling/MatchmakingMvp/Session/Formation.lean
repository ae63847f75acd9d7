import MatchmakingMvp.Tickets.Cancellation
import Mathlib.Data.Multiset.Bind

/-! # The formation of sessions

Every session that a worker registers was formed from the tickets of one claim of a worker
group: distinct tickets of that group, with exactly the players of a match of its rule
(`MatchmakingMvp.registered_session_formed`). What carries the proof over all
interleavings is that the tickets in the hands of the threads and the tickets of
the sessions registered so far are pairwise distinct, and each went through a
claim of its own (`MatchmakingMvp.Formation`).
-/

namespace MatchmakingMvp

open Foundation

/-- A section in which a group of a manager claims tickets: the run of a solo worker of it, or
the commit of the party group. -/
inductive Section.ClaimsFor : QueueKind → WorkerGroup → Section → Prop
  | soloRun {group index} : ClaimsFor .solo group (.soloRun group index)
  | partyCommit {group requests} : ClaimsFor .party group (.partyCommit group requests)

/-- The step of the group moves exactly the listed tickets from queued to searching. -/
structure Claims (executed : Executed Section World) (queue : QueueKind) (group : WorkerGroup)
    (tickets : List MatchTicket) : Prop where
  command : executed.command.ClaimsFor queue group
  nodup : tickets.Nodup
  commits : ∀ ticket, ticket ∈ tickets ↔ Commits executed ticket

/-- The step registers the session. -/
def Registers (executed : Executed Section World) (session : MatchSession) : Prop :=
  executed.command = .insertMatchSession session ∧
    (executed.before.matchSessions.insertMatchSession session).1 = true

/-- The tickets a thread has claimed for a session it has not registered yet. -/
def Stage.tickets : Stage → List MatchTicket
  | .claimed _ _ tickets => tickets
  | .opened _ _ session _ => session.tickets
  | .free _ | .starting _ _ _ | .inserted _ _ _ | .failing _ | .closing _ _ => []

/-- The group that claimed them. -/
def Stage.claimant : Stage → Option (QueueKind × WorkerGroup)
  | .claimed queue group _ | .opened queue group _ _ => some (queue, group)
  | _ => none

variable {deployment : Deployment} {permits : MatchTicketRequest → Prop}

theorem claims_moveAll {step : Section} {world : World} {queue : QueueKind} {group : WorkerGroup}
    {tickets listed : List MatchTicket} (command : step.ClaimsFor queue group)
    (nodup : tickets.Nodup) (queued : ∀ ticket ∈ tickets, world.ticketStatus ticket = .queued)
    (moved : (perform step world).ticketStatus = moveAll tickets .searching world.ticketStatus)
    (listing : listed.Perm tickets) :
    Claims ⟨step, world, perform step world⟩ queue group listed := by
  refine ⟨command, listing.nodup_iff.mpr nodup, fun ticket => ?_⟩
  rw [listing.mem_iff]
  constructor
  · intro inside
    refine ⟨queued ticket inside, ?_⟩
    rw [moved]
    exact moveAll_of_mem inside
  · rintro ⟨before, after⟩
    by_contra outside
    simp only [moved, moveAll_of_not_mem outside] at before after
    rw [before] at after
    cases after

/-- A section claims tickets for a thread without any, registers the session of
the thread's tickets, or does neither. -/
theorem Issues.claim_cases {step : Section} {world : World} {stage stage' : Stage}
    (issues : Issues deployment permits step world stage stage') :
    (stage.tickets = [] ∧ (∃ queue group, stage'.claimant = some (queue, group) ∧
        Claims ⟨step, world, perform step world⟩ queue group stage'.tickets) ∧
      ∀ session, step ≠ .insertMatchSession session) ∨
    (∃ queue group session, step = .insertMatchSession session ∧
      stage.claimant = some (queue, group) ∧ stage.tickets = session.tickets ∧
      stage'.tickets = [] ∧ (world.matchSessions.insertMatchSession session).1 = true ∧
      deployment.getWorkerGroup queue group.workerGroupKey = some group ∧
      session.tickets ≠ [] ∧ Fills group session.tickets) ∨
    ((stage'.claimant = stage.claimant ∧ stage'.tickets = stage.tickets ∨ stage'.tickets = []) ∧
      ∀ session, ¬ Registers ⟨step, world, perform step world⟩ session) := by
  cases issues with
  | soloClaim _ _ outcome listing =>
      refine Or.inl ⟨rfl, ⟨_, _, rfl, ?_⟩, by rintro _ ⟨⟩⟩
      rcases SoloMatchmakingWorker.doWorkerAsyncJob_cases _ (world.soloWorker _ _)
        world.ticketStatus with ⟨-, run⟩ | ⟨-, ⟨success, run⟩ | ⟨-, run⟩⟩
      · rw [World.soloRun, run] at outcome
        cases outcome
      · have same := outcome
        rw [World.soloRun, run] at same
        cases same
        obtain ⟨-, nodup, queued, moved⟩ := SoloMatchmakingWorker.searchTickets_success success
        refine claims_moveAll .soloRun nodup queued ?_ listing
        rw [← moved]
        simp only [perform, World.soloRun, run]
        rfl
      · rw [World.soloRun, run] at outcome
        cases outcome
  | partyClaim committed _ requested listing =>
      refine Or.inl ⟨rfl, ⟨_, _, rfl, ?_⟩, by rintro _ ⟨⟩⟩
      subst requested
      rcases PartyMatchmakingWorkerGroup.tryCommit_cases _ with
        run | ⟨requests, claimed, same, ticketsOf, -, nodup, queued, run⟩
      · rw [World.partyCommit, run] at committed
        cases committed
      · obtain rfl := List.map_injective_iff.mpr (Option.some_injective _) same
        obtain rfl := (ticketsOf_matchmakingRequest _).unique ticketsOf
        refine claims_moveAll .partyCommit nodup queued ?_ listing
        simp only [perform, World.partyCommit, run]
        rfl
  | insert served nonempty fills made engaged inserted =>
      exact Or.inr (Or.inl ⟨_, _, _, rfl, rfl, rfl, rfl, inserted, served, nonempty, fills⟩)
  | reject rejected =>
      refine Or.inr (Or.inr ⟨Or.inr rfl, ?_⟩)
      rintro session ⟨same, inserted⟩
      cases same
      rw [rejected] at inserted
      cases inserted
  | openSession =>
      exact Or.inr (Or.inr ⟨Or.inl ⟨rfl, World.newMatchSession_tickets ..⟩,
        by rintro _ ⟨⟨⟩, -⟩⟩)
  | neutral neutral =>
      refine Or.inr (Or.inr ⟨Or.inl ⟨rfl, rfl⟩, ?_⟩)
      rintro session ⟨same, -⟩
      subst same
      cases neutral
  | forget | enter | force => exact Or.inr (Or.inr ⟨Or.inl ⟨rfl, rfl⟩, by rintro _ ⟨⟨⟩, -⟩⟩)
  | soloEnqueue | partyEnqueue | change =>
      refine Or.inr (Or.inr ⟨Or.inr ?_, by rintro _ ⟨⟨⟩, -⟩⟩)
      split <;> rfl
  | _ => exact Or.inr (Or.inr ⟨Or.inr rfl, by rintro _ ⟨⟨⟩, -⟩⟩)

/-- The session of a registration was formed from the tickets of one claim of a group. -/
structure Formed (deployment : Deployment) (steps : List (Executed Section World))
    (position : Nat) (session : MatchSession) (queue : QueueKind) (group : WorkerGroup) :
    Prop where
  served : deployment.getWorkerGroup queue group.workerGroupKey = some group
  fills : Fills group session.tickets
  claimed : ∃ earlier claim, earlier < position ∧ steps[earlier]? = some claim ∧
    Claims claim queue group session.tickets

theorem Formed.append {steps : List (Executed Section World)} {position : Nat}
    {session : MatchSession} {queue : QueueKind} {group : WorkerGroup}
    (formed : Formed deployment steps position session queue group)
    (more : List (Executed Section World)) :
    Formed deployment (steps ++ more) position session queue group := by
  obtain ⟨earlier, claim, order, found, claims⟩ := formed.claimed
  refine ⟨formed.served, formed.fills, earlier, claim, order, ?_, claims⟩
  rw [List.getElem?_append_left (List.getElem?_eq_some_iff.mp found).1, found]

/-- The tickets in the hands of the threads and those of the sessions registered
so far are pairwise distinct, and each went through a claim of its own. -/
structure Formation (deployment : Deployment) (steps : List (Executed Section World))
    (world : World) (stages : Multiset Stage) : Prop where
  nodup : (stages.bind fun stage => (stage.tickets : Multiset MatchTicket)).Nodup
  held : ∀ stage ∈ stages, ∀ ticket ∈ stage.tickets,
    (world.ticketStatus ticket).engaged = true
  claimed : ∀ stage ∈ stages, stage.tickets ≠ [] → ∀ queue group,
    stage.claimant = some (queue, group) → ∃ claim ∈ steps, Claims claim queue group stage.tickets
  registered : ∀ executed ∈ steps, ∀ session, Registers executed session →
    ∀ ticket ∈ session.tickets, (world.ticketStatus ticket).engaged = true ∧
      ∀ stage ∈ stages, ticket ∉ stage.tickets
  formed : ∀ (position : Nat) executed session, steps[position]? = some executed →
    Registers executed session → ∃ queue group,
      Formed deployment steps position session queue group
  apart : ∀ (first second : Nat) left right session rival, steps[first]? = some left →
    steps[second]? = some right → Registers left session → Registers right rival →
    first ≠ second → ∀ ticket ∈ session.tickets, ticket ∉ rival.tickets

/-- A step of a run is the last one or an earlier one. -/
private theorem eq_last_or_earlier {steps : List (Executed Section World)}
    {last executed : Executed Section World} {position : Nat}
    (found : (steps ++ [last])[position]? = some executed) :
    (position = steps.length ∧ executed = last) ∨ steps[position]? = some executed := by
  by_cases inside : position < steps.length
  · rw [List.getElem?_append_left inside] at found
    exact Or.inr found
  · have bound := (List.getElem?_eq_some_iff.mp found).1
    simp only [List.length_append, List.length_singleton] at bound
    obtain rfl : position = steps.length := by omega
    simp only [List.getElem?_concat_length, Option.some.injEq] at found
    exact Or.inl ⟨rfl, found.symm⟩

section Steps

variable {steps : List (Executed Section World)} {world : World} {others : Multiset Stage}
  {step : Section} {stage stage' : Stage}

/-- A section that registers nothing keeps what was registered. -/
private theorem Formation.keep (formation : Formation deployment steps world (stage ::ₘ others))
    (silent : ∀ session, ¬ Registers ⟨step, world, perform step world⟩ session)
    (nodup : ((stage' ::ₘ others).bind fun stage => (stage.tickets : Multiset MatchTicket)).Nodup)
    (held : ∀ ticket ∈ stage'.tickets, ((perform step world).ticketStatus ticket).engaged = true)
    (claimed : stage'.tickets ≠ [] → ∀ queue group, stage'.claimant = some (queue, group) →
      ∃ claim ∈ steps ++ [⟨step, world, perform step world⟩],
        Claims claim queue group stage'.tickets)
    (fresh : ∀ executed ∈ steps, ∀ session, Registers executed session →
      ∀ ticket ∈ session.tickets, ticket ∉ stage'.tickets) :
    Formation deployment (steps ++ [⟨step, world, perform step world⟩]) (perform step world)
      (stage' ::ₘ others) := by
  have precedes := precedes_perform step world
  have earlier : ∀ {position : Nat} {executed session},
      (steps ++ [⟨step, world, perform step world⟩])[position]? = some executed →
      Registers executed session → steps[position]? = some executed := by
    intro position executed session found registers
    rcases eq_last_or_earlier found with ⟨-, rfl⟩ | before
    · exact (silent session registers).elim
    · exact before
  refine ⟨nodup, ?_, ?_, ?_, ?_, ?_⟩
  · intro current member ticket inside
    rcases Multiset.mem_cons.mp member with rfl | other
    · exact held ticket inside
    · exact precedes.engaged (formation.held current (Multiset.mem_cons_of_mem other) ticket inside)
  · intro current member nonempty queue group claimant
    rcases Multiset.mem_cons.mp member with rfl | other
    · exact claimed nonempty queue group claimant
    · obtain ⟨claim, found, claims⟩ :=
        formation.claimed current (Multiset.mem_cons_of_mem other) nonempty queue group claimant
      exact ⟨claim, List.mem_append_left _ found, claims⟩
  · intro executed member session registers ticket inside
    rcases List.mem_append.mp member with before | last
    · obtain ⟨engaged, free⟩ := formation.registered executed before session registers ticket inside
      refine ⟨precedes.engaged engaged, fun current held => ?_⟩
      rcases Multiset.mem_cons.mp held with rfl | other
      · exact fresh executed before session registers ticket inside
      · exact free current (Multiset.mem_cons_of_mem other)
    · rw [List.mem_singleton.mp last] at registers
      exact (silent session registers).elim
  · intro position executed session found registers
    obtain ⟨queue, group, formed⟩ :=
      formation.formed position executed session (earlier found registers) registers
    exact ⟨queue, group, formed.append _⟩
  · intro first second left right session rival atFirst atSecond registers rivals different
    exact formation.apart first second left right session rival (earlier atFirst registers)
      (earlier atSecond rivals) registers rivals different

/-- A registered session takes over the tickets of its thread. -/
private theorem Formation.register {session : MatchSession} {queue : QueueKind}
    {group : WorkerGroup}
    (formation : Formation deployment steps world (stage ::ₘ others))
    (registered : Registers ⟨step, world, perform step world⟩ session)
    (claimant : stage.claimant = some (queue, group))
    (holds : stage.tickets = session.tickets) (released : stage'.tickets = [])
    (served : deployment.getWorkerGroup queue group.workerGroupKey = some group)
    (fills : Fills group session.tickets) (nonempty : session.tickets ≠ []) :
    Formation deployment (steps ++ [⟨step, world, perform step world⟩]) (perform step world)
      (stage' ::ₘ others) := by
  have precedes := precedes_perform step world
  have nodup := formation.nodup
  rw [Multiset.cons_bind, Multiset.nodup_add] at nodup
  obtain ⟨nodupStage, nodupOthers, disjoint⟩ := nodup
  have current : ∀ position executed other,
      (steps ++ [⟨step, world, perform step world⟩])[position]? = some executed →
      Registers executed other →
      (position = steps.length ∧ other = session) ∨ steps[position]? = some executed := by
    intro position executed other found registers
    refine (eq_last_or_earlier found).imp_left fun ⟨atEnd, same⟩ => ⟨atEnd, ?_⟩
    rw [same] at registers
    exact Section.insertMatchSession.inj (registers.1.symm.trans registered.1)
  have mine := formation.held stage (Multiset.mem_cons_self _ _)
  have others' : ∀ executed ∈ steps, ∀ rival, Registers executed rival →
      ∀ ticket ∈ rival.tickets, ticket ∉ session.tickets := by
    intro executed member rival registers ticket inside
    rw [← holds]
    exact (formation.registered executed member rival registers ticket inside).2 stage
      (Multiset.mem_cons_self _ _)
  refine ⟨?_, ?_, ?_, ?_, ?_, ?_⟩
  · rw [Multiset.cons_bind, released]
    simpa using nodupOthers
  · intro other member ticket inside
    rcases Multiset.mem_cons.mp member with rfl | inOthers
    · rw [released] at inside
      cases inside
    · exact precedes.engaged
        (formation.held other (Multiset.mem_cons_of_mem inOthers) ticket inside)
  · intro other member claimed queue group claimant
    rcases Multiset.mem_cons.mp member with rfl | inOthers
    · exact (claimed released).elim
    · obtain ⟨claim, found, claims⟩ :=
        formation.claimed other (Multiset.mem_cons_of_mem inOthers) claimed queue group claimant
      exact ⟨claim, List.mem_append_left _ found, claims⟩
  · intro executed member rival registers ticket inside
    rcases List.mem_append.mp member with before | last
    · obtain ⟨engaged, free⟩ := formation.registered executed before rival registers ticket inside
      refine ⟨precedes.engaged engaged, fun other held => ?_⟩
      rcases Multiset.mem_cons.mp held with rfl | inOthers
      · simp [released]
      · exact free other (Multiset.mem_cons_of_mem inOthers)
    · rw [List.mem_singleton.mp last] at registers
      obtain rfl := Section.insertMatchSession.inj (registered.1.symm.trans registers.1)
      rw [← holds] at inside
      refine ⟨precedes.engaged (mine ticket inside), fun other held => ?_⟩
      rcases Multiset.mem_cons.mp held with rfl | inOthers
      · simp [released]
      · exact fun double => Multiset.disjoint_left.mp disjoint inside
          (Multiset.mem_bind.mpr ⟨other, inOthers, double⟩)
  · intro position executed other found registers
    rcases current position executed other found registers with ⟨rfl, rfl⟩ | before
    · obtain ⟨claim, member, claims⟩ :=
        formation.claimed stage (Multiset.mem_cons_self _ _) (holds ▸ nonempty) queue group
          claimant
      obtain ⟨earlier, atClaim⟩ := List.getElem?_of_mem member
      have bound := (List.getElem?_eq_some_iff.mp atClaim).1
      exact ⟨queue, group, served, fills, earlier, claim, bound,
        by rw [List.getElem?_append_left bound, atClaim], holds ▸ claims⟩
    · obtain ⟨queue, group, formed⟩ := formation.formed position executed other before registers
      exact ⟨queue, group, formed.append _⟩
  · intro first second left right first' second' atFirst atSecond registers rivals different
    rcases current first left first' atFirst registers with ⟨rfl, rfl⟩ | before
    · rcases current second right second' atSecond rivals with ⟨rfl, -⟩ | before
      · exact (different rfl).elim
      · exact fun ticket inside double => others' right (List.mem_of_getElem? before) second'
          rivals ticket double inside
    · rcases current second right second' atSecond rivals with ⟨rfl, rfl⟩ | before'
      · exact others' left (List.mem_of_getElem? before) first' registers
      · exact formation.apart first second left right first' second' before before' registers
          rivals different

/-- **Every issued section keeps the formation.** -/
theorem Formation.perform (formation : Formation deployment steps world (stage ::ₘ others))
    (issues : Issues deployment permits step world stage stage') :
    Formation deployment (steps ++ [⟨step, world, MatchmakingMvp.perform step world⟩])
      (MatchmakingMvp.perform step world) (stage' ::ₘ others) := by
  have precedes := precedes_perform step world
  have nodup := formation.nodup
  rw [Multiset.cons_bind, Multiset.nodup_add] at nodup
  obtain ⟨nodupStage, nodupOthers, disjoint⟩ := nodup
  rcases issues.claim_cases with ⟨empty, ⟨queue, group, claimant, claims⟩, silent⟩ |
    ⟨queue, group, session, rfl, claimant, holds, released, inserted, served, nonempty, fills⟩ |
    ⟨same, silent⟩
  · -- The claimed tickets were queued, and everybody else's tickets are engaged.
    have unclaimed : ∀ ticket, (world.ticketStatus ticket).engaged = true →
        ticket ∉ stage'.tickets := by
      intro ticket engaged inside
      have queued := ((claims.commits ticket).mp inside).1
      rw [queued] at engaged
      cases engaged
    refine formation.keep (fun session registers => silent session registers.1) ?_ ?_
      ?_ fun executed member session registers ticket inside =>
        unclaimed ticket (formation.registered executed member session registers ticket inside).1
    · rw [Multiset.cons_bind, Multiset.nodup_add]
      refine ⟨claims.nodup, nodupOthers, Multiset.disjoint_left.mpr fun inside member => ?_⟩
      obtain ⟨other, inOthers, double⟩ := Multiset.mem_bind.mp member
      exact unclaimed _ (formation.held other (Multiset.mem_cons_of_mem inOthers) _ double) inside
    · intro ticket inside
      rw [((claims.commits ticket).mp inside).2]
      rfl
    · intro _ queue' group' claimant'
      obtain ⟨rfl, rfl⟩ := Prod.mk.inj (Option.some.inj (claimant.symm.trans claimant'))
      exact ⟨_, List.mem_append_right _ (List.mem_singleton_self _), claims⟩
  · exact formation.register ⟨rfl, inserted⟩ claimant holds released served fills nonempty
  · -- The thread keeps its tickets or lets go of them.
    refine formation.keep silent ?_ ?_ ?_ ?_
    · rw [Multiset.cons_bind]
      rcases same with ⟨claimant, same⟩ | empty
      · rw [same]
        exact Multiset.nodup_add.mpr ⟨nodupStage, nodupOthers, disjoint⟩
      · rw [empty]
        simpa using nodupOthers
    · intro ticket inside
      rcases same with ⟨claimant, same⟩ | empty
      · rw [same] at inside
        exact precedes.engaged
          (formation.held stage (Multiset.mem_cons_self _ _) ticket inside)
      · rw [empty] at inside
        cases inside
    · intro nonempty queue group claims
      rcases same with ⟨claimant, same⟩ | empty
      · rw [same] at nonempty ⊢
        rw [claimant] at claims
        obtain ⟨claim, found, claims⟩ :=
          formation.claimed stage (Multiset.mem_cons_self _ _) nonempty queue group claims
        exact ⟨claim, List.mem_append_left _ found, claims⟩
      · exact (nonempty empty).elim
    · intro executed member session registers ticket inside
      rcases same with ⟨claimant, same⟩ | empty
      · rw [same]
        exact (formation.registered executed member session registers ticket inside).2 stage
          (Multiset.mem_cons_self _ _)
      · simp [empty]

end Steps

/-- A session is registered by an insertion or was registered before. -/
theorem registers_or_stored {step : Section} {world : World} {matchId : MatchId}
    {session : MatchSession}
    (stored : (perform step world).matchSessions.items matchId = some session) :
    Registers ⟨step, world, perform step world⟩ session ∨
      world.matchSessions.items matchId = some session := by
  cases step with
  | insertMatchSession other =>
      by_cases inserted : (world.matchSessions.insertMatchSession other).1 = true
      · rcases Registry.eq_or_stored_of_insert _ _ stored with ⟨-, rfl⟩ | earlier
        · exact Or.inl ⟨rfl, inserted⟩
        · exact Or.inr earlier
      · have stale := mt (Registry.insert_fst_iff _ _).mpr inserted
        simp only [perform, World.withMatchSessions_matchSessions] at stored
        rw [SessionRegistry.insertMatchSession, Registry.insert_of_not_fresh _ _ stale] at stored
        exact Or.inr stored
  | eraseMatchSession other => exact Or.inr (Registry.stored_of_erase _ _ stored).2
  | nextIntegrationWorldNo worldGroupNo =>
      refine Or.inr ?_
      simp only [perform] at stored
      split_ifs at stored <;> exact stored
  | _ => exact Or.inr stored

theorem MatchSession.length_ticketPlayers (session : MatchSession) :
    (session.ticketPlayers.length : Int) =
      (session.tickets.map fun ticket => (ticket.players.length : Int)).sum := by
  rw [ticketPlayers, List.length_flatMap]
  induction session.tickets with
  | nil => rfl
  | cons ticket rest ih => simp [ih]

/-- A group formed the session of a registration: an earlier step of the group claimed its
tickets, which no other step committed, they are of the group, and they have exactly the players
of a match of its rule. -/
structure FormedBy (deployment : Deployment) (steps : List (Executed Section World))
    (position : Nat) (session : MatchSession) (queue : QueueKind) (group : WorkerGroup) :
    Prop where
  served : deployment.getWorkerGroup queue group.workerGroupKey = some group
  count : (session.ticketPlayers.length : Int) = group.matchmakingRule.matchPlayerCount
  keyed : ∀ ticket ∈ session.tickets, ticket.matchingGroupKey = group.workerGroupKey
  claimed : ∃ earlier claim, earlier < position ∧ steps[earlier]? = some claim ∧
    Claims claim queue group session.tickets ∧ ∀ ticket ∈ session.tickets,
      ∀ (other : Nat) step, steps[other]? = some step → Commits step ticket → other = earlier

/-- What a registration of a session guarantees. -/
structure WellFormed (deployment : Deployment) (steps : List (Executed Section World))
    (position : Nat) (session : MatchSession) : Prop where
  players : session.ticketPlayers.Nodup
  tickets : session.tickets.Nodup
  formed : ∃ queue group, FormedBy deployment steps position session queue group
  alone : ∀ (other : Nat) step rival, steps[other]? = some step → Registers step rival →
    other ≠ position → ∀ ticket ∈ session.tickets, ticket ∉ rival.tickets

section Runs

variable {admissible : Call → Prop} {allowed : Section → World → Prop}
  {steps : List (Executed Section World)} {pool : Pool Section World}
  (execution : Interleaved deployment admissible allowed steps pool)

include execution

theorem Interleaved.formation : ∃ stages, Formation deployment steps pool.state stages := by
  refine (execution.asserted (fun _ _ _ _ => trivial) _ ?_ ?_ ?_).2.2
  · constructor <;> simp
  · intro steps world stages formation
    have added : ∀ stage ∈ (.free none ::ₘ stages : Multiset Stage),
        stage.tickets = [] ∨ stage ∈ stages := by
      intro stage member
      rcases Multiset.mem_cons.mp member with rfl | other
      · exact Or.inl rfl
      · exact Or.inr other
    refine ⟨?_, fun stage member ticket inside => ?_, fun stage member nonempty => ?_,
      fun executed member session registers ticket inside => ⟨?_, fun stage held => ?_⟩,
      formation.formed, formation.apart⟩
    · rw [Multiset.cons_bind]
      simpa [Stage.tickets] using formation.nodup
    · rcases added stage member with empty | other
      · rw [empty] at inside
        cases inside
      · exact formation.held stage other ticket inside
    · rcases added stage member with empty | other
      · exact (nonempty empty).elim
      · exact formation.claimed stage other nonempty
    · exact (formation.registered executed member session registers ticket inside).1
    · rcases added stage held with empty | other
      · simp [empty]
      · exact (formation.registered executed member session registers ticket inside).2 stage other
  · exact fun _ _ _ _ _ _ _ issues _ formation => formation.perform issues

theorem Interleaved.registers_of_stored {matchId : MatchId} {session : MatchSession}
    (stored : pool.state.matchSessions.items matchId = some session) :
    ∃ executed ∈ steps, Registers executed session := by
  induction execution with
  | start => cases stored
  | join _ _ ih => exact ih stored
  | advance _ _ ih =>
      rcases registers_or_stored stored with registers | earlier
      · exact ⟨_, List.mem_append_right _ (List.mem_singleton_self _), registers⟩
      · obtain ⟨executed, member, registers⟩ := ih earlier
        exact ⟨executed, List.mem_append_left _ member, registers⟩

/-- A ticket is committed at most once. -/
theorem Interleaved.commits_once {first second : Nat} {left right : Executed Section World}
    (atFirst : steps[first]? = some left) (atSecond : steps[second]? = some right)
    {ticket : MatchTicket} (commits : Commits left ticket) (again : Commits right ticket) :
    first = second := by
  have never : ∀ {first second : Nat} {left right : Executed Section World},
      steps[first]? = some left → steps[second]? = some right → Commits left ticket →
      Commits right ticket → ¬ first < second := by
    intro first second left right atFirst atSecond commits again order
    have precedes := execution.precedes_later order atFirst atSecond
    have engaged := precedes.engaged (by rw [commits.2]; rfl)
    rw [again.1] at engaged
    cases engaged
  have before := never atFirst atSecond commits again
  have after := never atSecond atFirst again commits
  omega

/-- **Every registered session is well formed.** In every interleaving, every
session in the registry was registered by a step. Every registration is of a
session of distinct tickets, which were claimed together by one earlier step of a worker group
and by no other, and belong to no other session. They are of that group, and their players are
exactly those of a match of its rule, all distinct. -/
theorem registered_session_formed :
    (∀ matchId session, pool.state.matchSessions.items matchId = some session →
      ∃ (position : Nat) (executed : Executed Section World),
        steps[position]? = some executed ∧ Registers executed session) ∧
    ∀ (position : Nat) executed session, steps[position]? = some executed →
      Registers executed session → WellFormed deployment steps position session := by
  refine ⟨fun matchId session stored => ?_,
    fun position executed session present registers => ?_⟩
  · obtain ⟨executed, member, registers⟩ := execution.registers_of_stored stored
    obtain ⟨position, present⟩ := List.getElem?_of_mem member
    exact ⟨position, executed, present, registers⟩
  · obtain ⟨stages, formation⟩ := execution.formation
    obtain ⟨queue, group, served, fills, earlier, claim, order, found, claims⟩ :=
      formation.formed position executed session present registers
    have fresh := (Registry.insert_fst_iff _ _).mp registers.2
    refine ⟨fresh.nodup, session.nodup_tickets,
      ⟨queue, group, served, ?_, fills.keyed, earlier, claim, order, found, claims, ?_⟩, ?_⟩
    · rw [session.length_ticketPlayers, fills.count]
    · intro ticket inside other step atOther commits
      exact execution.commits_once atOther found commits
        ((claims.commits ticket).mp inside)
    · intro other step rival atOther rivals different ticket inside
      exact formation.apart position other executed step session rival present atOther registers
        rivals different.symm ticket inside

end Runs

/-- Matches of three players in parties of two at most. -/
def trioRule : MatchmakingRule :=
  { matchZoneId := "Dungeon", matchPlayerCount := 3, partyAvailablePlayerCount := 2 }

/-- The zone has pairs for players without a party, and trios for parties. -/
def mixedDeployment : Deployment :=
  ⟨fun | .solo => [pairRule] | .party => [trioRule], fun _ => 1, fun _ => Nat.one_pos⟩

/-- Two players queue alone, and a party of two between two parties of one. -/
def mixedCalls : List Call :=
  [.partyStartMatchmaking (soleRequest 1), .partyStartMatchmaking (soleRequest 2),
    .partyStartMatchmaking { soleRequest 3 with players := ⟨[3, 4], by decide⟩ },
    .soloStartMatchmaking (soloRequest 5), .soloStartMatchmaking (soloRequest 6),
    .partyStopMatchmaking 1, solePartyWorkerRun, pairWorkerRun]

/-- The first party is cancelled before the workers run side by side. -/
def mixedMatchRun : List (Executed Section World) × Pool Section World :=
  playCalls mixedDeployment mixedCalls
    ((List.range 6).flatMap (List.replicate 20) ++ (List.replicate 30 [6, 7]).flatten)

/-- The party worker forms a trio of two parties, the solo worker a pair. -/
theorem registered_session_formed_mixed :
    (∃ session, mixedMatchRun.2.state.matchSessions.items 1001 = some session ∧
      session.ticketPlayers = [2, 3, 4] ∧
      ∃ position, WellFormed mixedDeployment mixedMatchRun.1 position session) ∧
    ∃ session, mixedMatchRun.2.state.matchSessions.items 1003 = some session ∧
      session.ticketPlayers = [5, 6] ∧
      ∃ position, WellFormed mixedDeployment mixedMatchRun.1 position session := by
  have execution : Interleaved mixedDeployment (fun _ => True) (fun _ _ => True)
      mixedMatchRun.1 mixedMatchRun.2 :=
    Interleaved.play _ (fun _ _ => trivial) _
  obtain ⟨registered, formed⟩ := registered_session_formed execution
  have present : ∀ {matchId : MatchId} {players : List PlayerKey},
      (mixedMatchRun.2.state.matchSessions.items matchId).map MatchSession.ticketPlayers =
        some players → ∃ session,
        mixedMatchRun.2.state.matchSessions.items matchId = some session ∧
          session.ticketPlayers = players ∧
          ∃ position, WellFormed mixedDeployment mixedMatchRun.1 position session := by
    intro matchId players same
    obtain ⟨session, stored, same⟩ := Option.map_eq_some_iff.mp same
    obtain ⟨position, executed, atPosition, registers⟩ := registered matchId session stored
    exact ⟨session, stored, same, position,
      formed position executed session atPosition registers⟩
  exact ⟨present (by decide +kernel), present (by decide +kernel)⟩

end MatchmakingMvp
