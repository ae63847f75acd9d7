import MatchmakingMvp.Session.Lifecycle

/-! # Ownership of handed tickets

A worker hands the tickets of a match to the session manager, which takes them over
from the matchmaking managers. It does not remember which manager made a ticket but
presumes one from the ticket's request (`MatchmakingMvp.MatchTicket.presumedQueue`).
A ticket whose manager is presumed rightly is forgotten by it when creation returns,
in every branch of creation; any other ticket stays as it is in its manager's map.
-/

namespace MatchmakingMvp

open Foundation

/-- The tickets are gone from the maps of their presumed managers, and nothing else
is gone. -/
structure World.Releases (tickets : List MatchTicket) (before after : World) : Prop where
  gone : ∀ ticket ∈ tickets,
    (after.tickets ticket.presumedQueue).items ticket.matchTicketId = none
  kept : ∀ queue id, (∀ ticket ∈ tickets, ticket.presumedQueue = queue →
      ticket.matchTicketId ≠ id) →
    (after.tickets queue).items id = (before.tickets queue).items id

namespace World.Releases

variable {before middle after : World} {ticket : MatchTicket} {tickets : List MatchTicket}

theorem nil (same : after.tickets = before.tickets) : before.Releases [] after :=
  ⟨nofun, fun queue id _ => by rw [same]⟩

theorem cons (first : before.Releases [ticket] middle) (rest : middle.Releases tickets after) :
    before.Releases (ticket :: tickets) after where
  gone other inside := by
    rcases List.mem_cons.mp inside with rfl | inside
    · by_cases again : ∃ later ∈ tickets, later.presumedQueue = other.presumedQueue ∧
          later.matchTicketId = other.matchTicketId
      · obtain ⟨later, inside, queue, id⟩ := again
        rw [← queue, ← id]
        exact rest.gone later inside
      · rw [rest.kept _ _ fun later inside queue id => again ⟨later, inside, queue, id⟩]
        exact first.gone other (List.mem_singleton_self other)
    · exact rest.gone other inside
  kept queue id different := by
    rw [rest.kept queue id fun other inside => different other (List.mem_cons_of_mem _ inside)]
    refine first.kept queue id fun other inside => different other ?_
    rw [List.mem_singleton.mp inside]
    exact List.mem_cons_self

theorem of_same (releases : before.Releases tickets middle)
    (same : after.tickets = middle.tickets) : before.Releases tickets after where
  gone ticket inside := by
    rw [same]
    exact releases.gone ticket inside
  kept queue id different := by
    rw [same]
    exact releases.kept queue id different

/-- A manager that erases a ticket of its own. -/
theorem erase (ticket : MatchTicket) (world : World) :
    world.Releases [ticket]
      (perform (.eraseMatchTicket ticket.presumedQueue ticket.matchTicketId) world) where
  gone other inside := by
    rw [List.mem_singleton.mp inside]
    simp [perform, TicketRegistry.eraseMatchTicket, Registry.erase_items]
  kept queue id different := by
    by_cases own : queue = ticket.presumedQueue
    · have away := different ticket (List.mem_singleton_self ticket) own.symm
      subst own
      simp [perform, TicketRegistry.eraseMatchTicket, Registry.erase_items, away.symm]
    · simp [perform, own]

end World.Releases

namespace MatchSessionManager

variable {tickets : List MatchTicket} {world : World}

theorem releases_expireAll (tickets : List MatchTicket) (world : World) :
    world.Releases tickets ((forAll tickets expireMatchmakingOwnership).run perform world).2 := by
  induction tickets generalizing world with
  | nil => exact .nil rfl
  | cons ticket rest ih =>
      rw [run_forAll_cons]
      exact (World.Releases.erase ticket world).cons (ih _)

/-- A failure notice releases a ticket that can fail. -/
theorem releases_notifyAll (nodup : tickets.Nodup)
    (searching : ∀ ticket ∈ tickets, world.ticketStatus ticket = .searching) :
    world.Releases tickets ((forAll tickets notifyMatchmakingFailure).run perform world).2 := by
  induction tickets generalizing world with
  | nil => exact .nil rfl
  | cons ticket rest ih =>
      obtain ⟨outside, distinct⟩ := List.nodup_cons.mp nodup
      have can : canChangeStatus (world.ticketStatus ticket) .failed = true := by
        rw [searching ticket List.mem_cons_self]
        rfl
      have failed : ((notifyMatchmakingFailure ticket).run perform world).2 =
          perform (.eraseMatchTicket ticket.presumedQueue ticket.matchTicketId)
            (world.withTicketStatus (Function.update world.ticketStatus ticket .failed)) := by
        simp only [notifyMatchmakingFailure, MatchmakingManager.onFailedMatchmaking,
          Program.run_bind, run_changeTicketStatus, MatchTicket.changeStatus_of_can can,
          reduceCtorEq, if_false, Program.run_pure]
        rfl
      rw [run_forAll_cons, failed]
      have erased := World.Releases.erase ticket
        (world.withTicketStatus (Function.update world.ticketStatus ticket .failed))
      have first : world.Releases [ticket] _ := ⟨erased.gone, erased.kept⟩
      refine first.cons (ih distinct fun other inside => ?_)
      have different := ne_of_mem_of_not_mem inside outside
      exact (Function.update_of_ne different ..).trans
        (searching other (List.mem_cons_of_mem _ inside))

theorem tickets_scheduleAutoAccepts (order : Int) (players : List PlayerKey) (world : World) :
    ((scheduleAutoAccepts order players).run perform world).2.tickets = world.tickets := by
  induction players generalizing order world with
  | nil => rfl
  | cons playerKey rest ih => exact ih (order + 1) _

/-- Creation whose session is inserted asks the players and takes the tickets over. -/
theorem run_createMatchSession_of_inserted {key : MatchmakingGroupKey} {tickets : TicketSet}
    {ticket : MatchTicket} (integrated : key.1 ∈ kDefaultWorldGroups)
    (first : tickets.1.head? = some ticket)
    (inserted : (world.matchSessions.insertMatchSession
      (world.createdSession key ticket tickets)).1 = true)
    (searching : ∀ ticket ∈ tickets.1, world.ticketStatus ticket = .searching) :
    (createMatchSession key tickets).run perform world =
      (do
        forAll tickets.1 expireMatchmakingOwnership
        let now ← timeMsec
        doAsyncJob (now + kAcceptTimeoutMsec) (.timeOutAccept ticket.matchTicketId)
        scheduleAutoAccepts 0 (world.createdSession key ticket tickets).ticketPlayers :
          Operation Unit).run perform (world.asked (world.createdSession key ticket tickets)) := by
  have number : world.getNextIntegrationWorldNo key.1 = some key.1 := if_pos integrated
  have contains := world.createdSession_tickets key ticket tickets
  have whole : (world.createdSession key ticket tickets).Whole :=
    ⟨by rw [contains]; rfl, ticket, by rw [contains]; exact List.mem_of_mem_head? first, rfl⟩
  have asks : (changeStatus (world.createdSession key ticket tickets) .requiresAcceptance).run
      perform ((world.opened (world.createdSession key ticket tickets)).withMatchSessions
        (world.matchSessions.insertMatchSession (world.createdSession key ticket tickets)).2) =
      (true, world.asked (world.createdSession key ticket tickets)) := by
    apply run_changeStatus_of_changeable
    apply whole.changeable (rfl : canChangeStatus .searching .requiresAcceptance = true)
    · simp
    · rw [contains]
      exact searching
  have numbered : perform (.nextIntegrationWorldNo key.1) world = world := if_pos integrated
  simp only [createMatchSession, Program.run_bind, Program.run_atomically, first]
  rw [show perform (.enterCreateMatchSession key tickets) world = world from rfl]
  simp only [number, numbered, Program.run_bind, Program.run_atomically,
    ne_neg_one_of_integrated integrated, if_false]
  rw [← World.createdSession, show perform (.forceSessionStatus _ .searching)
    (perform (.newMatchSession key.2 key.1 ticket.matchTicketId tickets) world) =
      world.opened (world.createdSession key ticket tickets) from rfl]
  simp only [run_insertMatchSession, World.opened_matchSessions, inserted, reduceCtorEq, if_false,
    Program.run_bind, asks]

/-- **Creation releases its tickets** in every branch. -/
theorem releases_createMatchSession {key : MatchmakingGroupKey} {tickets : TicketSet}
    (integrated : tickets.1 ≠ [] → key.1 ∈ kDefaultWorldGroups)
    (searching : ∀ ticket ∈ tickets.1, world.ticketStatus ticket = .searching) :
    world.Releases tickets.1 ((createMatchSession key tickets).run perform world).2 := by
  cases first : tickets.1.head? with
  | none =>
      rw [List.head?_eq_none_iff.mp first]
      refine .nil ?_
      simp only [createMatchSession, Program.run_bind, Program.run_atomically, first,
        Program.run_pure]
      rfl
  | some ticket =>
      have inside := List.mem_of_mem_head? first
      have integrated := integrated (List.ne_nil_of_mem inside)
      cases inserted : (world.matchSessions.insertMatchSession
          (world.createdSession key ticket tickets)).1 with
      | false =>
          rw [run_createMatchSession_of_rejected integrated first inserted]
          have failed : ((world.opened (world.createdSession key ticket
              tickets)).withMatchSessions (world.matchSessions.eraseMatchSession
                ticket.matchTicketId).2).Releases tickets.1 _ :=
            releases_notifyAll tickets.2 searching
          exact ⟨failed.gone, failed.kept⟩
      | true =>
          rw [run_createMatchSession_of_inserted integrated first inserted searching]
          have expired := releases_expireAll tickets.1
            (world.asked (world.createdSession key ticket tickets))
          have released : world.Releases tickets.1 _ := ⟨expired.gone, expired.kept⟩
          simp only [Program.run_bind, run_timeMsec, run_doAsyncJob]
          exact released.of_same (tickets_scheduleAutoAccepts ..)

end MatchSessionManager

/-! ## Runs that hand tickets over -/

/-- Neither the map nor the player index knows the ticket. -/
def TicketRegistry.Forgot (registry : TicketRegistry) (matchTicketId : MatchTicketId) : Prop :=
  registry.items matchTicketId = none ∧
    ∀ playerKey, registry.owner playerKey ≠ some matchTicketId

/-- Both ticket maps agree with their player indexes. -/
def World.TicketsConsistent (world : World) : Prop :=
  ∀ queue, (world.tickets queue).Consistent MatchTicket.matchTicketId MatchTicket.players

theorem TicketRegistry.forgot_iff {registry : TicketRegistry} {matchTicketId : MatchTicketId}
    (consistent : registry.Consistent MatchTicket.matchTicketId MatchTicket.players) :
    registry.Forgot matchTicketId ↔ registry.items matchTicketId = none := by
  refine ⟨And.left, fun absent => ⟨absent, fun playerKey owned => ?_⟩⟩
  obtain ⟨ticket, found, -⟩ := consistent.indexed.mp owned
  rw [absent] at found
  cases found

theorem World.TicketsConsistent.perform {world : World} (consistent : world.TicketsConsistent)
    (step : Section) : (perform step world).TicketsConsistent := by
  have update : ∀ queue registry,
      registry.Consistent MatchTicket.matchTicketId MatchTicket.players →
      (world.withTickets queue registry).TicketsConsistent := by
    intro queue registry changed other
    by_cases own : other = queue
    · subst own
      simpa using changed
    · simpa [own] using consistent other
  cases step with
  | insertMatchTicket queue ticket => exact update queue _ ((consistent queue).insert ticket)
  | eraseMatchTicket queue id => exact update queue _ ((consistent queue).erase id)
  | nextIntegrationWorldNo worldGroupNo =>
      simp only [MatchmakingMvp.perform]
      split_ifs <;> exact consistent
  | _ => exact consistent

/-- A thread claims tickets for a group of the deployment. -/
def Stage.Served (deployment : Deployment) : Stage → Prop
  | .claimed queue group tickets =>
      tickets ≠ [] → deployment.getWorkerGroup queue group.workerGroupKey = some group
  | _ => True

section Handover

variable {deployment : Deployment} {permits : MatchTicketRequest → Prop} {step : Section}
  {world : World} {stage stage' : Stage}

theorem Issues.served (issues : Issues deployment permits step world stage stage')
    (served : stage.Served deployment) : stage'.Served deployment := by
  cases issues with
  | neutral => exact served
  | forget => exact served
  | enter => exact served
  | soloClaim found => exact fun _ => found
  | partyClaim committed carried requested listing =>
      intro nonempty
      obtain ⟨ticket, inside⟩ := List.exists_mem_of_ne_nil _ nonempty
      have found := (carried ticket (listing.mem_iff.mp inside)).served
      exact Deployment.getWorkerGroup_self found
  | soloEnqueue | partyEnqueue | change => split_ifs <;> trivial
  | _ => trivial

/-- The complete run of a call enters creation with the tickets in a state. -/
def Call.HandsOver (deployment : Deployment) (call : Call) (world : World)
    (key : MatchmakingGroupKey) (tickets : TicketSet) (before : World) : Prop :=
  ∃ executed ∈ (call.program deployment).trace perform world,
    executed.command = .enterCreateMatchSession key tickets ∧ executed.before = before

theorem Reached.ticketsConsistent {admissible : Call → Prop}
    (reached : Reached deployment admissible world) : world.TicketsConsistent := by
  obtain ⟨trace, threads, execution⟩ := reached.interleaved
  exact Execution.invariant World.TicketsConsistent (fun _ => Registry.Consistent.empty _ _)
    (fun step _ _ consistent => consistent.perform step) execution

/-- Where a run of complete calls enters creation, the tickets are in search and one
manager made all of them. -/
theorem Call.HandsOver.claimed {call : Call} {key : MatchmakingGroupKey} {tickets : TicketSet}
    {before : World} (hands : call.HandsOver deployment world key tickets before)
    (reached : Reached deployment Call.ServerIssued world) (issued : call.ServerIssued) :
    before.Sound deployment (fun request => request.matchTicketId = -1) ∧
      before.TicketsConsistent ∧ (tickets.1 ≠ [] → key.1 ∈ kDefaultWorldGroups) ∧
      (∀ ticket ∈ tickets.1, before.ticketStatus ticket = .searching) ∧
      ∃ queue, ∀ ticket ∈ tickets.1, before.Made queue ticket := by
  obtain ⟨executed, inside, enters, rfl⟩ := hands
  obtain ⟨sound, settled⟩ := reached.settled
  have adheres : Adheres deployment (fun request => request.matchTicketId = -1) world
      (.free none) (call.program deployment) _ := adheres_program issued
  have preserved : ∀ step current stage stage',
      World.Sound deployment (fun request => request.matchTicketId = -1) current →
      Issues deployment (fun request => request.matchTicketId = -1) step current stage stage' →
      (current.Settled deployment stage ∧ stage.Served deployment ∧ current.TicketsConsistent) →
      (perform step current).Settled deployment stage' ∧ stage'.Served deployment ∧
        (perform step current).TicketsConsistent :=
    fun step _ _ _ sound issues holds =>
      ⟨holds.1.perform issues sound fun _ issued => issued, issues.served holds.2.1,
        holds.2.2.perform step⟩
  obtain ⟨sound, stage, stage', ⟨settled, served, consistent⟩, issues⟩ :=
    Program.Follows.executed (fun _ _ _ _ sound issues => issues.sound sound)
      World.Precedes.refl preserved adheres sound ⟨settled, trivial, reached.ticketsConsistent⟩
      executed inside
  rw [enters] at issues
  cases issues with
  | neutral neutral => cases neutral
  | @enter _ queue group _ fills made engaged =>
      refine ⟨sound, consistent, fun nonempty => ?_, fun ticket member => ?_, queue, made⟩
      · exact Deployment.integrated_of_getWorkerGroup (served nonempty)
      · exact (settled.seated.searching ticket).mpr member

/-- **Ownership is handed over** exactly when the session manager presumes the manager
that made the tickets. In every run of complete calls with server-issued ids, and for
the tickets of every creation, the manager that made them has forgotten all of them
when creation returns if and only if it had already forgotten each one that is
presumed to be of the other manager. -/
theorem handed_tickets_forgotten_iff {call : Call} {key : MatchmakingGroupKey}
    {tickets : TicketSet} {before : World}
    (reached : Reached deployment Call.ServerIssued world) (issued : call.ServerIssued)
    (hands : call.HandsOver deployment world key tickets before) :
    let after := ((MatchSessionManager.createMatchSession key tickets).run perform before).2
    ∃ queue, (∀ ticket ∈ tickets.1, before.Made queue ticket) ∧
      ((∀ ticket ∈ tickets.1, (after.tickets queue).Forgot ticket.matchTicketId) ↔
        ∀ ticket ∈ tickets.1, ticket.presumedQueue = queue ∨
          (before.tickets queue).Forgot ticket.matchTicketId) := by
  intro after
  obtain ⟨sound, consistent, integrated, searching, queue, made⟩ := hands.claimed reached issued
  have releases := MatchSessionManager.releases_createMatchSession integrated searching
  have consistent' : after.TicketsConsistent :=
    Program.run_invariant perform (fun step _ consistent => consistent.perform step) _ consistent
  refine ⟨queue, made, forall₂_congr fun ticket inside => ?_⟩
  rw [TicketRegistry.forgot_iff (consistent' queue), TicketRegistry.forgot_iff (consistent queue)]
  by_cases presumed : ticket.presumedQueue = queue
  · have gone := releases.gone ticket inside
    rw [presumed] at gone
    exact iff_of_true gone (Or.inl presumed)
  · have kept := releases.kept queue ticket.matchTicketId fun other member own same => by
      obtain ⟨-, rfl⟩ := sound.eq_of_matchTicketId (fun _ issued => issued) (made other member)
        (made ticket inside) same
      exact presumed own
    rw [show (after.tickets queue).items _ = _ from kept]
    exact ⟨Or.inr, fun forgot => forgot.resolve_left presumed⟩

end Handover

/-- Player 1 is queued by the party manager, in a party or alone. -/
def queuedWorld (request : MatchTicketRequest) : World :=
  (Call.partyStartMatchmaking request).complete soleMatchDeployment {}

theorem queuedWorld_reached {request : MatchTicketRequest} (issued : request.matchTicketId = -1) :
    Reached soleMatchDeployment Call.ServerIssued (queuedWorld request) := by
  refine .call .start _ fun other asks => ?_
  cases asks
  exact issued

/-- The party manager queues player 1 in a party and player 2 alone. -/
def mixedQueueWorld : World :=
  completeAll pairDeployment
    [.partyStartMatchmaking (soleRequest 1), .partyStartMatchmaking (soloRequest 2)] {}

theorem mixedQueueWorld_reached : Reached pairDeployment Call.ServerIssued mixedQueueWorld :=
  Reached.completeAll pairDeployment .start (by decide)

/-- Their tickets, of which the second is presumed to be the solo manager's. -/
def mixedTickets : TicketSet :=
  ⟨[soleTicket 1, ⟨1, { soloRequest 2 with matchTicketId := 1001 }, 0⟩], by decide⟩

/-- The two tickets are matched with each other. Only the second is kept. -/
theorem handed_tickets_forgotten_iff_mixed :
    ∃ before, solePartyWorkerRun.HandsOver pairDeployment mixedQueueWorld (0, "Dungeon")
        mixedTickets before ∧
      let after := ((MatchSessionManager.createMatchSession (0, "Dungeon")
        mixedTickets).run perform before).2
      (after.tickets .party).items 1000 = none ∧
      ((after.tickets .party).items 1001).isSome = true ∧
      ∃ queue, (∀ ticket ∈ mixedTickets.1, before.Made queue ticket) ∧
        ((∀ ticket ∈ mixedTickets.1, (after.tickets queue).Forgot ticket.matchTicketId) ↔
          ∀ ticket ∈ mixedTickets.1, ticket.presumedQueue = queue ∨
            (before.tickets queue).Forgot ticket.matchTicketId) := by
  have hands : solePartyWorkerRun.HandsOver pairDeployment mixedQueueWorld (0, "Dungeon")
      mixedTickets _ :=
    ⟨_, List.getElem_mem (by decide +kernel : 2 < _), by decide +kernel, rfl⟩
  exact ⟨_, hands, by decide +kernel, by decide +kernel,
    handed_tickets_forgotten_iff mixedQueueWorld_reached (by decide) hands⟩

/-- The ticket of a player alone in the party queue. -/
def aloneTicket : MatchTicket := ⟨0, { soloRequest 1 with matchTicketId := 1000 }, 0⟩

/-- The party manager keeps the ticket of a player without a party after it was handed
over, and keeps the player indexed. -/
theorem handed_ticket_kept :
    let world := queuedWorld (soloRequest 1)
    let after := solePartyWorkerRun.complete soleMatchDeployment world
    Reached soleMatchDeployment Call.ServerIssued world ∧
      (∃ before, solePartyWorkerRun.HandsOver soleMatchDeployment world (0, "Dungeon")
        ⟨[aloneTicket], by decide⟩ before) ∧
      (after.matchSessions.items 1000).isSome = true ∧
      (after.tickets .party).items 1000 = some aloneTicket ∧
      (after.tickets .party).owner 1 = some 1000 :=
  ⟨queuedWorld_reached rfl,
    ⟨_, _, List.getElem_mem (by decide +kernel : 2 < _), by decide +kernel, rfl⟩,
    by decide +kernel, by decide +kernel, by decide +kernel⟩

end MatchmakingMvp
