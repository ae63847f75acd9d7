import MatchmakingMvp.Session.SessionIndex
import MatchmakingMvp.System.Receding
import MatchmakingMvp.Tickets.Ownership
import MatchmakingMvp.Tickets.Submission

/-! # What holds a player

Tickets in a manager's map, registered sessions and zone instances hold players
(`MatchmakingMvp.World.Holds`). Operations that bring nobody in keep every player with at
most one holder (`MatchmakingMvp.World.SingleEngagement`). So do creation and completion,
which move players from tickets to a session and from a session to a zone, as long as the
tickets are released and the players of the zone are those of the session.
-/

namespace MatchmakingMvp

open Foundation

/-- Where a player can be. -/
inductive Holder
  | ticket (queue : QueueKind) (matchTicketId : MatchTicketId)
  | session (matchId : MatchId)
  | zone (key : IntegrationZoneInstanceKey)
deriving DecidableEq

namespace World

/-- The player belongs to what is registered there. -/
def Holds (world : World) (playerKey : PlayerKey) : Holder → Prop
  | .ticket queue id => ∃ ticket, (world.tickets queue).items id = some ticket ∧
      playerKey ∈ ticket.players
  | .session matchId => ∃ session, world.matchSessions.items matchId = some session ∧
      playerKey ∈ session.ticketPlayers
  | .zone key => world.Hosts playerKey key

/-- Nothing holds a player twice. -/
def SingleEngagement (world : World) : Prop :=
  ∀ playerKey first second, world.Holds playerKey first → world.Holds playerKey second →
    first = second

/-- No index knows the player. -/
structure Unengaged (world : World) (playerKey : PlayerKey) : Prop where
  tickets : ∀ queue, (world.tickets queue).owner playerKey = none
  session : world.matchSessions.owner playerKey = none
  zone : world.zones.findMapByPlayerKey playerKey = none

instance (world : World) (playerKey : PlayerKey) : Decidable (world.Unengaged playerKey) :=
  decidable_of_iff ((world.tickets .solo).owner playerKey = none ∧
      (world.tickets .party).owner playerKey = none ∧
      world.matchSessions.owner playerKey = none ∧ world.zones.findMapByPlayerKey playerKey = none)
    ⟨fun ⟨solo, party, session, zone⟩ =>
        ⟨fun | .solo => solo | .party => party, session, zone⟩,
      fun ⟨tickets, session, zone⟩ => ⟨tickets .solo, tickets .party, session, zone⟩⟩

/-- The indexes of the tickets, of the sessions and of the zones are exact. -/
structure Indexed (world : World) : Prop where
  tickets : world.TicketsConsistent
  sessions : world.matchSessions.Consistent
  zones : world.ZonesIndexed

/-- A player whom no index knows is nowhere. -/
theorem Unengaged.not_holds {world : World} {playerKey : PlayerKey}
    (unengaged : world.Unengaged playerKey) (indexed : world.Indexed) (holder : Holder) :
    ¬ world.Holds playerKey holder := by
  intro holds
  cases holder with
  | ticket queue id =>
      have owned := (indexed.tickets queue).indexed.mpr holds
      rw [unengaged.tickets queue] at owned
      cases owned
  | session matchId =>
      have owned := indexed.sessions.indexed.mpr holds
      rw [unengaged.session] at owned
      cases owned
  | zone key =>
      have owned := indexed.zones.indexed.mpr holds
      rw [unengaged.zone] at owned
      cases owned

variable {world before after : World}

theorem Recedes.holds (recedes : before.Recedes after) {playerKey : PlayerKey} {holder : Holder}
    (holds : after.Holds playerKey holder) : before.Holds playerKey holder := by
  cases holder with
  | ticket queue id => exact holds.imp fun ticket present => ⟨recedes.tickets present.1, present.2⟩
  | session matchId =>
      exact holds.imp fun session present => ⟨recedes.sessions present.1, present.2⟩
  | zone key => exact recedes.hosts holds

/-- Players who join one holder and were with no holder that is left. -/
theorem SingleEngagement.admit (single : before.SingleEngagement) (newcomer : Holder)
    (joins : PlayerKey → Prop)
    (earlier : ∀ {playerKey holder}, after.Holds playerKey holder →
      before.Holds playerKey holder ∨ holder = newcomer ∧ joins playerKey)
    (moved : ∀ {playerKey holder}, joins playerKey → after.Holds playerKey holder →
      ¬ before.Holds playerKey holder) : after.SingleEngagement := by
  intro playerKey first second inFirst inSecond
  rcases earlier inFirst with before | ⟨rfl, joins⟩
  · rcases earlier inSecond with before' | ⟨rfl, joins⟩
    · exact single playerKey first second before before'
    · exact (moved joins inFirst before).elim
  · rcases earlier inSecond with before' | ⟨rfl, -⟩
    · exact (moved joins inSecond before').elim
    · rfl

/-- No ticket is made, no session is registered, no completion is scheduled, and whoever
joins a zone leaves what held him before. -/
structure Conserves (before after : World) : Prop where
  zones : after.ZonesIndexed
  matchTickets : after.matchTickets = before.matchTickets
  sessions : ∀ {id session}, after.matchSessions.items id = some session →
    before.matchSessions.items id = some session
  completions : ∀ {dueTimeMsec info}, (dueTimeMsec, .complete info) ∈ after.sessionJobs →
    (dueTimeMsec, .complete info) ∈ before.sessionJobs
  single : before.SingleEngagement → after.SingleEngagement

theorem Conserves.trans {middle : World} (first : before.Conserves middle)
    (second : middle.Conserves after) : before.Conserves after where
  zones := second.zones
  matchTickets := second.matchTickets.trans first.matchTickets
  sessions present := first.sessions (second.sessions present)
  completions pending := first.completions (second.completions pending)
  single single := second.single (first.single single)

theorem ZonesIndexed.insertMatchSession (indexed : world.ZonesIndexed) (session : MatchSession) :
    (perform (.insertMatchSession session) world).ZonesIndexed :=
  ⟨indexed.keyed, indexed.made, indexed.indexed⟩

theorem SingleEngagement.recede (single : before.SingleEngagement)
    (recedes : before.Recedes after) : after.SingleEngagement :=
  fun playerKey first second inFirst inSecond =>
    single playerKey first second (recedes.holds inFirst) (recedes.holds inSecond)

theorem Recedes.conserves (recedes : before.Recedes after) : before.Conserves after :=
  ⟨recedes.zones, recedes.matchTickets, recedes.sessions, recedes.completions,
    fun single => single.recede recedes⟩

end World

/-! ## Creation -/

namespace MatchSessionManager

theorem recedes_notifyAll (tickets : List MatchTicket) :
    Recedes (forAll tickets notifyMatchmakingFailure) :=
  recedes_forAll fun ticket => MatchmakingManager.recedes_onFailedMatchmaking _ ticket

theorem recedes_scheduleAutoAccepts (order : Int) (players : List PlayerKey) :
    Recedes (scheduleAutoAccepts order players) := by
  induction players generalizing order with
  | nil => exact recedes_pure ()
  | cons playerKey rest ih =>
      apply (recedes_readWorld _).bind
      intro now
      exact (recedes_atomically rfl _).bind fun _ => ih (order + 1)

/-- Creation once its session was inserted or rejected. -/
theorem recedes_announce (session : MatchSession) (matchId : MatchId) (tickets : List MatchTicket)
    (inserted : Bool) :
    Recedes (do
      if inserted = false then
        let _ ← eraseMatchSession matchId
        forAll tickets notifyMatchmakingFailure
        return ()
      if (← changeStatus session .requiresAcceptance) = false then
        onFailedMatchSession matchId
        return ()
      forAll tickets expireMatchmakingOwnership
      let now ← timeMsec
      doAsyncJob (now + kAcceptTimeoutMsec) (.timeOutAccept matchId)
      scheduleAutoAccepts 0 session.ticketPlayers : Operation Unit) := by
  apply Recedes.ite
  · exact (recedes_atomically rfl _).bind fun _ =>
      (recedes_notifyAll tickets).bind fun _ => recedes_pure ()
  apply (recedes_atomically rfl _).bind
  intro changed
  apply Recedes.ite
  · exact (recedes_onFailedMatchSession matchId).bind fun _ => recedes_pure ()
  have expire : ∀ ticket, Recedes (expireMatchmakingOwnership ticket) := fun _ =>
    (recedes_atomically rfl _).bind fun _ => recedes_pure ()
  exact (recedes_forAll expire).bind fun _ => (recedes_readWorld _).bind fun _ =>
    (recedes_atomically rfl _).bind fun _ => recedes_scheduleAutoAccepts 0 _

/-- Creation brings nobody in except by the one session it may register. -/
theorem createMatchSession_cases {world : World} (indexed : world.ZonesIndexed)
    (key : MatchmakingGroupKey) (tickets : TicketSet) :
    let after := ((createMatchSession key tickets).run perform world).2
    world.Recedes after ∨ ∃ session middle, session.tickets = tickets.1 ∧
      tickets.1.head?.map MatchTicket.matchTicketId = some session.matchId ∧
      world.Recedes middle ∧ (perform (.insertMatchSession session) middle).Recedes after := by
  have begun : world.Recedes (perform (.nextIntegrationWorldNo key.1) world) :=
    indexed.recedes_perform rfl
  simp only [createMatchSession, Program.run_bind, Program.run_atomically]
  rw [show perform (.enterCreateMatchSession key tickets) world = world from rfl]
  cases first : tickets.1.head? with
  | none => exact Or.inl (recedes_pure () world indexed)
  | some ticket =>
      simp only [Program.run_bind, Program.run_atomically]
      cases world.getNextIntegrationWorldNo key.1 with
      | none => exact Or.inl begun
      | some integrationWorldNo =>
          dsimp only
          by_cases outside : integrationWorldNo = -1
          · have failing := (recedes_notifyAll tickets.1).bind fun _ => recedes_pure ()
            rw [if_pos outside]
            exact Or.inl (begun.trans (failing _ begun.zones))
          rw [if_neg outside, Program.run_bind, Program.run_atomically, Program.run_bind,
            Program.run_atomically, Program.run_bind]
          generalize made : World.newMatchSession _ key.2 integrationWorldNo
            ticket.matchTicketId tickets = session
          have opened : (perform (.nextIntegrationWorldNo key.1) world).Recedes
              (perform (.forceSessionStatus session .searching) (perform (.newMatchSession key.2
                integrationWorldNo ticket.matchTicketId tickets)
                  (perform (.nextIntegrationWorldNo key.1) world))) :=
            begun.zones.recedes_of_eq rfl rfl rfl rfl rfl rfl rfl
          refine Or.inr ⟨session, _, ?_, ?_, begun.trans opened, ?_⟩
          · rw [← made, World.newMatchSession_tickets]
          · rw [← made]
            rfl
          · exact recedes_announce session ticket.matchTicketId tickets.1 _ _
              (opened.zones.insertMatchSession session)

/-- **Creation moves players** from the tickets to the session, where the tickets were in
the map of the manager that they are presumed to be of. -/
theorem single_createMatchSession {start world : World} (single : start.SingleEngagement)
    (recedes : start.Recedes world) {key : MatchmakingGroupKey} {tickets : TicketSet}
    (registered : ∀ ticket ∈ tickets.1,
      (start.tickets ticket.presumedQueue).items ticket.matchTicketId = some ticket)
    (integrated : tickets.1 ≠ [] → key.1 ∈ kDefaultWorldGroups)
    (searching : ∀ ticket ∈ tickets.1, world.ticketStatus ticket = .searching) :
    ((createMatchSession key tickets).run perform world).2.SingleEngagement := by
  have releases := releases_createMatchSession integrated searching
  rcases createMatchSession_cases recedes.zones key tickets with receded | created
  · exact single.recede (recedes.trans receded)
  obtain ⟨session, middle, contains, -, opened, announced⟩ := created
  have before := recedes.trans opened
  apply single.admit (.session session.matchId) (· ∈ session.ticketPlayers)
  · intro playerKey holder holds
    cases holder with
    | ticket owner id =>
        obtain ⟨ticket, present, inside⟩ := holds
        exact Or.inl ⟨ticket, before.tickets (announced.tickets present), inside⟩
    | session matchId =>
        obtain ⟨other, present, inside⟩ := holds
        rcases Registry.eq_or_stored_of_insert _ _ (announced.sessions present) with
          ⟨rfl, rfl⟩ | stored
        · exact Or.inr ⟨rfl, inside⟩
        · exact Or.inl ⟨other, before.sessions stored, inside⟩
    | zone zoneKey => exact Or.inl (before.hosts (announced.hosts holds))
  · intro playerKey holder joins holds present
    rw [MatchSession.mem_ticketPlayers, contains] at joins
    obtain ⟨ticket, member, inside⟩ := joins
    have own : start.Holds playerKey (.ticket ticket.presumedQueue ticket.matchTicketId) :=
      ⟨ticket, registered ticket member, inside⟩
    rw [single playerKey _ _ present own] at holds
    obtain ⟨kept, stored, -⟩ := holds
    have gone := releases.gone ticket member
    rw [stored] at gone
    cases gone

end MatchSessionManager

/-! ## Completion -/

/-- A completion that registers a zone is for players who are in no zone, and if the session
can be completed nothing but the session holds them. -/
def World.Completes (world : World) (info : IntegrationZoneInstanceInfo) : Prop :=
  ∀ session, world.matchSessions.items info.matchId = some session →
    world.zones.instanceMap.find? info.key = none → ∀ playerKey ∈ info.players.elements,
      (∀ key, ¬ world.Hosts playerKey key) ∧
        (canChangeStatus (world.sessionState session).status .completed = true →
          ∀ holder, world.Holds playerKey holder → holder = .session info.matchId)

theorem World.canChangeStatus_of_changed {world : World} {session : MatchSession}
    {status : MatchTicketStatus} (changed : (world.changeSessionStatus session status).1 = true) :
    canChangeStatus (world.sessionState session).status status = true := by
  by_contra cannot
  rw [changeSessionStatus, MatchSession.changeStatus,
    if_pos (Bool.eq_false_of_not_eq_true cannot)] at changed
  cases changed

/-- An insertion of a zone concerns the zones only. -/
theorem IntegrationZoneInstanceManager.frame_insert (info : IntegrationZoneInstanceInfo)
    (world : World) :
    let after := ((insert (some info)).run perform world).2
    after.matchTickets = world.matchTickets ∧ after.tickets = world.tickets ∧
      after.matchSessions = world.matchSessions ∧ after.sessionState = world.sessionState ∧
      after.sessionJobs = world.sessionJobs := by
  simp only [insert, Program.run_bind, Program.run_atomically, Program.run_ite]
  split_ifs
  · exact ⟨rfl, rfl, rfl, rfl, rfl⟩
  · exact ⟨rfl, rfl, rfl, rfl, rfl⟩

section Completion

variable {world middle : World} {session : MatchSession} {info : IntegrationZoneInstanceInfo}
  (matchTickets : middle.matchTickets = world.matchTickets)
  (tickets : middle.tickets = world.tickets)
  (matchSessions : middle.matchSessions = world.matchSessions)
  (sessionJobs : middle.sessionJobs = world.sessionJobs)
  (zones : middle.ZonesIndexed)
  (hosts : ∀ playerKey key, middle.Hosts playerKey key →
    world.Hosts playerKey key ∨ playerKey ∈ info.players.elements ∧ key = info.key)

include matchTickets tickets matchSessions sessionJobs zones hosts

/-- The zone of a refused completion is erased again. -/
theorem World.recedes_undone (session : MatchSession) :
    world.Recedes (perform (.eraseZoneInstance info.key)
      (perform (.changeSessionStatus session .completed) middle)) := by
  have changed : middle.Recedes (perform (.changeSessionStatus session .completed) middle) :=
    zones.recedes_perform rfl
  have erased : middle.Recedes (perform (.eraseZoneInstance info.key)
      (perform (.changeSessionStatus session .completed) middle)) :=
    changed.trans (changed.zones.recedes_perform rfl)
  have undone : world.ZonesRecede _ := ⟨erased.zones, fun {playerKey key} present => by
    obtain ⟨other, kept⟩ := World.hosts_eraseZoneInstance.mp present
    exact (hosts playerKey key (changed.hosts kept)).resolve_right fun new => other new.2⟩
  exact undone.recedes matchTickets tickets matchSessions sessionJobs

/-- A completed session is deregistered, and its players are in the new zone. -/
theorem World.conserves_completed
    (only : ∀ playerKey ∈ info.players.elements, ∀ holder, world.Holds playerKey holder →
      holder = .session info.matchId) :
    world.Conserves (perform (.eraseMatchSession info.matchId)
      (perform (.changeSessionStatus session .completed) middle)) := by
  have changed : middle.Recedes (perform (.changeSessionStatus session .completed) middle) :=
    zones.recedes_perform rfl
  have erased : middle.Recedes (perform (.eraseMatchSession info.matchId)
      (perform (.changeSessionStatus session .completed) middle)) :=
    changed.trans (changed.zones.recedes_perform rfl)
  refine ⟨erased.zones, erased.matchTickets.trans matchTickets,
    fun present => ?_, fun pending => ?_, fun single => ?_⟩
  · rw [← matchSessions]
    exact erased.sessions present
  · rw [← sessionJobs]
    exact erased.completions pending
  · apply single.admit (.zone info.key) (· ∈ info.players.elements)
    · intro playerKey holder holds
      cases holder with
      | ticket queue id =>
          exact Or.inl (by simpa only [World.Holds, tickets] using erased.holds holds)
      | session matchId =>
          exact Or.inl (by simpa only [World.Holds, matchSessions] using erased.holds holds)
      | zone key =>
          rcases hosts playerKey key (erased.hosts holds) with earlier | ⟨inside, rfl⟩
          · exact Or.inl earlier
          · exact Or.inr ⟨rfl, inside⟩
    · intro playerKey holder joins holds present
      have own := only playerKey joins holder present
      subst own
      obtain ⟨other, stored, -⟩ := holds
      exact (Registry.stored_of_erase _ _ stored).1 rfl

end Completion

/-- **Completion moves players** from the session to the zone. -/
theorem MatchSessionManager.conserves_onCompleteMatchSession {world : World}
    (indexed : world.ZonesIndexed) {info : IntegrationZoneInstanceInfo} {success : Bool}
    (completes : success = true → world.Completes info) :
    world.Conserves ((onCompleteMatchSession info success).run perform world).2 := by
  have fails := recedes_onFailedMatchSession info.matchId
  cases success with
  | false => exact ((fails.bind fun _ => recedes_pure ()) world indexed).conserves
  | true =>
      simp only [onCompleteMatchSession, Bool.true_eq_false, if_false, Program.run_bind,
        run_findMatchSession]
      cases found : world.matchSessions.items info.matchId with
      | none => exact (fails world indexed).conserves
      | some session =>
          have only := completes rfl session found
          have frame := IntegrationZoneInstanceManager.frame_insert info world
          have inserted := IntegrationZoneInstanceManager.zones_insert indexed
            fun unused playerKey inside => (only unused playerKey inside).1
          simp only [Program.run_bind]
          generalize (IntegrationZoneInstanceManager.insert (some info)).run perform world = result
            at frame inserted ⊢
          obtain ⟨registered, middle⟩ := result
          obtain ⟨matchTickets, tickets, matchSessions, sessionState, sessionJobs⟩ := frame
          dsimp only at matchTickets tickets matchSessions sessionState sessionJobs inserted ⊢
          rcases inserted with ⟨rfl, recede⟩ | ⟨zone, rfl, keyed, unused, zones, hosts⟩
          · have refused := recede.recedes matchTickets tickets matchSessions sessionJobs
            exact (refused.trans (fails middle refused.zones)).conserves
          · simp only [Program.run_bind, Program.run_ite, Program.run_pure]
            rw [keyed]
            split_ifs with refused
            · have undone := World.recedes_undone matchTickets tickets matchSessions sessionJobs
                zones hosts session
              exact (undone.trans (fails _ undone.zones)).conserves
            · have can : canChangeStatus (world.sessionState session).status .completed = true := by
                rw [← sessionState]
                exact World.canChangeStatus_of_changed (Bool.eq_true_of_not_eq_false refused)
              exact World.conserves_completed matchTickets tickets matchSessions sessionJobs zones
                hosts fun playerKey inside => (only unused playerKey inside).2 can

end MatchmakingMvp
