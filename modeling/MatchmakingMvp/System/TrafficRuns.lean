import MatchmakingMvp.System.PartyTraffic
import MatchmakingMvp.Tickets.Ownership
import MatchmakingMvp.Tickets.PartyQueues

/-! # What a traffic leaves behind

However the runs of the worker interleave with the submissions of a traffic, every
submission is taken and its ticket queued (`MatchmakingMvp.World.Reaches`), and the
players of the tickets that left the queue are those of the matches formed
(`MatchmakingMvp.TrafficRun.outcome`).
-/

namespace MatchmakingMvp

open Foundation

/-! ## The tickets of the submissions -/

/-- The ticket of a submission that so many others came before. -/
def issuedTicket (index : Nat) (request : MatchTicketRequest) : MatchTicket :=
  ⟨index, { request with matchTicketId := 1000 + index }, request.worldNo⟩

def issuedTickets (requests : List MatchTicketRequest) : List MatchTicket :=
  requests.mapIdx issuedTicket

theorem issuedTickets_concat (done : List MatchTicketRequest) (request : MatchTicketRequest) :
    issuedTickets (done ++ [request]) =
      issuedTickets done ++ [issuedTicket done.length request] :=
  List.mapIdx_concat

theorem exists_request_of_mem_issuedTickets {requests : List MatchTicketRequest}
    {ticket : MatchTicket} (inside : ticket ∈ issuedTickets requests) :
    ∃ index < requests.length, ∃ request ∈ requests, ticket = issuedTicket index request := by
  obtain ⟨index, bound, same⟩ := List.mem_mapIdx.mp inside
  exact ⟨index, bound, requests[index], List.getElem_mem bound, same.symm⟩

/-- The state while requests are taken: which of them were given tickets, whose
tickets may be registered, and whose tickets were queued. -/
structure World.Taking (world : World) (issued registered queued : List MatchTicketRequest) :
    Prop where
  running : world.isRunning .party = true
  unzoned : ∀ playerKey, world.zones.findMapByPlayerKey playerKey = none
  unpenalized : ∀ playerKey, world.dodgePenalties playerKey = none
  made : world.matchTickets = ((issuedTickets issued).map (Prod.mk .party)).reverse
  indexed : ∀ id ticket, (world.tickets .party).items id = some ticket →
    ticket ∈ issuedTickets registered
  started : ∀ ticket ∈ issuedTickets queued, world.ticketStatus ticket ≠ .none

/-- How far the submissions of the requests are. -/
def World.Reaches (world : World) (requests : List MatchTicketRequest) : Progress → Prop
  | .checking rest => ∃ done, requests = done ++ rest ∧ world.Taking done done done
  | .made ticket rest => ∃ done request, requests = done ++ request :: rest ∧
      ticket = issuedTicket done.length request ∧ world.Taking (done ++ [request]) done done
  | .registered ticket rest => ∃ done request, requests = done ++ request :: rest ∧
      ticket = issuedTicket done.length request ∧
      world.Taking (done ++ [request]) (done ++ [request]) done
  | .serving | .lost => False

variable {deployment : Deployment} {permits : MatchTicketRequest → Prop} {step : Section}
  {world before after : World} {issued registered queued done rest : List MatchTicketRequest}
  {request : MatchTicketRequest} {ticket : MatchTicket} {group : WorkerGroup}

namespace World.Taking

theorem made_iff (taking : world.Taking issued registered queued) {queue : QueueKind} :
    world.Made queue ticket ↔ queue = .party ∧ ticket ∈ issuedTickets issued := by
  rw [World.Made, taking.made, List.mem_reverse, List.mem_map]
  constructor
  · rintro ⟨other, inside, same⟩
    cases same
    exact ⟨rfl, inside⟩
  · rintro ⟨rfl, inside⟩
    exact ⟨ticket, inside, rfl⟩

theorem length_eq (taking : world.Taking issued registered queued) :
    world.matchTickets.length = issued.length := by
  rw [taking.made, List.length_reverse, List.length_map, issuedTickets, List.length_mapIdx]

/-- A section that makes and registers no tickets. -/
theorem frame (taking : before.Taking issued registered queued) (precedes : before.Precedes after)
    (running : after.isRunning = before.isRunning) (zones : after.zones = before.zones)
    (penalties : after.dodgePenalties = before.dodgePenalties)
    (made : after.matchTickets = before.matchTickets)
    (indexed : ∀ id ticket, (after.tickets .party).items id = some ticket →
      (before.tickets .party).items id = some ticket) :
    after.Taking issued registered queued where
  running := by rw [running, taking.running]
  unzoned := by
    rw [zones]
    exact taking.unzoned
  unpenalized := by
    rw [penalties]
    exact taking.unpenalized
  made := by rw [made, taking.made]
  indexed id ticket found := taking.indexed id ticket (indexed id ticket found)
  started ticket inside := (precedes.advances ticket).ne_none (taking.started ticket inside)

theorem perform_creates (taking : world.Taking issued registered queued)
    (creates : step.creates = true) : (perform step world).Taking issued registered queued := by
  have precedes := precedes_perform step world
  cases step with
  | eraseMatchTicket queue id =>
      refine taking.frame precedes rfl rfl rfl rfl fun other stored found => ?_
      simp only [perform, World.withTickets] at found
      by_cases own : queue = .party
      · subst own
        rw [Function.update_self] at found
        exact (Registry.stored_of_erase _ _ found).2
      · rwa [Function.update_of_ne (Ne.symm own)] at found
  | nextIntegrationWorldNo worldGroupNo =>
      simp only [perform] at precedes ⊢
      split_ifs at precedes ⊢
      · exact taking
      · exact taking.frame precedes rfl rfl rfl rfl fun _ _ => id
  | read | enterCreateMatchSession | newMatchSession | forceSessionStatus | changeSessionStatus
  | insertMatchSession | eraseMatchSession | changeTicketStatus | addSessionJob =>
      exact taking.frame precedes rfl rfl rfl rfl fun _ _ => id
  | _ => cases creates

theorem perform_partyCommit (taking : world.Taking issued registered queued)
    (requests : List (Option MatchmakingRequest)) :
    (perform (.partyCommit group requests) world).Taking issued registered queued :=
  taking.frame (precedes_perform _ _) rfl rfl rfl rfl fun _ _ => id

/-- The players of a request that no earlier one has are free. -/
theorem unowned (taking : world.Taking issued done queued) (consistent : world.TicketsConsistent)
    (fresh : ((done ++ request :: rest).flatMap fun request => request.players.elements).Nodup) :
    ∀ playerKey ∈ request.players.elements, (world.tickets .party).owner playerKey = none := by
  intro playerKey inside
  by_contra owned
  obtain ⟨id, owner⟩ := Option.ne_none_iff_exists'.mp owned
  obtain ⟨ticket, found, member⟩ := (consistent .party).indexed.mp owner
  obtain ⟨index, -, earlier, submitted, rfl⟩ :=
    exists_request_of_mem_issuedTickets (taking.indexed id ticket found)
  rw [List.flatMap_append, List.flatMap_cons] at fresh
  exact (List.disjoint_of_nodup_append fresh) (List.mem_flatMap.mpr ⟨earlier, submitted, member⟩)
    (List.mem_append_left _ inside)

theorem admits (taking : world.Taking done done done) (consistent : world.TicketsConsistent)
    (fresh : ((done ++ request :: rest).flatMap fun request => request.players.elements).Nodup) :
    world.Admits request :=
  ⟨taking.running, taking.unowned consistent fresh, taking.unzoned, taking.unpenalized⟩

end World.Taking

/-! ## The submissions go on -/

section Steps

variable {stage stage' : Stage} {progress progress' : Progress}
  {requests : List MatchTicketRequest}

/-- A handover to the group succeeds. -/
theorem Issues.enqueues {base : Int} {carrier : MatchmakingRequest}
    (issues : Issues deployment permits (.partyEnqueue group base carrier ticket) world stage
      stage')
    (sound : world.Sound deployment permits) (serverIssues : ServerIssues permits)
    (held : world.PartyHeld deployment) (awaits : world.Awaits stage) :
    (world.partyEnqueue group base carrier ticket).1 = true ∧
      world.ticketStatus ticket = .none ∧
      (perform (.partyEnqueue group base carrier ticket) world).ticketStatus =
        Function.update world.ticketStatus ticket .queued := by
  cases issues with
  | neutral neutral => cases neutral
  | partyEnqueue carried assigned =>
      obtain ⟨accepted, statuses, -⟩ :=
        held.enqueue sound serverIssues carried assigned awaits.2.1 awaits.2.2
      exact ⟨accepted, awaits.2.1, statuses⟩

/-- The next ticket is that of the submission. -/
theorem World.Taking.newMatchTicket (taking : world.Taking done registered queued)
    (sound : world.Sound deployment permits) (serverIssues : ServerIssues permits)
    (unnumbered : request.matchTicketId = -1) :
    world.newMatchTicket request.worldNo request = issuedTicket done.length request := by
  have next := (sound.issued serverIssues).1
  rw [World.newMatchTicket, World.normalizeRequest, issuedTicket, taking.length_eq,
    if_pos (by rw [unnumbered]; decide), next, taking.length_eq]

theorem World.Taking.made_newMatchTicket (taking : world.Taking done done done)
    (issued : world.newMatchTicket request.worldNo request = issuedTicket done.length request) :
    (perform (.newMatchTicket .party request.worldNo request) world).Taking (done ++ [request])
      done done where
  running := taking.running
  unzoned := taking.unzoned
  unpenalized := taking.unpenalized
  made := by
    simp only [perform, issued, taking.made, issuedTickets_concat, List.map_append,
      List.reverse_append]
    rfl
  indexed := taking.indexed
  started := taking.started

theorem World.Taking.register (taking : world.Taking (done ++ [request]) done done) :
    (perform (.insertMatchTicket .party (issuedTicket done.length request)) world).Taking
      (done ++ [request]) (done ++ [request]) done where
  running := taking.running
  unzoned := taking.unzoned
  unpenalized := taking.unpenalized
  made := taking.made
  indexed id ticket found := by
    simp only [perform, World.withTickets, Function.update_self] at found
    rw [issuedTickets_concat, List.mem_append, List.mem_singleton]
    rcases Registry.eq_or_stored_of_insert _ _ found with ⟨-, same⟩ | stored
    · exact Or.inr same
    · exact Or.inl (taking.indexed id ticket stored)
  started := taking.started

/-- A new ticket can be registered. -/
theorem World.Taking.inserts (taking : world.Taking (done ++ [request]) done done)
    (sound : world.Sound deployment permits) (serverIssues : ServerIssues permits)
    (consistent : world.TicketsConsistent)
    (fresh : ((done ++ request :: rest).flatMap fun request => request.players.elements).Nodup) :
    ((world.tickets .party).insertMatchTicket (issuedTicket done.length request)).1 = true := by
  have unowned := taking.unowned consistent fresh
  refine (Registry.insert_fst_iff _ _).mpr ⟨?_, unowned, request.players.nodup⟩
  by_contra stored
  obtain ⟨ticket, found⟩ := Option.ne_none_iff_exists'.mp stored
  have earlier := taking.indexed _ _ found
  have mine : world.Made .party (issuedTicket done.length request) := by
    rw [taking.made_iff, issuedTickets_concat]
    exact ⟨rfl, List.mem_append_right _ (List.mem_singleton_self _)⟩
  have same := (sound.eq_of_matchTicketId serverIssues (sound.registered _ _ _ found).1 mine
    ((consistent .party).keyed found)).2
  subst same
  obtain ⟨index, bound, _, _, same⟩ := exists_request_of_mem_issuedTickets earlier
  exact absurd (congrArg MatchTicket.serial same) bound.ne'

theorem World.Taking.enqueue {base : Int} {carrier : MatchmakingRequest}
    (taking : world.Taking (done ++ [request]) (done ++ [request]) done)
    (statuses : (perform (.partyEnqueue group base carrier
      (issuedTicket done.length request)) world).ticketStatus =
        Function.update world.ticketStatus (issuedTicket done.length request) .queued) :
    (perform (.partyEnqueue group base carrier (issuedTicket done.length request)) world).Taking
      (done ++ [request]) (done ++ [request]) (done ++ [request]) where
  running := taking.running
  unzoned := taking.unzoned
  unpenalized := taking.unpenalized
  made := taking.made
  indexed := taking.indexed
  started ticket inside := by
    rw [issuedTickets_concat, List.mem_append, List.mem_singleton] at inside
    rw [statuses]
    by_cases own : ticket = issuedTicket done.length request
    · subst own
      rw [Function.update_self]
      decide
    · rw [Function.update_of_ne own]
      exact taking.started ticket (inside.resolve_right own)

/-- **A submission meets no obstacle.** -/
theorem Proceeds.reaches (proceeds : Proceeds group step world progress progress')
    (issues : Issues deployment permits step world stage stage')
    (sound : world.Sound deployment permits) (serverIssues : ServerIssues permits)
    (held : world.PartyHeld deployment) (awaits : world.Awaits stage)
    (consistent : world.TicketsConsistent)
    (unnumbered : ∀ request ∈ requests, request.matchTicketId = -1)
    (fresh : (requests.flatMap fun request => request.players.elements).Nodup)
    (reaches : world.Reaches requests progress) :
    (perform step world).Reaches requests progress' := by
  cases proceeds with
  | serve | commit | drift => exact reaches.elim
  | check => exact reaches
  | make =>
      obtain ⟨done, rfl, taking⟩ := reaches
      have issued := taking.newMatchTicket sound serverIssues
        (unnumbered _ (List.mem_append_right _ List.mem_cons_self))
      exact ⟨done, _, rfl, issued, taking.made_newMatchTicket issued⟩
  | register =>
      obtain ⟨done, request, rfl, rfl, taking⟩ := reaches
      exact ⟨done, request, rfl, rfl, taking.register⟩
  | assign =>
      obtain ⟨done, request, same, rfl, taking⟩ := reaches
      exact ⟨done, request, same, rfl,
        taking.frame (precedes_perform _ _) rfl rfl rfl rfl fun _ _ => id⟩
  | enqueue =>
      obtain ⟨done, request, rfl, rfl, taking⟩ := reaches
      obtain ⟨-, -, statuses⟩ := issues.enqueues sound serverIssues held awaits
      exact ⟨done ++ [request], List.append_cons done request _, taking.enqueue statuses⟩
  | hinder obstacle =>
      obtain ⟨done, rfl, taking⟩ := reaches
      exact obstacle (taking.admits consistent fresh)
  | reject rejected =>
      obtain ⟨done, request, rfl, rfl, taking⟩ := reaches
      rw [taking.inserts sound serverIssues consistent fresh] at rejected
      cases rejected
  | refuse refused =>
      rw [(issues.enqueues sound serverIssues held awaits).1] at refused
      cases refused

/-! ## The players that left the queue -/

/-- The tickets that left their queues. -/
def World.departedTickets (world : World) : Finset MatchTicket :=
  (world.matchTickets.map Prod.snd).toFinset.filter fun ticket =>
    (world.ticketStatus ticket).departed = true

def World.departedPlayers (world : World) : Int :=
  ∑ ticket ∈ world.departedTickets, (ticket.players.length : Int)

theorem World.mem_departedTickets :
    ticket ∈ world.departedTickets ↔
      (∃ queue, world.Made queue ticket) ∧ (world.ticketStatus ticket).departed = true := by
  simp [World.departedTickets, World.Made]

/-- A section that lets no ticket leave its queue. -/
theorem World.departedPlayers_eq
    (made : ∀ queue ticket, (perform step world).Made queue ticket → world.Made queue ticket ∨
      ((perform step world).ticketStatus ticket).departed = false)
    (kept : ∀ ticket, (world.ticketStatus ticket).departed = false →
      ((perform step world).ticketStatus ticket).departed = false) :
    (perform step world).departedPlayers = world.departedPlayers := by
  have same : (perform step world).departedTickets = world.departedTickets := by
    ext ticket
    rw [World.mem_departedTickets, World.mem_departedTickets]
    constructor
    · rintro ⟨⟨queue, late⟩, left⟩
      have stays : ¬ ((perform step world).ticketStatus ticket).departed = false :=
        ne_of_eq_of_ne left Bool.true_eq_false.mp
      refine ⟨⟨queue, (made queue ticket late).resolve_right stays⟩, ?_⟩
      by_contra waited
      exact stays (kept ticket (Bool.eq_false_iff.mpr waited))
    · rintro ⟨⟨queue, early⟩, left⟩
      exact ⟨⟨queue, perform_made early⟩, (precedes_perform step world).departed left⟩
  rw [World.departedPlayers, same, World.departedPlayers]

/-- A section that makes no ticket and changes the status of departed ones only. -/
theorem World.departedPlayers_of_kept
    (made : (perform step world).matchTickets = world.matchTickets)
    (kept : ∀ ticket, (world.ticketStatus ticket).departed = false →
      (perform step world).ticketStatus ticket = world.ticketStatus ticket) :
    (perform step world).departedPlayers = world.departedPlayers := by
  refine World.departedPlayers_eq (fun queue ticket late => Or.inl ?_) fun ticket waits => ?_
  · rwa [World.Made, made] at late
  · rw [kept ticket waits, waits]

/-- A thread that hands over no ticket does so until it makes one. -/
theorem Issues.starts_eq_none (issues : Issues deployment permits step world stage stage')
    (makes : ∀ queue worldNo request, step ≠ .newMatchTicket queue worldNo request)
    (alone : stage.starts = none) : stage'.starts = none := by
  cases issues with
  | make => exact (makes _ _ _ rfl).elim
  | neutral | unregister | forget | register | queue => exact alone
  | @assign _ queue =>
      cases queue with
      | solo => rfl
      | party => cases alone
  | partyEnqueue => cases alone
  | soloEnqueue | change =>
      split_ifs
      · rfl
      · rfl
  | _ => rfl

/-- Creating a session lets no ticket leave its queue. -/
theorem Issues.departedPlayers_of_creates
    (issues : Issues deployment permits step world stage stage')
    (taking : world.Taking issued registered queued) (creates : step.creates = true)
    (alone : stage.starts = none) :
    (perform step world).departedPlayers = world.departedPlayers := by
  cases issues with
  | neutral neutral =>
      have same := sameMatchmaking_of_neutral neutral world
      exact World.departedPlayers_of_kept same.matchTickets fun ticket _ => by
        rw [same.ticketStatus]
  | @abandon _ queue ticket base made =>
      obtain ⟨rfl, -⟩ := taking.made_iff.mp made
      cases alone
  | fail made departed =>
      refine World.departedPlayers_of_kept rfl fun ticket waits => ?_
      refine MatchTicket.changeStatus_of_ne ?_
      rintro rfl
      rw [departed] at waits
      cases waits
  | require engaged | change engaged =>
      exact World.departedPlayers_of_kept rfl fun ticket waits =>
        World.changeSessionStatus_of_not_departed engaged waits
  | forget | unregister | enter | openSession | force | insert | reject | unseat | close | hold =>
      exact World.departedPlayers_of_kept rfl fun _ _ => rfl
  | _ => cases creates

/-- A successful commit takes tickets of the group. -/
theorem Issues.claims {pointers : List (Option MatchmakingRequest)}
    (issues : Issues deployment permits (.partyCommit group pointers) world stage stage')
    (committed : (world.partyCommit group pointers).1 = true) :
    ∃ tickets : List MatchTicket,
      pointers = (tickets.map MatchTicket.matchmakingRequest).map some ∧
        ∀ ticket ∈ tickets, Carried deployment world .party group ticket := by
  cases issues with
  | neutral neutral => cases neutral
  | partyRefuse refused =>
      rw [committed] at refused
      cases refused
  | partyClaim _ carried requested => exact ⟨_, congrArg _ requested, carried⟩

/-- A commit lets the players of its tickets leave the queue. -/
theorem World.PartyHeld.departedPlayers_commit (held : world.PartyHeld deployment)
    (sound : world.Sound deployment permits) (serverIssues : ServerIssues permits)
    {tickets : List MatchTicket}
    (committed : (world.partyCommit group
      ((tickets.map MatchTicket.matchmakingRequest).map some)).1 = true)
    (carried : ∀ ticket ∈ tickets, Carried deployment world .party group ticket) :
    (MatchmakingMvp.perform (.partyCommit group
        ((tickets.map MatchTicket.matchmakingRequest).map some)) world).departedPlayers =
      world.departedPlayers +
        ((tickets.map MatchTicket.matchmakingRequest).map MatchmakingRequest.playerCount).sum := by
  obtain ⟨queued, nodup, statuses, -⟩ := held.commit sound serverIssues committed carried
  have same : (MatchmakingMvp.perform (.partyCommit group
      ((tickets.map MatchTicket.matchmakingRequest).map some)) world).departedTickets =
      world.departedTickets ∪ tickets.toFinset := by
    ext ticket
    rw [World.mem_departedTickets, statuses, Finset.mem_union, World.mem_departedTickets,
      List.mem_toFinset]
    by_cases own : ticket ∈ tickets
    · rw [moveAll_of_mem own]
      exact iff_of_true ⟨⟨_, (carried ticket own).made⟩, rfl⟩ (Or.inr own)
    · rw [moveAll_of_not_mem own, or_iff_left own]
      rfl
  have apart : Disjoint world.departedTickets tickets.toFinset := by
    refine Finset.disjoint_left.mpr fun ticket left inside => ?_
    have departed := (World.mem_departedTickets.mp left).2
    rw [queued ticket (List.mem_toFinset.mp inside)] at departed
    cases departed
  rw [World.departedPlayers, same, Finset.sum_union apart, List.sum_toFinset _ nodup, List.map_map]
  rfl

theorem formsMatch_of_creates (creates : step.creates = true) :
    formsMatch ⟨step, before, after⟩ = false := by
  cases step with
  | partyCommit => cases creates
  | _ => rfl

/-- **A step lets the players of the match it forms leave the queue.** -/
theorem Proceeds.departedPlayers (proceeds : Proceeds group step world progress progress')
    (issues : Issues deployment permits step world stage stage')
    (sound : world.Sound deployment permits) (serverIssues : ServerIssues permits)
    (held : world.PartyHeld deployment) (awaits : world.Awaits stage)
    (taking : world.Taking issued registered queued) (found : progress ≠ .lost)
    (alone : progress = .serving → stage.starts = none) :
    (perform step world).departedPlayers = world.departedPlayers +
      group.matchmakingRule.matchPlayerCount *
        formedMatches [⟨step, world, perform step world⟩] := by
  have idle : formsMatch ⟨step, world, perform step world⟩ = false →
      (perform step world).departedPlayers = world.departedPlayers →
      (perform step world).departedPlayers = world.departedPlayers +
        group.matchmakingRule.matchPlayerCount *
          formedMatches [⟨step, world, perform step world⟩] := by
    intro forms same
    simp [formedMatches, forms, same]
  cases proceeds with
  | serve creates =>
      exact idle (formsMatch_of_creates creates)
        (issues.departedPlayers_of_creates taking creates (alone rfl))
  | @commit _ requests total =>
      cases committed : (world.partyCommit group (requests.map some)).1 with
      | false =>
          refine idle committed ?_
          rw [World.partyCommit_of_refused committed]
      | true =>
          obtain ⟨tickets, same, carried⟩ := issues.claims committed
          obtain rfl := List.map_injective_iff.mpr (Option.some_injective _) same
          rw [held.departedPlayers_commit sound serverIssues committed carried, total]
          simp only [formedMatches, List.countP_singleton, formsMatch, committed, if_true,
            Nat.cast_one, mul_one]
  | check | hinder | register | reject | assign =>
      exact idle rfl (World.departedPlayers_of_kept rfl fun _ _ => rfl)
  | make =>
      refine idle rfl (World.departedPlayers_eq (fun queue ticket late => ?_) fun _ => id)
      rcases made_newMatchTicket_iff.mp late with ⟨-, rfl⟩ | early
      · right
        exact congrArg MatchTicketStatus.departed (sound.newMatchTicket_status _ _)
      · exact Or.inl early
  | @enqueue _ ticket _ _ | @refuse _ ticket _ _ =>
      obtain ⟨-, unqueued, statuses⟩ := issues.enqueues sound serverIssues held awaits
      refine idle rfl (World.departedPlayers_eq (fun _ _ => Or.inl) fun other waits => ?_)
      rw [statuses]
      by_cases own : other = ticket
      · subst own
        rw [Function.update_self]
        rfl
      · rwa [Function.update_of_ne own]
  | drift => exact (found rfl).elim

end Steps

/-! ## Runs -/

theorem Proceeds.of_serving {progress' : Progress}
    (proceeds : Proceeds group step world .serving progress') :
    progress' = .serving ∧
      (step.creates = true ∨ ∃ requests, step = .partyCommit group requests) := by
  cases proceeds with
  | serve creates => exact ⟨rfl, Or.inl creates⟩
  | commit => exact ⟨rfl, Or.inr ⟨_, rfl⟩⟩

theorem Proceeds.cancelsSettled {progress progress' : Progress}
    (proceeds : Proceeds group step world progress progress') (found : progress ≠ .lost) :
    step.cancelsSettled world = true := by
  cases proceeds with
  | serve creates =>
      cases step with
      | partyCancel => cases creates
      | _ => rfl
  | drift => exact (found rfl).elim
  | _ => rfl

/-- Submissions form no match. -/
theorem Proceeds.formsMatch_eq_false {progress progress' : Progress}
    (proceeds : Proceeds group step world progress progress') (found : progress ≠ .lost)
    (submits : progress ≠ .serving) : formsMatch ⟨step, before, after⟩ = false := by
  cases proceeds with
  | serve | commit => exact (submits rfl).elim
  | drift => exact (found rfl).elim
  | _ => rfl

theorem World.Reaches.mono {requests : List MatchTicketRequest} {progress : Progress}
    (taking : ∀ issued registered queued, before.Taking issued registered queued →
      after.Taking issued registered queued)
    (reaches : before.Reaches requests progress) : after.Reaches requests progress := by
  cases progress with
  | checking =>
      obtain ⟨done, same, held⟩ := reaches
      exact ⟨done, same, taking _ _ _ held⟩
  | made | registered =>
      obtain ⟨done, request, same, ticket, held⟩ := reaches
      exact ⟨done, request, same, ticket, taking _ _ _ held⟩
  | serving | lost => exact reaches

theorem World.Reaches.exists_taking {requests : List MatchTicketRequest} {progress : Progress}
    (reaches : world.Reaches requests progress) :
    ∃ issued registered queued, world.Taking issued registered queued := by
  cases progress with
  | checking =>
      obtain ⟨done, -, taking⟩ := reaches
      exact ⟨_, _, _, taking⟩
  | made | registered =>
      obtain ⟨done, request, -, -, taking⟩ := reaches
      exact ⟨_, _, _, taking⟩
  | serving | lost => exact reaches.elim

theorem World.Reaches.ne_lost {requests : List MatchTicketRequest} {progress : Progress}
    (reaches : world.Reaches requests progress) : progress ≠ .lost := by
  rintro rfl
  exact reaches

theorem World.Reaches.ne_serving {requests : List MatchTicketRequest} {progress : Progress}
    (reaches : world.Reaches requests progress) : progress ≠ .serving := by
  rintro rfl
  exact reaches

theorem formedMatches_concat (trace : List (Executed Section World))
    (last : Executed Section World) :
    formedMatches (trace ++ [last]) = formedMatches trace + formedMatches [last] :=
  List.countP_append

/-- The submitting thread is the last one, and all others serve the worker. -/
def Arranged (requests : List MatchTicketRequest) (trace : List (Executed Section World))
    (world : World) (stages : List (Stage × Progress)) : Prop :=
  ∃ servers submitter, stages = servers ++ [submitter] ∧
    (∀ server ∈ servers, server.1.starts = none ∧ server.2 = .serving) ∧
    world.Reaches requests submitter.2 ∧ (servers = [] → formedMatches trace = 0)

/-- What holds along the interleavings of a traffic. -/
structure Draining (deployment : Deployment) (group : WorkerGroup)
    (requests : List MatchTicketRequest) (trace : List (Executed Section World)) (world : World)
    (stages : List (Stage × Progress)) : Prop where
  settled : world.PartySettled deployment (stages.map Prod.fst : List Stage)
  consistent : world.TicketsConsistent
  accounts : world.departedPlayers =
    group.matchmakingRule.matchPlayerCount * formedMatches trace
  arranged : Arranged requests trace world stages

section Runs

variable {requests : List MatchTicketRequest} {trace : List (Executed Section World)}
  {last : Executed Section World} {stages front back : List (Stage × Progress)}
  {current current' : Stage × Progress}

theorem Arranged.of_mem (arranged : Arranged requests trace world stages)
    (inside : current ∈ stages) :
    (current.1.starts = none ∧ current.2 = .serving) ∨ world.Reaches requests current.2 := by
  obtain ⟨servers, submitter, rfl, serving, reaches, -⟩ := arranged
  rcases List.mem_append.mp inside with server | last
  · exact Or.inl (serving current server)
  · rw [List.mem_singleton.mp last]
    exact Or.inr reaches

theorem Arranged.exists_taking (arranged : Arranged requests trace world stages) :
    ∃ issued registered queued, world.Taking issued registered queued := by
  obtain ⟨_, _, -, -, reaches, -⟩ := arranged
  exact reaches.exists_taking

theorem Arranged.join (arranged : Arranged requests trace world stages) :
    Arranged requests trace world ((.free none, .serving) :: stages) := by
  obtain ⟨servers, submitter, rfl, serving, reaches, -⟩ := arranged
  exact ⟨(.free none, .serving) :: servers, submitter, rfl,
    List.forall_mem_cons.mpr ⟨⟨rfl, rfl⟩, serving⟩, reaches,
    fun empty => (List.cons_ne_nil _ _ empty).elim⟩

/-- A thread that does not serve the worker is the last one. -/
theorem Arranged.submit
    (arranged : Arranged requests trace world (front ++ current :: back))
    (submits : current.2 ≠ .serving) (reaches : after.Reaches requests current'.2)
    (unformed : formedMatches [last] = 0) :
    Arranged requests (trace ++ [last]) after (front ++ current' :: back) := by
  obtain ⟨servers, submitter, same, serving, -, idle⟩ := arranged
  rcases List.eq_nil_or_concat back with rfl | ⟨others, final, rfl⟩
  · obtain ⟨rfl, single⟩ := List.append_inj' same rfl
    refine ⟨front, current', rfl, serving, reaches, fun empty => ?_⟩
    rw [formedMatches_concat, idle empty, unformed]
  · rw [List.concat_eq_append, ← List.cons_append, ← List.append_assoc] at same
    obtain ⟨rfl, -⟩ := List.append_inj' same rfl
    exact (submits (serving current (List.mem_append_right _ List.mem_cons_self)).2).elim

/-- A thread that serves the worker is not the last one. -/
theorem Arranged.serve
    (arranged : Arranged requests trace world (front ++ current :: back))
    (serves : current.2 = .serving)
    (serves' : current'.1.starts = none ∧ current'.2 = .serving)
    (taking : ∀ issued registered queued, world.Taking issued registered queued →
      after.Taking issued registered queued) :
    Arranged requests (trace ++ [last]) after (front ++ current' :: back) := by
  obtain ⟨servers, submitter, same, serving, reaches, -⟩ := arranged
  rcases List.eq_nil_or_concat back with rfl | ⟨others, final, rfl⟩
  · obtain ⟨-, single⟩ := List.append_inj' same rfl
    obtain rfl := List.singleton_injective single
    exact (reaches.ne_serving serves).elim
  · rw [List.concat_eq_append, ← List.cons_append, ← List.append_assoc] at same
    obtain ⟨rfl, single⟩ := List.append_inj' same rfl
    obtain rfl := List.singleton_injective single
    refine ⟨front ++ current' :: others, final, by simp, fun server inside => ?_,
      reaches.mono taking, fun empty => ?_⟩
    · rcases List.mem_append.mp inside with before | after
      · exact serving server (List.mem_append_left _ before)
      · rcases List.mem_cons.mp after with rfl | later
        · exact serves'
        · exact serving server (List.mem_append_right _ (List.mem_cons_of_mem _ later))
    · exact (List.append_ne_nil_of_right_ne_nil _ (List.cons_ne_nil _ _) empty).elim

theorem Draining.initial :
    Draining deployment group requests [] {} [(.free none, .checking requests)] where
  settled := World.PartySettled.initial.join
  consistent _ := Registry.Consistent.empty _ _
  accounts := (Int.mul_zero _).symm
  arranged := by
    have taking : ({} : World).Taking [] [] [] :=
      ⟨rfl, fun _ => rfl, fun _ => rfl, rfl,
        fun _ _ found => (Option.some_ne_none _ found.symm).elim,
        fun _ inside => (List.not_mem_nil inside).elim⟩
    exact ⟨[], (.free none, .checking requests), rfl, fun _ inside =>
      (List.not_mem_nil inside).elim, ⟨[], rfl, taking⟩, fun _ => rfl⟩

theorem Draining.join (draining : Draining deployment group requests trace world stages) :
    Draining deployment group requests trace world ((.free none, .serving) :: stages) :=
  ⟨draining.settled.join, draining.consistent, draining.accounts, draining.arranged.join⟩

theorem Draining.perform
    (draining : Draining deployment group requests trace world (front ++ current :: back))
    (unnumbered : ∀ request ∈ requests, request.matchTicketId = -1)
    (fresh : (requests.flatMap fun request => request.players.elements).Nodup)
    (sound : world.Sound deployment permits) (serverIssues : ServerIssues permits)
    (issues : Issues deployment permits step world current.1 current'.1)
    (proceeds : Proceeds group step world current.2 current'.2) :
    Draining deployment group requests (trace ++ [⟨step, world, perform step world⟩])
      (MatchmakingMvp.perform step world) (front ++ current' :: back) := by
  have rotate : ∀ middle : Stage × Progress,
      (((front ++ middle :: back).map Prod.fst : List Stage) : Multiset Stage) =
        middle.1 ::ₘ ((front ++ back).map Prod.fst : List Stage) :=
    fun middle => Multiset.coe_eq_coe.mpr (List.perm_middle.map Prod.fst)
  have settled := draining.settled
  rw [rotate] at settled
  have awaits := settled.awaits current.1 (Multiset.mem_cons_self _ _)
  obtain ⟨issued, registered, queued, taking⟩ := draining.arranged.exists_taking
  have role := draining.arranged.of_mem (List.mem_append_right _ List.mem_cons_self)
  have found : current.2 ≠ .lost := by
    rcases role with ⟨-, serves⟩ | reaches
    · rw [serves]
      exact Progress.noConfusion
    · exact reaches.ne_lost
  have alone : current.2 = .serving → current.1.starts = none := fun serves =>
    role.elim And.left fun reaches => (reaches.ne_serving serves).elim
  refine ⟨?_, draining.consistent.perform step, ?_, ?_⟩
  · rw [rotate]
    exact settled.perform issues sound serverIssues (proceeds.cancelsSettled found)
  · rw [proceeds.departedPlayers issues sound serverIssues settled.held awaits taking found alone,
      draining.accounts, formedMatches_concat, Nat.cast_add, mul_add]
  · rcases role with ⟨starts, serves⟩ | reaches
    · rw [serves] at proceeds
      obtain ⟨serves', performs⟩ := proceeds.of_serving
      refine draining.arranged.serve serves ⟨issues.starts_eq_none ?_ starts, serves'⟩ ?_
      · rintro queue worldNo request rfl
        rcases performs with creates | ⟨_, commits⟩
        · cases creates
        · cases commits
      · intro issued registered queued held
        rcases performs with creates | ⟨pointers, rfl⟩
        · exact held.perform_creates creates
        · exact held.perform_partyCommit pointers
    · refine draining.arranged.submit reaches.ne_serving (proceeds.reaches issues sound
        serverIssues settled.held awaits draining.consistent unnumbered fresh reaches) ?_
      rw [formedMatches, List.countP_singleton,
        proceeds.formsMatch_eq_false found reaches.ne_serving]
      rfl

/-- The submissions hand over one ticket after another. -/
theorem adheres_submitAll {seen : World} {held : Option (MatchId × MatchSession)}
    (permitted : ∀ request ∈ requests, permits request) :
    Adheres deployment permits seen (.free held) (submitAll deployment requests)
      fun _ stage' _ => stage'.Free := by
  induction requests generalizing seen held with
  | nil => exact adheres_pure .free
  | cons request rest ih =>
      have start : Adheres deployment permits seen (.free held)
          ((Call.partyStartMatchmaking request).program deployment)
          fun _ stage' _ => stage'.Free :=
        (PartyMatchmakingManager.adheres_startMatchmaking
          (permitted request List.mem_cons_self)).bind fun _ _ _ _ free => adheres_pure free
      refine start.bind fun world stage' _ _ free => ?_
      cases free with
      | free => exact ih fun other inside => permitted other (List.mem_cons_of_mem _ inside)

/-- A request that leaves its ticket id to the server. -/
def Unnumbered (request : MatchTicketRequest) : Prop := request.matchTicketId = -1

/-- The sections of a thread between its stages and its progress. -/
def TrafficIssues (deployment : Deployment) (group : WorkerGroup) (step : Section) (world : World)
    (current next : Stage × Progress) : Prop :=
  Issues deployment Unnumbered step world current.1 next.1 ∧
    Proceeds group step world current.2 next.2

/-- The thread is done with its work, or lost. -/
def Stopped (_ : World) (stages : Stage × Progress) (_ : Unit) : Prop :=
  stages.2 = .serving ∨ stages.2 = .lost ∨ stages.2 = .checking []

theorem follows_submitAll
    (served : ∀ request ∈ requests, deployment.getWorkerGroup .party
      (request.worldNo, request.matchZoneId) = some group)
    (unnumbered : ∀ request ∈ requests, Unnumbered request)
    (admitted : ∀ request ∈ requests,
      group.matchmakingRule.combination.contains request.playerCount = true) :
    (submitAll deployment requests).Follows perform (World.Sound deployment Unnumbered)
      World.Precedes (TrafficIssues deployment group) Stopped world
      (.free none, .checking requests) :=
  Program.Follows.mono (fun _ _ _ ends => Or.inr ends.2.2)
    ((adheres_submitAll unnumbered).both (passes_submitAll served admitted))

theorem follows_workerRun {program : Operation Unit}
    (served : deployment.getWorkerGroup .party group.workerGroupKey = some group)
    (isRun : IsWorkerRun deployment group program) :
    program.Follows perform (World.Sound deployment Unnumbered) World.Precedes
      (TrafficIssues deployment group) Stopped world (.free none, .serving) := by
  have serves : Obeys (World.Sound deployment Unnumbered) (Proceeds group) world .serving program
    _ := obeys_workerRun served isRun
  obtain ⟨countOrder, order, rfl⟩ := isRun
  refine Program.Follows.mono (fun _ _ _ ends => Or.inl ends.2.2)
    (Program.Follows.both (adheres_program ?_) serves)
  nofun

/-- What holds when all submissions are in. -/
structure Submitted (deployment : Deployment) (group : WorkerGroup)
    (requests : List MatchTicketRequest) (trace : List (Executed Section World)) (world : World) :
    Prop where
  held : world.PartyHeld deployment
  taking : world.Taking requests requests requests
  accounts : world.departedPlayers =
    group.matchmakingRule.matchPlayerCount * formedMatches trace

/-- **Every submission is taken**, and the players that left the queue are those of the
matches formed. No match is formed without a run of the worker. -/
theorem TrafficRun.outcome
    (served : deployment.getWorkerGroup .party group.workerGroupKey = some group)
    (addressed : ∀ request ∈ requests,
      (request.worldNo, request.matchZoneId) = group.workerGroupKey)
    (unnumbered : ∀ request ∈ requests, Unnumbered request)
    (admitted : ∀ request ∈ requests,
      group.matchmakingRule.combination.contains request.playerCount = true)
    (fresh : (requests.flatMap fun request => request.players.elements).Nodup)
    {runs : List (Operation Unit)}
    (run : TrafficRun deployment group requests trace ⟨world, runs ++ [.done ()]⟩) :
    Submitted deployment group requests trace world ∧
      (runs = [] → formedMatches trace = 0) := by
  obtain ⟨-, -, stages, draining, follows⟩ := run.assertedInOrder
    (fun _ _ (_ _ : Stage × Progress) sound issues => Issues.sound issues.1 sound) Stopped
    (Draining deployment group requests) World.Precedes.refl (fun _ _ _ => World.Precedes.trans)
    precedes_perform World.Sound.initial
    ⟨[(.free none, .checking requests)],
      .cons (follows_submitAll (fun request inside => (addressed request inside).symm ▸ served)
        unnumbered admitted) .nil, Draining.initial⟩
    (fun program isRun => ⟨(.free none, .serving), fun _ => follows_workerRun served isRun,
      fun _ _ _ draining => draining.join⟩)
    fun _ _ _ _ _ _ _ _ sound issues _ _ draining =>
      draining.perform unnumbered fresh sound (fun _ => id) issues.1 issues.2
  obtain ⟨servers, submitter, none, rfl, serving, ⟨seen, -, stopped⟩, nothing⟩ :=
    forall₂_split follows
  cases nothing
  obtain ⟨others, last, same, -, reaches, idle⟩ := draining.arranged
  obtain ⟨rfl, single⟩ := List.append_inj' same rfl
  obtain rfl := List.singleton_injective single
  rcases stopped with serves | lost | finished
  · rw [serves] at reaches
    exact reaches.elim
  · rw [lost] at reaches
    exact reaches.elim
  · rw [finished] at reaches
    obtain ⟨done, rfl, taking⟩ := reaches
    rw [List.append_nil]
    refine ⟨⟨draining.settled.held, taking, draining.accounts⟩, fun alone => idle ?_⟩
    subst alone
    exact List.forall₂_nil_right_iff.mp serving

end Runs

end MatchmakingMvp
