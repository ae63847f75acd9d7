import MatchmakingMvp.System.CallAdherence
import MatchmakingMvp.System.StatusCustody

/-! # Statuses that last

A session and a commit change their tickets one after another, and set back those changed where a
later one refuses. Other threads act in between, but none moves these tickets, so that no status
is ever set back (`MatchmakingMvp.StatusInterleaved.forward`). Hence a ticket that has ended keeps
its status, and a ticket that was offered a match never waits or searches again
(`MatchmakingMvp.statuses_settle`). -/

namespace MatchmakingMvp

open Foundation

/-- A ticket that was offered a match or placed, or that has ended. -/
def MatchTicketStatus.offered (status : MatchTicketStatus) : Bool :=
  status == .requiresAcceptance || status == .placing || status.terminal

/-- A ticket that was offered a match is so later, or has ended. -/
theorem Advances.offered {earlier later : MatchTicketStatus} (advances : Advances earlier later)
    (offered : earlier.offered = true) : later.offered = true := by
  induction advances with
  | refl => exact offered
  | @tail middle later _ change ih =>
      revert change ih
      cases middle <;> cases later <;> decide

theorem MatchTicketStatus.ne_of_offered {status : MatchTicketStatus}
    (offered : status.offered = true) : status ≠ .queued ∧ status ≠ .searching := by
  revert offered
  cases status <;> decide

/-- What a status of a ticket says about its later statuses: where the ticket has ended it
is the same, and where the ticket was offered a match or placed the ticket neither waits
nor searches. -/
structure Settles (earlier later : MatchTicketStatus) : Prop where
  ended : earlier ∈ [.completed, .failed, .cancelled, .timedOut] → later = earlier
  offered : earlier = .requiresAcceptance ∨ earlier = .placing →
    later ≠ .queued ∧ later ≠ .searching

/-- Statuses that only advance settle. -/
theorem Advances.settles {earlier later : MatchTicketStatus} (advances : Advances earlier later) :
    Settles earlier later where
  ended ended := by
    refine advances.of_terminal ?_
    revert ended
    cases earlier <;> decide
  offered offered := by
    refine MatchTicketStatus.ne_of_offered (advances.offered ?_)
    rcases offered with rfl | rfl <;> rfl

/-- A section that sets a status back. -/
def StatusSection.forces : StatusSection → Bool
  | .forceSetStatus _ _ => true
  | _ => false

/-- No thread is astray, and every section so far has moved the statuses forward without setting
one back. -/
structure StatusState.Forward (deployment : Deployment)
    (steps : List (Executed StatusSection StatusState)) (state : StatusState)
    (stages : Multiset StatusStage) : Prop where
  upheld : ∃ known, state.Upheld deployment (fun _ => True) stages known
  passed : ∀ executed ∈ steps, executed.command.forces = false ∧
    executed.before.Precedes (performStatus executed.command executed.before)

/-- The next section of a thread. -/
theorem StatusState.Forward.next {deployment : Deployment} {step : StatusSection}
    {stage stage' : StatusStage} {others : Multiset StatusStage} {state : StatusState}
    {steps : List (Executed StatusSection StatusState)}
    (forward : StatusState.Forward deployment steps state (stage ::ₘ others))
    (issues : StatusIssues deployment (fun _ => True) step state stage stage')
    (free : step.Free state) (sound : state.world.Sound deployment fun _ => True) :
    state.Precedes (performStatus step state) ∧
      (performStatus step state).world.Sound deployment (fun _ => True) ∧
      StatusState.Forward deployment (steps ++ [⟨step, state, performStatus step state⟩])
        (performStatus step state) (stage' ::ₘ others) := by
  obtain ⟨⟨known, upheld⟩, passed⟩ := forward
  obtain ⟨precedes, sound', upheld'⟩ := upheld.perform issues free sound
  refine ⟨precedes, sound', upheld', fun executed member => ?_⟩
  rcases List.mem_append.mp member with earlier | last
  · exact passed executed earlier
  · rw [List.mem_singleton.mp last]
    refine ⟨?_, precedes⟩
    cases issues with
    | stray lost => exact (lost (upheld.agrees stage (Multiset.mem_cons_self _ _))).elim
    | _ => rfl

/-- **No status is set back.** In every interleaving every section moves the statuses forward,
and no transition comes to set back what it has changed. -/
theorem StatusInterleaved.forward {deployment : Deployment} {admissible : Call → Prop}
    {steps : List (Executed StatusSection StatusState)} {pool : Pool StatusSection StatusState}
    (execution : StatusInterleaved deployment admissible steps pool) :
    ∀ executed ∈ steps, executed.command.forces = false ∧
      executed.before.Precedes (performStatus executed.command executed.before) := by
  have permitted : ∀ (call : Call) request, call.request = some request →
      (fun _ : MatchTicketRequest => True) request := fun _ _ _ => trivial
  have follows : ∀ program, (∃ call others, admissible call ∧
      program = StatusOperation.refine others (call.program deployment)) →
      ∀ seen, Strides deployment (fun _ => True) seen (.outside (.free none)) program
        fun _ _ => True := by
    rintro program ⟨call, others, -, rfl⟩ seen
    exact strides_refine (adheres_program (permitted call)) (World.Precedes.refl _)
  have joins : ∀ steps state stages, StatusState.Forward deployment steps state stages →
      StatusState.Forward deployment steps state (.outside (.free none) ::ₘ stages) :=
    fun _ _ _ ⟨⟨known, upheld⟩, passed⟩ => ⟨⟨known, upheld.join⟩, passed⟩
  have starting : StatusState.Forward deployment [] {} 0 :=
    ⟨⟨∅, .initial⟩, fun _ member => by cases member⟩
  obtain ⟨-, -, stages, forward⟩ := execution.upheld _
    (StatusState.Forward deployment) StatusState.Precedes.refl
    (fun _ _ _ => StatusState.Precedes.trans) World.Sound.initial starting
    (fun program joined => ⟨_, follows program joined, joins⟩)
    fun _ _ _ _ _ _ sound issues free forward => forward.next issues free sound
  exact forward.passed

/-- **Statuses that last.** In every interleaving of calls whose transitions of several tickets
are performed ticket by ticket, what a ticket's status says about the later ones holds between
any state and any later one. -/
theorem statuses_settle (deployment : Deployment) (admissible : Call → Prop)
    (steps : List (Executed StatusSection StatusState)) (pool : Pool StatusSection StatusState)
    (execution : StatusInterleaved deployment admissible steps pool)
    (first second : Nat) (order : first ≤ second)
    (earlier later : Executed StatusSection StatusState)
    (atFirst : steps[first]? = some earlier) (atSecond : steps[second]? = some later)
    (ticket : MatchTicket) :
    Settles (earlier.before.world.ticketStatus ticket) (later.after.world.ticketStatus ticket) := by
  have forward : ∀ executed ∈ steps, executed.before.Precedes executed.after := by
    intro executed member
    rw [execution.after_eq executed member]
    exact (execution.forward executed member).2
  suffices earlier.before.Precedes later.after from (World.Precedes.advances this ticket).settles
  have stepped := forward earlier (List.mem_of_getElem? atFirst)
  rcases order.lt_or_eq with before | rfl
  · have moves : Execution performStatus _
        (fun command state => state.Precedes (performStatus command state)) {} steps pool :=
      execution.restrict fun executed member => (execution.forward executed member).2
    have between := moves.related_later StatusState.Precedes.refl
      (fun _ _ _ => StatusState.Precedes.trans) (fun _ _ moved => moved) before atFirst atSecond
    exact (stepped.trans between).trans (forward later (List.mem_of_getElem? atSecond))
  · cases Option.some.inj (atFirst.symm.trans atSecond)
    exact stepped

/-- While a worker matches the players 1 and 2 and player 1 declines, player 3 queues and stops:
another thread acts between the two tickets of each of the three transitions. -/
def declinedRun : List (Executed StatusSection StatusState) × Pool StatusSection StatusState :=
  Pool.follow performStatus
    (List.replicate 9 0 ++ List.replicate 9 1 ++ List.replicate 5 2 ++ List.replicate 8 3 ++
      List.replicate 18 2 ++ [3] ++ List.replicate 40 2 ++ List.replicate 14 4 ++
      List.replicate 4 5 ++ List.replicate 10 4)
    ⟨{}, [.partyStartMatchmaking (soleRequest 1), .partyStartMatchmaking (soleRequest 2),
      solePartyWorkerRun, .partyStartMatchmaking (soleRequest 3),
      .acceptMatchSession { playerKey := 1, isAccept := false }, .partyStopMatchmaking 3].map
        fun call : Call => StatusOperation.refine (fun _ _ => {}) (call.program pairDeployment)⟩

/-- The ticket of player 2. -/
def otherTicket : MatchTicket := ⟨1, { soleRequest 2 with matchTicketId := 1001 }, 0⟩

/-- No section of the run waits for a mutex that another thread holds. -/
theorem declinedRun_interleaved :
    StatusInterleaved pairDeployment (fun _ => True) declinedRun.1 declinedRun.2 := by
  have free : ∀ executed ∈ declinedRun.1, executed.command.Free executed.before := by
    decide +kernel
  refine Execution.restrict (Execution.play (fun program inside => ?_) _) free
  obtain ⟨call, -, rfl⟩ := List.mem_map.mp inside
  exact ⟨call, _, trivial, rfl⟩

/-- Where the ticket of player 1 was offered a match before the other it never waits again, and
where it failed before the other it stays failed. -/
theorem statuses_settle_declined : ∃ offered ended last : Executed StatusSection StatusState,
    declinedRun.1[49]? = some offered ∧ declinedRun.1[75]? = some ended ∧
      declinedRun.1[82]? = some last ∧
      (offered.before.world.ticketStatus (soleTicket 1) = .requiresAcceptance ∧
        offered.before.world.ticketStatus otherTicket = .searching) ∧
      (ended.before.world.ticketStatus (soleTicket 1) = .failed ∧
        ended.before.world.ticketStatus otherTicket = .requiresAcceptance) ∧
      (last.after.world.ticketStatus (soleTicket 1) ≠ .queued ∧
        last.after.world.ticketStatus (soleTicket 1) ≠ .searching) ∧
      last.after.world.ticketStatus (soleTicket 1) = .failed := by
  have atOffered : declinedRun.1[49]? = some (declinedRun.1.get ⟨49, by decide +kernel⟩) :=
    List.getElem?_eq_some_iff.mpr ⟨by decide +kernel, rfl⟩
  have atEnded : declinedRun.1[75]? = some (declinedRun.1.get ⟨75, by decide +kernel⟩) :=
    List.getElem?_eq_some_iff.mpr ⟨by decide +kernel, rfl⟩
  have atLast : declinedRun.1[82]? = some (declinedRun.1.get ⟨82, by decide +kernel⟩) :=
    List.getElem?_eq_some_iff.mpr ⟨by decide +kernel, rfl⟩
  have offered : (declinedRun.1.get ⟨49, by decide +kernel⟩).before.world.ticketStatus
      (soleTicket 1) = .requiresAcceptance := by decide +kernel
  have failed : (declinedRun.1.get ⟨75, by decide +kernel⟩).before.world.ticketStatus
      (soleTicket 1) = .failed := by decide +kernel
  have fromOffered := statuses_settle _ _ _ _ declinedRun_interleaved 49 82 (by decide) _ _
    atOffered atLast (soleTicket 1)
  have fromEnded := statuses_settle _ _ _ _ declinedRun_interleaved 75 82 (by decide) _ _
    atEnded atLast (soleTicket 1)
  rw [offered] at fromOffered
  rw [failed] at fromEnded
  exact ⟨_, _, _, atOffered, atEnded, atLast, ⟨offered, by decide +kernel⟩,
    ⟨failed, by decide +kernel⟩, fromOffered.offered (Or.inl rfl), fromEnded.ended (by decide)⟩

end MatchmakingMvp
