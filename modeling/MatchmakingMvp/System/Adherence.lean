import MatchmakingMvp.System.Following
import MatchmakingMvp.System.Soundness
import MatchmakingMvp.Worker.Candidates

/-! # The programs follow the stages

Every program of a call performs its sections as `MatchmakingMvp.Issues` says
(`MatchmakingMvp.adheres_program`). The facts a program relies on are those it
read itself, which later states keep because they come after.
-/

namespace MatchmakingMvp

open Foundation

variable (deployment : Deployment) (permits : MatchTicketRequest → Prop)

/-- Seen from a state and a stage, the operation follows the stages and ends as
the postcondition says. -/
def Adheres {Result : Type} (seen : World) (stage : Stage) (operation : Operation Result)
    (post : World → Stage → Result → Prop) : Prop :=
  operation.Follows perform (World.Sound deployment permits) World.Precedes
    (Issues deployment permits) (fun world stage result => seen.Precedes world ∧
      post world stage result) seen stage

inductive Stage.Free : Stage → Prop
  | free {held} : Free (.free held)

/-- The thread has no ticket or session in hand. -/
inductive Stage.Idle : Stage → Prop
  | free {stage} (free : stage.Free) : Idle stage
  | failed : Idle (.failing [])
  | nothing {queue group} : Idle (.claimed queue group [])

variable {deployment permits} {seen : World} {stage : Stage} {First Second : Type}

theorem adheres_pure {result : First} {post : World → Stage → First → Prop}
    (holds : post seen stage result) :
    Adheres deployment permits seen stage (pure result) post :=
  obeys_pure holds

theorem Adheres.bind {middle : World → Stage → First → Prop}
    {post : World → Stage → Second → Prop} {operation : Operation First}
    {continuation : First → Operation Second}
    (first : Adheres deployment permits seen stage operation middle)
    (second : ∀ world stage result, seen.Precedes world → middle world stage result →
      Adheres deployment permits world stage (continuation result) post) :
    Adheres deployment permits seen stage (operation >>= continuation) post :=
  Obeys.bind first second

/-- `Adheres.bind` with what holds between the two operations given first. -/
theorem Adheres.via (middle : World → Stage → First → Prop)
    {post : World → Stage → Second → Prop} {operation : Operation First}
    {continuation : First → Operation Second}
    (first : Adheres deployment permits seen stage operation middle)
    (second : ∀ world stage result, seen.Precedes world → middle world stage result →
      Adheres deployment permits world stage (continuation result) post) :
    Adheres deployment permits seen stage (operation >>= continuation) post :=
  Obeys.via middle first second

theorem Adheres.mono {stronger weaker : World → Stage → First → Prop}
    {operation : Operation First}
    (adheres : Adheres deployment permits seen stage operation stronger)
    (implies : ∀ world stage result, seen.Precedes world → stronger world stage result →
      weaker world stage result) :
    Adheres deployment permits seen stage operation weaker :=
  Obeys.mono adheres implies

theorem adheres_atomically {step : Section} {reading : World → First}
    {post : World → Stage → First → Prop}
    (issues : ∀ world, seen.Precedes world → world.Sound deployment permits →
      ∃ stage', Issues deployment permits step world stage stage' ∧
        post (perform step world) stage' (reading world)) :
    Adheres deployment permits seen stage (Program.atomically step reading) post :=
  obeys_atomically issues

theorem adheres_readWorld {reading : World → First} {post : World → Stage → First → Prop}
    (reads : ∀ world, seen.Precedes world → world.Sound deployment permits →
      post world stage (reading world)) :
    Adheres deployment permits seen stage (readWorld reading) post :=
  adheres_atomically fun world precedes sound =>
    ⟨stage, .neutral rfl, reads world precedes sound⟩

theorem Neutral.adheres {operation : Operation First} (neutral : Neutral operation) :
    Adheres deployment permits seen stage operation fun _ stage' _ => stage' = stage :=
  obeys_of_everywhere (fun _ _ => .neutral) neutral

/-! ## Tickets in the managers' maps -/

namespace MatchmakingManager

/-- A ticket found in a manager's map was made by it for one of its groups. -/
def Found (deployment : Deployment) (queue : QueueKind) (world : World)
    (found : Option MatchTicket) : Prop :=
  ∀ ticket, found = some ticket → world.Made queue ticket ∧
    ∃ group, deployment.getWorkerGroup queue ticket.matchingGroupKey = some group

theorem adheres_findMatchTicket (queue : QueueKind) (matchTicketId : MatchTicketId) :
    Adheres deployment permits seen stage (findMatchTicket queue matchTicketId)
      fun world stage' found => stage' = stage ∧ Found deployment queue world found :=
  adheres_readWorld fun _ _ sound => ⟨rfl, fun _ found => sound.registered _ _ _ found⟩

theorem adheres_findMatchTicketByPlayerKey (queue : QueueKind) (playerKey : PlayerKey) :
    Adheres deployment permits seen stage (findMatchTicketByPlayerKey queue playerKey)
      fun world stage' found => stage' = stage ∧ Found deployment queue world found := by
  refine (neutral_readWorld _).adheres.bind fun world stage' owner precedes same => ?_
  cases same
  cases owner with
  | none => exact adheres_pure ⟨rfl, nofun⟩
  | some matchTicketId => exact adheres_findMatchTicket queue matchTicketId

/-- A ticket that left its queue may be forgotten by any manager. -/
theorem adheres_eraseMatchTicket {owner : QueueKind} {ticket : MatchTicket}
    (made : seen.Made owner ticket) (departed : (seen.ticketStatus ticket).departed = true)
    (queue : QueueKind) :
    Adheres deployment permits seen stage (eraseMatchTicket queue ticket.matchTicketId)
      fun _ stage' _ => stage' = stage :=
  adheres_atomically fun _ precedes _ =>
    ⟨stage, .forget (precedes.made made) (precedes.departed departed), rfl⟩

theorem adheres_onFailedMatchmaking {owner : QueueKind} {ticket : MatchTicket}
    {rest : List MatchTicket} (made : seen.Made owner ticket)
    (departed : (seen.ticketStatus ticket).departed = true) (queue : QueueKind) :
    Adheres deployment permits seen (.failing (ticket :: rest)) (onFailedMatchmaking queue ticket)
      fun _ stage' _ => stage' = .failing rest := by
  refine Adheres.via (fun _ stage' _ => stage' = .failing rest)
    (adheres_atomically fun world precedes _ =>
      ⟨_, .fail (precedes.made made) (precedes.departed departed), rfl⟩)
    fun world stage' changed precedes same => ?_
  subst same
  split_ifs
  · exact adheres_pure rfl
  · exact (adheres_eraseMatchTicket (precedes.made made) (precedes.departed departed) queue).bind
      fun _ _ _ _ same => adheres_pure same

end MatchmakingManager

/-- Failing the tickets one after another. -/
theorem adheres_forAll_failing {owner : QueueKind} {tickets : List MatchTicket}
    (queue : MatchTicket → QueueKind) (made : ∀ ticket ∈ tickets, seen.Made owner ticket)
    (departed : ∀ ticket ∈ tickets, (seen.ticketStatus ticket).departed = true) :
    Adheres deployment permits seen (.failing tickets)
      (forAll tickets fun ticket => MatchmakingManager.onFailedMatchmaking (queue ticket) ticket)
      fun _ stage' _ => stage' = .failing [] := by
  induction tickets generalizing seen with
  | nil => exact adheres_pure rfl
  | cons ticket rest ih =>
      refine (MatchmakingManager.adheres_onFailedMatchmaking (made _ List.mem_cons_self)
        (departed _ List.mem_cons_self) _).bind fun world stage' _ precedes same => ?_
      subst same
      exact ih (fun other inside => precedes.made (made other (List.mem_cons_of_mem _ inside)))
        fun other inside => precedes.departed (departed other (List.mem_cons_of_mem _ inside))

/-! ## Sessions -/

namespace MatchSessionManager

variable {held : Option (MatchId × MatchSession)} {session : MatchSession}

/-- The tickets of the session have left their queues. -/
def Seated (world : World) (session : MatchSession) : Prop :=
  ∀ ticket ∈ session.tickets, (world.ticketStatus ticket).engaged = true

theorem Seated.mono {before after : World} (seated : Seated before session)
    (precedes : before.Precedes after) : Seated after session :=
  fun ticket inside => precedes.engaged (seated ticket inside)

/-- The thread holds the session it found, if any. -/
def Holding (matchId : MatchId) (world : World) (stage : Stage) (found : Option MatchSession) :
    Prop :=
  match found with
  | none => ∃ held, stage = .free held
  | some session => stage = .free (some (matchId, session)) ∧ Seated world session

theorem adheres_findMatchSession (matchId : MatchId) :
    Adheres deployment permits seen (.free held) (findMatchSession matchId) (Holding matchId) := by
  refine adheres_atomically fun world precedes sound => ?_
  cases found : world.matchSessions.items matchId with
  | none => exact ⟨_, .neutral rfl, held, rfl⟩
  | some session => exact ⟨_, .hold found, rfl, sound.seated _ _ found⟩

theorem adheres_findMatchSessionByPlayerKey (playerKey : PlayerKey) :
    Adheres deployment permits seen (.free held) (findMatchSessionByPlayerKey playerKey)
      fun _ stage' _ => ∃ held, stage' = .free held := by
  refine (neutral_readWorld _).adheres.bind fun world stage' owner _ same => ?_
  subst same
  cases owner with
  | none => exact adheres_pure ⟨held, rfl⟩
  | some matchId =>
      refine (adheres_findMatchSession matchId).mono fun _ _ found _ holding => ?_
      cases found with
      | none => exact holding
      | some session => exact ⟨_, holding.1⟩

theorem adheres_changeStatus {matchId : MatchId} {status : MatchTicketStatus}
    (seated : Seated seen session) (target : status = .placing ∨ status.terminal = true) :
    Adheres deployment permits seen (.free (some (matchId, session))) (changeStatus session status)
      fun _ stage' changed => stage' =
        if status.terminal ∧ changed then .closing matchId session else .free none :=
  adheres_atomically fun _ precedes _ => ⟨_, .change (seated.mono precedes) target, rfl⟩

theorem adheres_eraseMatchSession {matchId : MatchId} :
    Adheres deployment permits seen (.closing matchId session) (eraseMatchSession matchId)
      fun _ stage' _ => stage' = .free none :=
  adheres_atomically fun _ _ _ => ⟨_, .close, rfl⟩

/-- Close a session if it can change to a terminal status. -/
theorem adheres_conclude {matchId : MatchId} {status : MatchTicketStatus}
    (seated : Seated seen session) (terminal : status.terminal = true)
    {otherwise : Operation Unit}
    (adheres : ∀ world, Adheres deployment permits world (.free none) otherwise
      fun _ stage' _ => stage'.Free) :
    Adheres deployment permits seen (.free (some (matchId, session)))
      (do
        if (← changeStatus session status) = false then
          otherwise
        else
          let _ ← eraseMatchSession matchId)
      fun _ stage' _ => stage'.Free := by
  refine (adheres_changeStatus seated (Or.inr terminal)).bind fun world stage' changed _ same => ?_
  subst same
  cases changed with
  | false => simpa [terminal] using adheres world
  | true =>
      simp only [terminal, and_self, if_true, reduceCtorEq, if_false]
      exact adheres_eraseMatchSession.bind fun _ _ _ _ same => adheres_pure (same ▸ .free)

theorem adheres_onFailedMatchSession (matchId : MatchId) :
    Adheres deployment permits seen (.free held) (onFailedMatchSession matchId)
      fun _ stage' _ => stage'.Free := by
  refine (adheres_findMatchSession matchId).bind fun world stage' found _ holding => ?_
  cases found with
  | none =>
      obtain ⟨held, rfl⟩ := holding
      exact adheres_pure .free
  | some session =>
      obtain ⟨rfl, seated⟩ := holding
      exact adheres_conclude seated rfl fun _ => adheres_pure .free

/-- Both timeouts close a session that still has the expected status. -/
private theorem adheres_timeOut (matchId : MatchId) (expected : MatchTicketStatus) :
    Adheres deployment permits seen (.free held)
      (do
        match ← findMatchSession matchId with
        | none => return ()
        | some session =>
            if (← getStatus session) ≠ expected then
              return ()
            if (← changeStatus session .timedOut) = false then
              return ()
            let _ ← eraseMatchSession matchId)
      fun _ stage' _ => stage'.Free := by
  refine (adheres_findMatchSession matchId).bind fun world stage' found _ holding => ?_
  cases found with
  | none =>
      obtain ⟨held, rfl⟩ := holding
      exact adheres_pure .free
  | some session =>
      obtain ⟨rfl, seated⟩ := holding
      refine (neutral_readWorld _).adheres.bind fun world stage' status precedes same => ?_
      subst same
      split_ifs
      · exact adheres_pure .free
      · exact adheres_conclude (seated.mono precedes) rfl fun _ => adheres_pure .free

theorem adheres_onTimeOutAcceptMatchSession (matchId : MatchId) :
    Adheres deployment permits seen (.free held) (onTimeOutAcceptMatchSession matchId)
      fun _ stage' _ => stage'.Free :=
  adheres_timeOut matchId .requiresAcceptance

theorem adheres_onTimeOutPlaceMatchSession (matchId : MatchId) :
    Adheres deployment permits seen (.free held) (onTimeOutPlaceMatchSession matchId)
      fun _ stage' _ => stage'.Free :=
  adheres_timeOut matchId .placing

theorem neutral_doAsyncJob (executeTimeMsec : Int) (job : SessionJob) :
    Neutral (doAsyncJob executeTimeMsec job) :=
  neutral_atomically rfl _

theorem adheres_placeMatchSession (matchId : MatchId) :
    Adheres deployment permits seen (.free held) (placeMatchSession matchId)
      fun _ stage' _ => stage'.Free := by
  refine (adheres_findMatchSession matchId).bind fun world stage' found _ holding => ?_
  cases found with
  | none =>
      obtain ⟨held, rfl⟩ := holding
      exact adheres_pure .free
  | some session =>
      obtain ⟨rfl, seated⟩ := holding
      refine (neutral_readWorld _).adheres.bind fun world stage' status precedes same => ?_
      subst same
      split_ifs
      · exact adheres_pure .free
      · refine (adheres_changeStatus (seated.mono precedes) (Or.inl rfl)).bind
          fun world stage' changed _ same => ?_
        have free : stage' = .free none := by
          simpa [MatchTicketStatus.terminal] using same
        subst free
        split_ifs
        · exact (adheres_onFailedMatchSession _).bind fun _ _ _ _ free => adheres_pure free
        · have schedules : Neutral (do
              let currTimeMsec ← timeMsec
              doAsyncJob (currTimeMsec + kPlaceTimeoutMsec) (.timeOutPlace matchId)
              let players ← readWorld fun world => (world.sessionState session).players
              doAsyncJob (currTimeMsec + kDemoCompletionDelayMsec)
                (.complete
                  { matchId := matchId
                    zoneGuid := matchId
                    zoneId := session.matchZoneId
                    worldNo := session.matchWorldNo
                    worldSessionKey := matchId
                    players := players })) :=
            (neutral_readWorld _).bind fun _ => (neutral_doAsyncJob _ _).bind fun _ =>
              (neutral_readWorld _).bind fun _ => neutral_doAsyncJob _ _
          exact schedules.adheres.mono fun _ _ _ _ same => same ▸ .free

theorem adheres_acceptMatchSession (acceptInfo : PlayerMatchAcceptInfo) :
    Adheres deployment permits seen (.free held) (acceptMatchSession acceptInfo)
      fun _ stage' _ => stage'.Free := by
  refine (adheres_findMatchSessionByPlayerKey _).bind fun world stage' found _ free => ?_
  obtain ⟨held, rfl⟩ := free
  cases found with
  | none => exact adheres_pure .free
  | some session =>
      refine (neutral_readWorld _).adheres.bind fun world stage' allAccept _ same => ?_
      subst same
      split
      · exact adheres_pure .free
      refine (neutral_readWorld _).adheres.bind fun world stage' status _ same => ?_
      subst same
      split
      · exact adheres_pure .free
      refine (neutral_atomically rfl _).adheres.bind fun world stage' accepted _ same => ?_
      subst same
      split
      · exact adheres_pure .free
      split
      · refine (neutral_readWorld _).adheres.bind fun world stage' now _ same => ?_
        subst same
        refine (MatchPenaltyManager.neutral_addDodgePenalty _ _).adheres.bind
          fun world stage' _ _ same => ?_
        subst same
        exact (adheres_onFailedMatchSession _).bind fun _ _ _ _ free => adheres_pure free
      · refine (neutral_readWorld _).adheres.bind fun world stage' allAccept _ same => ?_
        subst same
        split
        · exact adheres_placeMatchSession _
        · exact adheres_pure .free

theorem adheres_onCompleteMatchSession (info : IntegrationZoneInstanceInfo) (success : Bool) :
    Adheres deployment permits seen (.free held) (onCompleteMatchSession info success)
      fun _ stage' _ => stage'.Free := by
  rw [onCompleteMatchSession]
  split_ifs
  · exact (adheres_onFailedMatchSession _).bind fun _ _ _ _ free => adheres_pure free
  · refine (adheres_findMatchSession _).bind fun world stage' found _ holding => ?_
    cases found with
    | none =>
        obtain ⟨held, rfl⟩ := holding
        exact adheres_onFailedMatchSession _
    | some session =>
        obtain ⟨rfl, seated⟩ := holding
        refine (IntegrationZoneInstanceManager.neutral_insert _).adheres.bind
          fun world stage' zone precedes same => ?_
        subst same
        cases zone with
        | none => exact adheres_onFailedMatchSession _
        | some zone =>
            refine adheres_conclude (seated.mono precedes) rfl fun _ => ?_
            refine (IntegrationZoneInstanceManager.neutral_erase _).adheres.bind
              fun _ _ _ _ same => ?_
            subst same
            exact (adheres_onFailedMatchSession _).bind fun _ _ _ _ free => adheres_pure free

theorem neutral_scheduleAutoAccepts (order : Int) (players : List PlayerKey) :
    Neutral (scheduleAutoAccepts order players) := by
  induction players generalizing order with
  | nil => trivial
  | cons playerKey rest ih =>
      exact (neutral_readWorld _).bind fun _ => (neutral_doAsyncJob _ _).bind fun _ => ih _

/-- Telling the managers that the tickets belong to a session. -/
theorem adheres_expireAll {owner : QueueKind} {tickets : List MatchTicket}
    (made : ∀ ticket ∈ tickets, seen.Made owner ticket)
    (departed : ∀ ticket ∈ tickets, (seen.ticketStatus ticket).departed = true) :
    Adheres deployment permits seen stage (forAll tickets expireMatchmakingOwnership)
      fun _ stage' _ => stage' = stage := by
  induction tickets generalizing seen with
  | nil => exact adheres_pure rfl
  | cons ticket rest ih =>
      refine Adheres.via (fun _ stage' _ => stage' = stage)
        ((MatchmakingManager.adheres_eraseMatchTicket (made _ List.mem_cons_self)
          (departed _ List.mem_cons_self) _).bind fun _ _ _ _ same => adheres_pure same)
        fun world stage' _ precedes same => ?_
      subst same
      exact ih (fun other inside => precedes.made (made other (List.mem_cons_of_mem _ inside)))
        fun other inside => precedes.departed (departed other (List.mem_cons_of_mem _ inside))

section Creation

variable {queue : QueueKind} {group : WorkerGroup} {tickets : TicketSet}

/-- The end of a creation whose session was registered. -/
private theorem adheres_registered {session : MatchSession} {matchId : MatchId}
    (contains : session.tickets = tickets.1)
    (made : ∀ ticket ∈ tickets.1, seen.Made queue ticket)
    (engaged : ∀ ticket ∈ tickets.1, (seen.ticketStatus ticket).engaged = true) :
    Adheres deployment permits seen (.inserted queue group session)
      (do
        if (← changeStatus session .requiresAcceptance) = false then
          onFailedMatchSession matchId
          return ()
        forAll tickets.1 expireMatchmakingOwnership
        let now ← timeMsec
        doAsyncJob (now + kAcceptTimeoutMsec) (.timeOutAccept matchId)
        scheduleAutoAccepts 0 session.ticketPlayers)
      fun _ stage' _ => stage'.Idle := by
  refine Adheres.via (fun _ stage' _ => stage' = .free none)
    (adheres_atomically fun world precedes _ => ⟨_, .require fun ticket inside =>
      precedes.engaged (engaged ticket (contains ▸ inside)), rfl⟩)
    fun world stage' changed precedes same => ?_
  subst same
  split
  · exact (adheres_onFailedMatchSession _).bind fun _ _ _ _ free => adheres_pure (.free free)
  · refine (adheres_expireAll (fun ticket inside => precedes.made (made ticket inside))
      fun ticket inside => MatchTicketStatus.departed_of_engaged
        (precedes.engaged (engaged ticket inside))).bind fun world stage' _ _ same => ?_
    subst same
    have schedules : Neutral (do
        let now ← timeMsec
        doAsyncJob (now + kAcceptTimeoutMsec) (.timeOutAccept matchId)
        scheduleAutoAccepts 0 session.ticketPlayers) :=
      (neutral_readWorld _).bind fun _ => (neutral_doAsyncJob _ _).bind fun _ =>
        neutral_scheduleAutoAccepts _ _
    exact schedules.adheres.mono fun _ _ _ _ same => same ▸ .free .free

/-- The end of a creation whose session was rejected. -/
private theorem adheres_rejected {first : MatchTicket} (head : tickets.1.head? = some first)
    (made : ∀ ticket ∈ tickets.1, seen.Made queue ticket)
    (engaged : ∀ ticket ∈ tickets.1, (seen.ticketStatus ticket).engaged = true) :
    Adheres deployment permits seen (.failing tickets.1)
      (do
        let _ ← eraseMatchSession first.matchTicketId
        forAll tickets.1 notifyMatchmakingFailure
        return ())
      fun _ stage' _ => stage'.Idle := by
  refine Adheres.via (fun _ stage' _ => stage' = .failing tickets.1)
    (adheres_atomically fun world precedes _ =>
      ⟨_, .unseat (List.mem_of_mem_head? head), rfl⟩)
    fun world stage' _ precedes same => ?_
  subst same
  refine (adheres_forAll_failing MatchTicket.presumedQueue
    (fun ticket inside => precedes.made (made ticket inside))
    fun ticket inside => MatchTicketStatus.departed_of_engaged
      (precedes.engaged (engaged ticket inside))).bind fun _ _ _ _ same => ?_
  subst same
  exact adheres_pure .failed

theorem adheres_createMatchSession
    (served : deployment.getWorkerGroup queue group.workerGroupKey = some group)
    (fills : Fills group tickets.1) (made : ∀ ticket ∈ tickets.1, seen.Made queue ticket)
    (engaged : ∀ ticket ∈ tickets.1, (seen.ticketStatus ticket).engaged = true) :
    Adheres deployment permits seen (.claimed queue group tickets.1)
      (createMatchSession group.workerGroupKey tickets) fun _ stage' _ => stage'.Idle := by
  have integrated := Deployment.integrated_of_getWorkerGroup served
  refine Adheres.via (fun _ stage' _ => stage' = .claimed queue group tickets.1)
    (adheres_atomically fun world precedes _ => ⟨_, .enter fills
      (fun ticket inside => precedes.made (made ticket inside))
      fun ticket inside => precedes.engaged (engaged ticket inside), rfl⟩)
    fun entered stage' _ untilEntered same => ?_
  subst same
  cases head : tickets.1.head? with
  | none =>
      rw [List.head?_eq_none_iff.mp head]
      exact adheres_pure .nothing
  | some first =>
      have nonempty : tickets.1 ≠ [] := List.ne_nil_of_mem (List.mem_of_mem_head? head)
      refine Adheres.via (fun _ stage' number =>
          stage' = .claimed queue group tickets.1 ∧ number = some group.workerGroupKey.1)
        (adheres_atomically fun world _ _ => ⟨_, .neutral rfl, rfl, if_pos integrated⟩)
        fun numbered stage' number untilNumbered same => ?_
      obtain ⟨rfl, rfl⟩ := same
      simp only [if_neg (ne_neg_one_of_integrated integrated)]
      refine Adheres.via (fun _ stage' session =>
          stage' = .opened queue group session false ∧ session.tickets = tickets.1)
        (adheres_atomically fun world _ _ => ⟨_, .openSession (by rw [head]; rfl), rfl,
          world.newMatchSession_tickets ..⟩)
        fun opened stage' session untilOpened same => ?_
      obtain ⟨rfl, contains⟩ := same
      refine Adheres.via (fun _ stage' _ => stage' = .opened queue group session true)
        (adheres_atomically fun world _ _ => ⟨_, .force, rfl⟩)
        fun forced stage' _ untilForced same => ?_
      subst same
      have precedes := ((untilEntered.trans untilNumbered).trans untilOpened).trans untilForced
      refine Adheres.via (fun _ stage' inserted => stage' =
          if inserted = true then .inserted queue group session else .failing tickets.1)
        (adheres_atomically fun world later _ => ?_) fun world stage' inserted later same => ?_
      · cases inserted : (world.matchSessions.insertMatchSession session).1 with
        | true => exact ⟨_, .insert served (contains ▸ nonempty) (contains ▸ fills)
            (fun ticket inside => (precedes.trans later).made (made ticket (contains ▸ inside)))
            (fun ticket inside =>
              (precedes.trans later).engaged (engaged ticket (contains ▸ inside))) inserted, rfl⟩
        | false => exact ⟨_, .reject inserted, by simp [contains]⟩
      · subst same
        have made' : ∀ ticket ∈ tickets.1, world.Made queue ticket :=
          fun ticket inside => (precedes.trans later).made (made ticket inside)
        have engaged' : ∀ ticket ∈ tickets.1, (world.ticketStatus ticket).engaged = true :=
          fun ticket inside => (precedes.trans later).engaged (engaged ticket inside)
        cases inserted with
        | true => exact adheres_registered contains made' engaged'
        | false => exact adheres_rejected head made' engaged'

end Creation

end MatchSessionManager

end MatchmakingMvp
