import MatchmakingMvp.System.Effects

/-! # Operations that leave tickets and sessions alone

The operations of the penalty and zone managers perform neutral sections only. -/

namespace MatchmakingMvp

open Foundation

/-- The operation performs neutral sections only. -/
abbrev Neutral {Result : Type} (operation : Operation Result) : Prop :=
  operation.Everywhere fun step => step.neutral = true

/-- A reading leaves matchmaking alone. -/
theorem neutral_readWorld {Result : Type} (reading : World → Result) :
    Neutral (readWorld reading) := ⟨rfl, fun _ => trivial⟩

/-- An operation of one neutral section. -/
theorem neutral_atomically {Result : Type} {step : Section} (neutral : step.neutral = true)
    (reading : World → Result) : Neutral (Program.atomically step reading) :=
  ⟨neutral, fun _ => trivial⟩

/-- A loop of operations that leave matchmaking alone. -/
theorem neutral_forAll {Element : Type} {elements : List Element}
    {operation : Element → Operation Unit} (neutral : ∀ element, Neutral (operation element)) :
    Neutral (forAll elements operation) := by
  induction elements with
  | nil => trivial
  | cons element rest ih => exact (neutral element).bind fun _ => ih

namespace MatchPenaltyManager

/-- Penalties are no part of matchmaking. -/
theorem neutral_addDodgePenalty (playerKey : PlayerKey) (penaltyExpireTimeMsec : Int) :
    Neutral (addDodgePenalty playerKey penaltyExpireTimeMsec) :=
  ⟨rfl, fun _ => ⟨rfl, fun _ => trivial⟩⟩

/-- The deferred job of a penalty clears nothing but the penalty. -/
theorem neutral_expireDodgePenalty (playerKey : PlayerKey) :
    Neutral (expireDodgePenalty playerKey) := by
  refine (neutral_readWorld _).bind fun found => ?_
  cases found with
  | none => trivial
  | some penaltyExpireTimeMsec =>
      refine (neutral_readWorld _).bind fun now => ?_
      split_ifs
      · exact neutral_atomically rfl _
      · trivial

/-- The look at the penalties of some players, by induction over them. -/
theorem neutral_hasDodgePenaltyAt (currTimeMsec : Int) (players : List PlayerKey) :
    Neutral (hasDodgePenaltyAt currTimeMsec players) := by
  induction players with
  | nil => trivial
  | cons playerKey rest ih =>
      refine (neutral_readWorld _).bind fun found => ?_
      cases found with
      | none => exact ih
      | some penaltyExpireTimeMsec =>
          simp only
          split_ifs
          · trivial
          · exact ih

/-- The look at the penalties of a request. -/
theorem neutral_hasDodgePenalty (request : MatchTicketRequest) :
    Neutral (hasDodgePenalty request) :=
  (neutral_readWorld _).bind fun _ => neutral_hasDodgePenaltyAt _ _

end MatchPenaltyManager

namespace IntegrationZoneInstanceManager

/-- Zones are no part of matchmaking. -/
theorem neutral_erase (key : IntegrationZoneInstanceKey) : Neutral (erase key) :=
  neutral_atomically rfl _

/-- The look for a player's zone. -/
theorem neutral_findByPlayerKey (playerKey : PlayerKey) : Neutral (findByPlayerKey playerKey) := by
  refine (neutral_readWorld _).bind fun found => ?_
  cases found with
  | none => trivial
  | some key => exact neutral_readWorld _

/-- The insertion of a zone, accepted or refused. -/
theorem neutral_insert (info : Option IntegrationZoneInstanceInfo) : Neutral (insert info) := by
  cases info with
  | none => trivial
  | some info =>
      refine (neutral_atomically rfl _).bind fun zone => ?_
      refine (neutral_atomically rfl _).bind fun inserted => ?_
      split_ifs
      · exact (neutral_erase _).bind fun _ => trivial
      · refine (neutral_readWorld _).bind fun _ => ?_
        exact (neutral_atomically rfl _).bind fun _ => trivial

/-- A player leaves its zone, which may end. -/
theorem neutral_eraseByPlayerKey (playerKey : PlayerKey) :
    Neutral (eraseByPlayerKey playerKey) := by
  refine (neutral_findByPlayerKey playerKey).bind fun found => ?_
  cases found with
  | none => trivial
  | some zone =>
      refine (neutral_atomically rfl _).bind fun _ => ?_
      refine (neutral_readWorld _).bind fun empty => ?_
      split_ifs
      · refine (neutral_erase _).bind fun _ => ?_
        exact (neutral_atomically rfl _).bind fun _ => trivial
      · exact (neutral_atomically rfl _).bind fun _ => trivial

/-- A server that closes schedules a job. -/
theorem neutral_processIntegrationServerClosed (sessionKey worldNo : Int) :
    Neutral (processIntegrationServerClosed sessionKey worldNo) :=
  (neutral_readWorld _).bind fun _ => neutral_atomically rfl _

/-- The job of a closed server erases zones. -/
theorem neutral_processIntegrationServerClosedAsync (sessionKey worldNo : Int) :
    Neutral (processIntegrationServerClosedAsync sessionKey worldNo) := by
  refine (neutral_readWorld _).bind fun zones => neutral_forAll fun zone => ?_
  split_ifs
  · trivial
  · trivial
  · exact (neutral_erase _).bind fun _ => trivial
  · trivial

/-- The job of a zone erases it or is scheduled again. -/
theorem neutral_processZoneInstanceExpireAsync (key : IntegrationZoneInstanceKey) :
    Neutral (processZoneInstanceExpireAsync key) := by
  refine (neutral_readWorld _).bind fun found => ?_
  cases found with
  | none => trivial
  | some zone =>
      refine (neutral_readWorld _).bind fun _ => ?_
      refine (neutral_readWorld _).bind fun _ => ?_
      split_ifs
      · exact (neutral_readWorld _).bind fun _ => neutral_atomically rfl _
      · exact (neutral_erase _).bind fun _ => trivial

/-- A leave schedules a job. -/
theorem neutral_processPlayerLeaveToIntegrationServer (playerKey : PlayerKey) (isDodge : Bool) :
    Neutral (processPlayerLeaveToIntegrationServer playerKey isDodge) := by
  refine (neutral_findByPlayerKey playerKey).bind fun found => ?_
  cases found with
  | none => trivial
  | some zone =>
      refine (neutral_readWorld _).bind fun _ => ?_
      exact (neutral_atomically rfl _).bind fun _ => trivial

/-- The job of a leave takes the player out of its zone and may penalise it. -/
theorem neutral_processPlayerLeavedFromIntegrationServer (playerKey : PlayerKey)
    (isDodge : Bool) : Neutral (processPlayerLeavedFromIntegrationServer playerKey isDodge) := by
  refine (neutral_eraseByPlayerKey playerKey).bind fun found => ?_
  cases found with
  | none => trivial
  | some zone =>
      simp only
      split_ifs
      · refine (neutral_readWorld _).bind fun _ => ?_
        refine (MatchPenaltyManager.neutral_addDodgePenalty _ _).bind fun _ => ?_
        exact (neutral_readWorld _).bind fun _ => trivial
      · exact (neutral_readWorld _).bind fun _ => trivial

/-- An update touches one zone. -/
theorem neutral_processZoneInstanceInfoUpdated (key : IntegrationZoneInstanceKey) :
    Neutral (processZoneInstanceInfoUpdatedFromIntegrationServer key) := by
  refine (neutral_readWorld _).bind fun found => ?_
  cases found with
  | none => trivial
  | some zone => exact neutral_atomically rfl _

/-- A terminated zone loses its players one by one. -/
theorem neutral_processZoneInstanceTerminated (info : IntegrationZoneInstanceInfo) :
    Neutral (processZoneInstanceTerminatedFromIntegrationServer info) := by
  refine (neutral_readWorld _).bind fun found => ?_
  cases found with
  | none => trivial
  | some zone =>
      refine (neutral_forAll fun playerKey =>
        neutral_processPlayerLeavedFromIntegrationServer playerKey _).bind fun _ => ?_
      exact (neutral_erase _).bind fun _ => trivial

end IntegrationZoneInstanceManager

/-- The deferred jobs of the penalty manager. -/
theorem neutral_penaltyWorkerRun : Neutral penaltyWorkerRun := by
  refine (neutral_atomically rfl _).bind fun job => ?_
  cases job with
  | none => trivial
  | some playerKey => exact MatchPenaltyManager.neutral_expireDodgePenalty playerKey

/-- The deferred jobs of the zone manager. -/
theorem neutral_zoneWorkerRun : Neutral zoneWorkerRun := by
  refine (neutral_atomically rfl _).bind fun job => ?_
  cases job with
  | none => trivial
  | some job =>
      cases job with
      | serverClosed sessionKey worldNo =>
          exact IntegrationZoneInstanceManager.neutral_processIntegrationServerClosedAsync _ _
      | expire key =>
          exact IntegrationZoneInstanceManager.neutral_processZoneInstanceExpireAsync key
      | playerLeaved playerKey isDodge =>
          exact IntegrationZoneInstanceManager.neutral_processPlayerLeavedFromIntegrationServer _ _

end MatchmakingMvp
