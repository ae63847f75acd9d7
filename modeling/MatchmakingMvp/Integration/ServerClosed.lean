import MatchmakingMvp.Integration.ZoneRuns

/-! # A server that closes

The zones of a closed server are erased one after another, over a snapshot of the
registered zones. Where the index of players is exact, the other zones keep their players
and the index keeps exactly their entries (`MatchmakingMvp.server_closed_exact`). -/

namespace MatchmakingMvp

open Foundation

/-- The zone ends with the session of a server. A negative session key ends none. -/
def IntegrationZoneInstance.EndsWith (zone : IntegrationZoneInstance) (sessionKey worldNo : Int) :
    Prop :=
  0 ≤ sessionKey ∧ zone.worldNo = worldNo ∧ zone.worldSessionKey = sessionKey

instance (zone : IntegrationZoneInstance) (sessionKey worldNo : Int) :
    Decidable (zone.EndsWith sessionKey worldNo) :=
  inferInstanceAs (Decidable (_ ∧ _ ∧ _))

namespace IntegrationZoneInstanceManager

/-- What the loop does with one zone. -/
theorem run_closeZone (zone : IntegrationZoneInstance) (sessionKey worldNo : Int) (world : World) :
    ((if zone.worldNo ≠ worldNo then pure ()
      else if zone.worldSessionKey < 0 ∨ sessionKey < 0 then pure ()
      else if zone.worldSessionKey = sessionKey then do
        let _ ← erase zone.integrationZoneInstanceKey
      else pure () : Operation Unit).run perform world).2 =
      if zone.EndsWith sessionKey worldNo then
        perform (.eraseZoneInstance zone.integrationZoneInstanceKey) world
      else world := by
  rw [Program.run_ite, Program.run_ite, Program.run_ite]
  by_cases ends : zone.EndsWith sessionKey worldNo
  · obtain ⟨signed, number, session⟩ := ends
    rw [if_pos (show zone.EndsWith sessionKey worldNo from ⟨signed, number, session⟩),
      if_neg (not_not.mpr number), if_neg (by omega), if_pos session]
    rfl
  · rw [if_neg ends]
    split_ifs with number negative session
    · rfl
    · rfl
    · exact (ends ⟨by omega, not_not.mp number, session⟩).elim
    · rfl

/-- The state after the listed zones that end have been erased. -/
def closed (zones : List IntegrationZoneInstance) (sessionKey worldNo : Int) (world : World) :
    World :=
  zones.foldl (fun world zone =>
    if zone.EndsWith sessionKey worldNo then
      perform (.eraseZoneInstance zone.integrationZoneInstanceKey) world
    else world) world

theorem run_processIntegrationServerClosedAsync (sessionKey worldNo : Int) (world : World) :
    ((processIntegrationServerClosedAsync sessionKey worldNo).run perform world).2 =
      closed world.zones.instanceMap.values sessionKey worldNo world := by
  rw [processIntegrationServerClosedAsync, Program.run_bind, run_readWorld]
  generalize world.zones.instanceMap.values = zones
  induction zones generalizing world with
  | nil => rfl
  | cons zone rest ih =>
      rw [run_forAll_cons]
      exact (ih _).trans (congrArg (closed rest sessionKey worldNo)
        (run_closeZone zone sessionKey worldNo world))

section Closed

variable {zones : List IntegrationZoneInstance} {sessionKey worldNo : Int} {world : World}

/-- Only the registered zones and the index change. -/
theorem closed_frame : closed zones sessionKey worldNo world =
    { world with zones := (closed zones sessionKey worldNo world).zones } := by
  induction zones generalizing world with
  | nil => rfl
  | cons zone rest ih =>
      rw [closed, List.foldl_cons, ← closed]
      split_ifs
      · exact ih
      · exact ih

theorem find?_closed {key : IntegrationZoneInstanceKey} {zone : IntegrationZoneInstance} :
    (closed zones sessionKey worldNo world).zones.instanceMap.find? key = some zone ↔
      (∀ other ∈ zones, other.EndsWith sessionKey worldNo →
        key ≠ other.integrationZoneInstanceKey) ∧
      world.zones.instanceMap.find? key = some zone := by
  induction zones generalizing world with
  | nil => simp [closed]
  | cons head rest ih =>
      rw [closed, List.foldl_cons, ← closed, ih, List.forall_mem_cons]
      split_ifs with ends
      · rw [World.find?_eraseZoneInstance]
        tauto
      · tauto

/-- The index stays exact. -/
theorem consistent_closed (consistent : world.zones.Consistent world.playerSessions) :
    (closed zones sessionKey worldNo world).zones.Consistent world.playerSessions := by
  induction zones generalizing world with
  | nil => exact consistent
  | cons zone rest ih =>
      rw [closed, List.foldl_cons, ← closed]
      split_ifs
      · exact ih (consistent.erase zone.integrationZoneInstanceKey)
      · exact ih consistent

end Closed

end IntegrationZoneInstanceManager

/-- **A server closes.** Where zones are registered under their own keys and the index of
players is exact, the zones with both the world number and the session key are erased, and
none if the session key is negative. The others stay registered with their players, the
index keeps exactly their players' entries, and nothing else changes. -/
theorem server_closed_exact (world : World) (sessionKey worldNo : Int)
    (keyed : ∀ key zone, world.zones.instanceMap.find? key = some zone →
      zone.integrationZoneInstanceKey = key)
    (consistent : world.zones.Consistent world.playerSessions) :
    let after := ((IntegrationZoneInstanceManager.processIntegrationServerClosedAsync sessionKey
      worldNo).run perform world).2
    (∀ key zone, after.zones.instanceMap.find? key = some zone ↔
      world.zones.instanceMap.find? key = some zone ∧ ¬ zone.EndsWith sessionKey worldNo) ∧
    after.zones.Consistent after.playerSessions ∧
    (∀ playerKey key, after.zones.findMapByPlayerKey playerKey = some key ↔
      world.zones.findMapByPlayerKey playerKey = some key ∧
        ∃ zone, after.zones.instanceMap.find? key = some zone) ∧
    after = { world with zones := after.zones } := by
  intro after
  have result : after = IntegrationZoneInstanceManager.closed world.zones.instanceMap.values
      sessionKey worldNo world :=
    IntegrationZoneInstanceManager.run_processIntegrationServerClosedAsync ..
  have frame : after = { world with zones := after.zones } := by
    rw [result]
    exact IntegrationZoneInstanceManager.closed_frame
  have players : after.playerSessions = world.playerSessions := by rw [frame]
  have kept : after.zones.Consistent world.playerSessions := by
    rw [result]
    exact IntegrationZoneInstanceManager.consistent_closed consistent
  have remain : ∀ key zone, after.zones.instanceMap.find? key = some zone ↔
      world.zones.instanceMap.find? key = some zone ∧ ¬ zone.EndsWith sessionKey worldNo := by
    intro key zone
    rw [result, IntegrationZoneInstanceManager.find?_closed]
    constructor
    · rintro ⟨others, found⟩
      refine ⟨found, fun ends => ?_⟩
      have listed := List.mem_map_of_mem (f := Prod.snd) (OrderedMap.find?_eq_some_iff.mp found)
      exact others zone listed ends (keyed key zone found).symm
    · rintro ⟨found, stays⟩
      refine ⟨fun other listed ends same => ?_, found⟩
      obtain ⟨⟨stored, zone'⟩, inside, rfl⟩ := List.mem_map.mp listed
      have present := OrderedMap.find?_eq_some_iff.mpr inside
      rw [same, keyed stored zone' present, present] at found
      cases found
      exact stays ends
  refine ⟨remain, players ▸ kept, fun playerKey key => ?_, frame⟩
  rw [kept, consistent]
  constructor
  · rintro ⟨zone, found, active⟩
    exact ⟨⟨zone, ((remain key zone).mp found).1, active⟩, zone, found⟩
  · rintro ⟨⟨zone, found, active⟩, rival, stays⟩
    have same := ((remain key rival).mp stays).1
    rw [found] at same
    cases same
    exact ⟨zone, stays, active⟩

/-- The zone of one player in the session of a server. -/
def sessionZoneInfo (worldSessionKey zoneGuid : Int) (playerKey : PlayerKey) :
    IntegrationZoneInstanceInfo :=
  { worldNo := 3, worldSessionKey := worldSessionKey, zoneGuid := zoneGuid,
    players := .single playerKey }

/-- Two sessions of one server have a zone each. -/
def twoSessionsWorld : World :=
  (ZoneCall.insert (some (sessionZoneInfo 9002 304 8))).complete
    ((ZoneCall.insert (some (sessionZoneInfo 9001 303 7))).complete {})

theorem server_closed_exact_twoSessions :
    let after := ((IntegrationZoneInstanceManager.processIntegrationServerClosedAsync 9001 3).run
      perform twoSessionsWorld).2
    after.zones.findMapByPlayerKey 7 = none ∧
      after.zones.findMapByPlayerKey 8 = some (toLex (3, 304)) := by
  intro after
  have first : (ZoneCall.insert (some (sessionZoneInfo 9001 303 7))).Succeeds {} := by
    rintro info ⟨⟩
    exact Option.isSome_iff_ne_none.mp (by decide +kernel)
  have second : (ZoneCall.insert (some (sessionZoneInfo 9002 304 8))).Succeeds
      ((ZoneCall.insert (some (sessionZoneInfo 9001 303 7))).complete {}) := by
    rintro info ⟨⟩
    exact Option.isSome_iff_ne_none.mp (by decide +kernel)
  have run : ZoneRun ZoneCall.Succeeds _ twoSessionsWorld := .call (.call .start _ first) _ second
  have firstZone : twoSessionsWorld.zones.instanceMap.find? (toLex (3, 303)) =
      some ⟨0, 3, 9001, 303, ""⟩ := by decide +kernel
  have secondZone : twoSessionsWorld.zones.instanceMap.find? (toLex (3, 304)) =
      some ⟨1, 3, 9002, 304, ""⟩ := by decide +kernel
  have owned : twoSessionsWorld.zones.findMapByPlayerKey 7 = some (toLex (3, 303)) := by
    decide +kernel
  have kept : twoSessionsWorld.zones.findMapByPlayerKey 8 = some (toLex (3, 304)) := by
    decide +kernel
  obtain ⟨remain, -, index, -⟩ := server_closed_exact twoSessionsWorld 9001 3
    (fun key zone => run.indexed.keyed) fun playerKey key => run.indexed.indexed
  refine ⟨?_, (index _ _).mpr ⟨kept, _, (remain _ _).mpr ⟨secondZone, by decide⟩⟩⟩
  cases named : after.zones.findMapByPlayerKey 7 with
  | none => rfl
  | some key =>
      obtain ⟨before, zone, stays⟩ := (index _ _).mp named
      rw [owned] at before
      cases before
      obtain ⟨found, open'⟩ := (remain _ _).mp stays
      rw [firstZone] at found
      cases found
      exact (open' (by decide)).elim

end MatchmakingMvp
