import MatchmakingMvp.Integration.ZoneMoves

/-! # Runs of the zone manager

Complete calls of the zone manager, its expiry jobs and its worker, in any order and with
any arguments (`MatchmakingMvp.ZoneRun`). Where insertions are called only when they
succeed, the index of players is exact throughout, and a zone whose last player left is
gone (`MatchmakingMvp.zone_index_exact`).
-/

namespace MatchmakingMvp

open Foundation

/-- What may happen to the zone manager from outside, and the clock. -/
inductive ZoneCall
  | tick (timeMsec : Nat)
  | insert (info : Option IntegrationZoneInstanceInfo)
  | erase (key : IntegrationZoneInstanceKey)
  | eraseByPlayerKey (playerKey : PlayerKey)
  | playerLeave (playerKey : PlayerKey) (isDodge : Bool)
  | playerLeaved (playerKey : PlayerKey) (isDodge : Bool)
  | zoneUpdated (key : IntegrationZoneInstanceKey)
  | zoneTerminated (info : IntegrationZoneInstanceInfo)
  | integrationServerClosed (sessionKey : Int) (worldNo : Int)
  | integrationServerClosedAsync (sessionKey : Int) (worldNo : Int)
  | zoneInstanceExpireAsync (key : IntegrationZoneInstanceKey)
  | zoneWorkerRun
deriving DecidableEq

namespace ZoneCall

open IntegrationZoneInstanceManager

/-- The program of a call. -/
def program : ZoneCall → Operation Unit
  | .tick timeMsec => Program.atomically (.tick timeMsec) fun _ => ()
  | .insert info => do
      let _ ← IntegrationZoneInstanceManager.insert info
  | .erase key => do
      let _ ← IntegrationZoneInstanceManager.erase key
  | .eraseByPlayerKey playerKey => do
      let _ ← IntegrationZoneInstanceManager.eraseByPlayerKey playerKey
  | .playerLeave playerKey isDodge => do
      let _ ← processPlayerLeaveToIntegrationServer playerKey isDodge
  | .playerLeaved playerKey isDodge =>
      processPlayerLeavedFromIntegrationServer playerKey isDodge
  | .zoneUpdated key => processZoneInstanceInfoUpdatedFromIntegrationServer key
  | .zoneTerminated info => processZoneInstanceTerminatedFromIntegrationServer info
  | .integrationServerClosed sessionKey worldNo =>
      processIntegrationServerClosed sessionKey worldNo
  | .integrationServerClosedAsync sessionKey worldNo =>
      processIntegrationServerClosedAsync sessionKey worldNo
  | .zoneInstanceExpireAsync key => processZoneInstanceExpireAsync key
  | .zoneWorkerRun => MatchmakingMvp.zoneWorkerRun

/-- The state after a complete call. -/
def complete (call : ZoneCall) (world : World) : World := (call.program.run perform world).2

theorem complete_insert (info : Option IntegrationZoneInstanceInfo) (world : World) :
    (insert info).complete world =
      ((IntegrationZoneInstanceManager.insert info).run perform world).2 := by
  rw [complete, program, Program.run_bind]
  rfl

/-- An insertion succeeds in the state it is called in. -/
def Succeeds (call : ZoneCall) (world : World) : Prop :=
  ∀ info, call = .insert info →
    ((IntegrationZoneInstanceManager.insert info).run perform world).1 ≠ none

/-- The state a call begins its moves in: the clock is set, the section of an insertion is
done, and the worker has taken its job. -/
def opening (call : ZoneCall) (world : World) : World :=
  match call with
  | .tick timeMsec => perform (.tick timeMsec) world
  | .insert (some info) => world.entered info
  | .zoneWorkerRun => perform .takeZoneJob world
  | _ => world

/-- **Every call is made of moves** from its opening on. -/
theorem complete_moves (call : ZoneCall) (world : World) :
    (call.opening world).ZoneMoves (call.complete world) := by
  cases call with
  | tick timeMsec => exact .refl
  | insert info =>
      rw [complete_insert]
      cases info with
      | none => exact .refl
      | some info => exact .single (insert_moves info world)
  | erase key => exact (movesZones_erase key).bind (fun _ => movesZones_pure ()) world
  | eraseByPlayerKey playerKey =>
      exact (movesZones_eraseByPlayerKey playerKey).bind (fun _ => movesZones_pure ()) world
  | playerLeave playerKey isDodge =>
      exact (movesZones_processPlayerLeaveToIntegrationServer playerKey isDodge).bind
        (fun _ => movesZones_pure ()) world
  | playerLeaved playerKey isDodge =>
      exact movesZones_processPlayerLeavedFromIntegrationServer playerKey isDodge world
  | zoneUpdated key => exact movesZones_processZoneInstanceInfoUpdated key world
  | zoneTerminated info => exact movesZones_processZoneInstanceTerminated info world
  | integrationServerClosed sessionKey worldNo =>
      exact movesZones_processIntegrationServerClosed sessionKey worldNo world
  | integrationServerClosedAsync sessionKey worldNo =>
      exact movesZones_processIntegrationServerClosedAsync sessionKey worldNo world
  | zoneInstanceExpireAsync key => exact movesZones_processZoneInstanceExpireAsync key world
  | zoneWorkerRun =>
      rw [complete, program, opening]
      cases taken : (world.zoneJobs.takeJob world.timeMsec).1 with
      | none => rw [run_zoneWorkerRun_of_idle taken]
      | some job =>
          rw [run_zoneWorkerRun_of_taken taken]
          exact job.movesZones _

/-- Only an insertion opens with a change of the zones. -/
theorem opening_cases (call : ZoneCall) (world : World) :
    world.KeepsZones (call.opening world) ∨
      ∃ info, call = .insert (some info) ∧ call.opening world = world.entered info := by
  cases call with
  | insert info =>
      cases info with
      | none => exact Or.inl ⟨rfl, rfl, rfl⟩
      | some info => exact Or.inr ⟨info, rfl, rfl⟩
  | _ => exact Or.inl ⟨rfl, rfl, rfl⟩

theorem sound (call : ZoneCall) {world : World} (sound : world.ZonesSound) :
    (call.complete world).ZonesSound := by
  apply World.ZoneMoves.sound (call.complete_moves world)
  rcases call.opening_cases world with keeps | ⟨info, -, entered⟩
  · exact keeps.sound sound
  · rw [entered]
    exact sound.entered info

theorem attends (call : ZoneCall) {world : World} (sound : world.ZonesSound) :
    world.ZonesAttended (call.complete world) := by
  have moves := call.complete_moves world
  rcases call.opening_cases world with keeps | ⟨info, -, entered⟩
  · exact keeps.attends.trans sound (World.ZoneMoves.attends moves (keeps.sound sound))
  · rw [entered] at moves
    exact (sound.entered_attends info).trans sound
      (World.ZoneMoves.attends moves (sound.entered info))

/-- A call that does not fail to insert keeps an exact index exact. -/
theorem indexed {call : ZoneCall} {world : World} (indexed : world.ZonesIndexed)
    (succeeds : call.Succeeds world) : (call.complete world).ZonesIndexed := by
  have moves := call.complete_moves world
  rcases call.opening_cases world with keeps | ⟨info, rfl, -⟩
  · have opened := indexed.recede_of_eq keeps.zones keeps.playerSessions keeps.zoneInstanceCount
    exact (World.ZoneMoves.recede moves opened.zones).zones
  · have inserted := succeeds (some info) rfl
    have insertable : world.zones.Insertable info.key info.players := by
      rw [run_insert] at inserted
      split_ifs at inserted with refused
      · exact absurd rfl inserted
      · exact IntegrationZones.insertSection_fst_iff.mp (Bool.not_eq_false _ ▸ refused)
    have apart : ∀ playerKey ∈ info.players.elements, ∀ key, ¬ world.Hosts playerKey key := by
      intro playerKey inside key hosts
      have named := indexed.indexed.mpr hosts
      rw [insertable.2 playerKey inside] at named
      cases named
    rcases zones_insert indexed (fun _ => apart) with ⟨refused, -⟩ | ⟨_, _, _, _, zones, _⟩
    · exact absurd refused inserted
    · rwa [complete_insert]

end ZoneCall

/-- The runs of the zone manager, with the calls that were made: each of them meets a
condition where it is made. -/
inductive ZoneRun (condition : ZoneCall → World → Prop) :
    List (Executed ZoneCall World) → World → Prop
  | start : ZoneRun condition [] {}
  | call {record : List (Executed ZoneCall World)} {world : World}
      (before : ZoneRun condition record world) (call : ZoneCall) (meets : condition call world) :
      ZoneRun condition (record ++ [⟨call, world, call.complete world⟩]) (call.complete world)

namespace ZoneRun

variable {condition : ZoneCall → World → Prop} {record : List (Executed ZoneCall World)}
  {world : World}

theorem indexed_initial : World.ZonesIndexed {} :=
  ⟨nofun, nofun, ⟨nofun, fun ⟨_, found, _⟩ => nomatch found⟩⟩

theorem sound (run : ZoneRun condition record world) : world.ZonesSound := by
  induction run with
  | start => exact indexed_initial.toSound
  | call _ call _ ih => exact call.sound ih

/-- From every call of the record to the end, no zone stays without its players. -/
theorem attends (run : ZoneRun condition record world) :
    ∀ executed ∈ record, executed.before.ZonesSound ∧ executed.before.ZonesAttended world := by
  induction run with
  | start => simp
  | call before call _ ih =>
      intro executed inside
      rcases List.mem_append.mp inside with earlier | last
      · obtain ⟨sound, attends⟩ := ih executed earlier
        exact ⟨sound, attends.trans sound (call.attends before.sound)⟩
      · rw [List.mem_singleton.mp last]
        exact ⟨before.sound, call.attends before.sound⟩

theorem indexed (run : ZoneRun ZoneCall.Succeeds record world) : world.ZonesIndexed := by
  induction run with
  | start => exact indexed_initial
  | call _ call meets ih => exact ZoneCall.indexed ih meets

end ZoneRun

/-- **The player index is exact.** After any calls of the zone manager whose insertions
succeed, the index maps a player to a key exactly if the zone registered under it has the
player among its active ones. So no player is active in two zones, and a zone that had an
active player before any of the calls has one while it is registered. -/
theorem zone_index_exact {record : List (Executed ZoneCall World)} {world : World}
    (run : ZoneRun ZoneCall.Succeeds record world) :
    (∀ playerKey key, world.zones.findMapByPlayerKey playerKey = some key ↔
      world.Hosts playerKey key) ∧
    (∀ playerKey first second, world.Hosts playerKey first → world.Hosts playerKey second →
      first = second) ∧
    ∀ executed ∈ record, ∀ key zone,
      executed.before.zones.instanceMap.find? key = some zone →
      (executed.before.playerSessions zone).elements ≠ [] →
      world.zones.instanceMap.find? key = some zone →
      (world.playerSessions zone).elements ≠ [] := by
  have indexed := run.indexed
  refine ⟨fun playerKey key => indexed.indexed,
    fun playerKey first second => indexed.hosts_unique, ?_⟩
  intro executed inside key zone earlier attended stays
  exact (run.attends executed inside).2.attended earlier stays attended

/-- A zone for two players. -/
def pairZoneInfo : IntegrationZoneInstanceInfo :=
  { zoneGuid := 1000, worldNo := 0, players := ⟨[7, 8], by decide⟩ }

/-- The zone is inserted, and one of its players leaves. -/
def pairZoneWorld : World :=
  (ZoneCall.playerLeaved 7 false).complete ((ZoneCall.insert (some pairZoneInfo)).complete {})

theorem pairZoneInfo_inserted :
    ((IntegrationZoneInstanceManager.insert (some pairZoneInfo)).run perform {}).1.isSome =
      true := by
  decide +kernel

theorem zone_index_exact_pair :
    pairZoneWorld.zones.findMapByPlayerKey 8 = some pairZoneInfo.key ∧
      pairZoneWorld.Hosts 8 pairZoneInfo.key := by
  have inserts : (ZoneCall.insert (some pairZoneInfo)).Succeeds {} := by
    rintro info ⟨⟩
    exact Option.isSome_iff_ne_none.mp pairZoneInfo_inserted
  have run : ZoneRun ZoneCall.Succeeds _ pairZoneWorld :=
    .call (.call .start _ inserts) (.playerLeaved 7 false) nofun
  have named : pairZoneWorld.zones.findMapByPlayerKey 8 = some pairZoneInfo.key := by
    decide +kernel
  obtain ⟨index, -, -⟩ := zone_index_exact run
  refine ⟨named, ?_⟩
  rw [← index]
  exact named

end MatchmakingMvp
