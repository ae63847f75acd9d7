import MatchmakingMvp.Integration.ZoneInsertion
import MatchmakingMvp.System.Runs

/-! # The zones and the index of their players

A complete operation of the zone manager that brings no player into a zone keeps the
index of players exact and hosts nobody whom no zone hosted before
(`MatchmakingMvp.World.ZonesRecede`). An insertion keeps the index exact as well where
its players are in no zone: it succeeds, or it is refused because its key is in use
(`MatchmakingMvp.World.ZonesIndexed.insert`).
-/

namespace MatchmakingMvp

open Foundation

namespace World

/-- The player is in the zone that is registered under the key. -/
def Hosts (world : World) (playerKey : PlayerKey) (key : IntegrationZoneInstanceKey) : Prop :=
  ∃ zone, world.zones.instanceMap.find? key = some zone ∧
    playerKey ∈ (world.playerSessions zone).elements

/-- Zones are registered under their own keys, objects to come are not registered yet,
and the index names the zone each player is in. -/
structure ZonesIndexed (world : World) : Prop where
  keyed : ∀ {key zone}, world.zones.instanceMap.find? key = some zone →
    zone.integrationZoneInstanceKey = key
  made : ∀ {key zone}, world.zones.instanceMap.find? key = some zone →
    zone.serial < world.zoneInstanceCount
  indexed : ∀ {playerKey key},
    world.zones.findMapByPlayerKey playerKey = some key ↔ world.Hosts playerKey key

/-- The index is exact afterwards, and nobody is in a zone without having been there. -/
structure ZonesRecede (before after : World) : Prop where
  zones : after.ZonesIndexed
  hosts : ∀ {playerKey key}, after.Hosts playerKey key → before.Hosts playerKey key

theorem ZonesRecede.trans {before middle after : World} (first : before.ZonesRecede middle)
    (second : middle.ZonesRecede after) : before.ZonesRecede after :=
  ⟨second.zones, fun hosts => first.hosts (second.hosts hosts)⟩

theorem ZonesIndexed.recede_of_eq {before after : World} (indexed : before.ZonesIndexed)
    (zones : after.zones = before.zones) (players : after.playerSessions = before.playerSessions)
    (count : after.zoneInstanceCount = before.zoneInstanceCount) : before.ZonesRecede after := by
  have hosts : ∀ playerKey key, after.Hosts playerKey key ↔ before.Hosts playerKey key := by
    intro playerKey key
    rw [Hosts, Hosts, zones, players]
  refine ⟨⟨?_, ?_, ?_⟩, (hosts _ _).mp⟩
  · rw [zones]
    exact indexed.keyed
  · rw [zones, count]
    exact indexed.made
  · intro playerKey key
    rw [zones, hosts]
    exact indexed.indexed

/-- A player is in one zone at most. -/
theorem ZonesIndexed.hosts_unique {world : World} (indexed : world.ZonesIndexed)
    {playerKey : PlayerKey} {first second : IntegrationZoneInstanceKey}
    (inFirst : world.Hosts playerKey first) (inSecond : world.Hosts playerKey second) :
    first = second :=
  Option.some.inj ((indexed.indexed.mpr inFirst).symm.trans (indexed.indexed.mpr inSecond))

/-- Erasing takes one zone out. -/
theorem find?_eraseZoneInstance {world : World} {key other : IntegrationZoneInstanceKey}
    {zone : IntegrationZoneInstance} :
    (perform (.eraseZoneInstance key) world).zones.instanceMap.find? other = some zone ↔
      other ≠ key ∧ world.zones.instanceMap.find? other = some zone :=
  IntegrationZones.find?_erase

theorem hosts_eraseZoneInstance {world : World} {key other : IntegrationZoneInstanceKey}
    {playerKey : PlayerKey} :
    (perform (.eraseZoneInstance key) world).Hosts playerKey other ↔
      other ≠ key ∧ world.Hosts playerKey other := by
  simp only [Hosts, find?_eraseZoneInstance, and_assoc, exists_and_left]
  rfl

theorem ZonesIndexed.erase {world : World} (indexed : world.ZonesIndexed)
    (key : IntegrationZoneInstanceKey) :
    world.ZonesRecede (perform (.eraseZoneInstance key) world) := by
  have consistent : world.zones.Consistent world.playerSessions :=
    fun _ _ => indexed.indexed
  exact ⟨⟨fun present => indexed.keyed (find?_eraseZoneInstance.mp present).2,
    fun present => indexed.made (find?_eraseZoneInstance.mp present).2,
    fun {playerKey other} => consistent.erase key playerKey other⟩,
    fun present => (hosts_eraseZoneInstance.mp present).2⟩

/-- A player leaves the zone. -/
def left (world : World) (zone : IntegrationZoneInstance) (playerKey : PlayerKey) : World :=
  perform (.eraseZonePlayer playerKey) (perform (.removePlayerSession zone playerKey) world)

theorem ZonesIndexed.left {world : World} (indexed : world.ZonesIndexed)
    {key : IntegrationZoneInstanceKey} {zone : IntegrationZoneInstance} {playerKey : PlayerKey}
    (found : world.zones.instanceMap.find? key = some zone)
    (inside : playerKey ∈ (world.playerSessions zone).elements) :
    world.ZonesRecede (world.left zone playerKey) := by
  have hosts : ∀ {player other}, (world.left zone playerKey).Hosts player other ↔
      player ≠ playerKey ∧ world.Hosts player other := by
    intro player other
    constructor
    · rintro ⟨rival, present, active⟩
      by_cases same : rival = zone
      · subst same
        simp only [World.left, perform, Function.update_self, OrderedSet.mem_erase] at active
        exact ⟨active.2, rival, present, active.1⟩
      · simp only [World.left, perform, Function.update_of_ne same] at active
        refine ⟨?_, rival, present, active⟩
        rintro rfl
        have apart := indexed.hosts_unique ⟨zone, found, inside⟩ ⟨rival, present, active⟩
        subst apart
        exact same (Option.some.inj (present.symm.trans found))
    · rintro ⟨different, rival, present, active⟩
      refine ⟨rival, present, ?_⟩
      by_cases same : rival = zone
      · subst same
        simp only [World.left, perform, Function.update_self, OrderedSet.mem_erase]
        exact ⟨active, different⟩
      · simpa only [World.left, perform, Function.update_of_ne same] using active
  refine ⟨⟨indexed.keyed, indexed.made, ?_⟩, fun present => (hosts.mp present).2⟩
  intro player other
  rw [hosts, ← indexed.indexed]
  simp only [World.left, perform]
  by_cases same : player = playerKey <;> simp [same]

/-- The zone object to come is in no player's way. -/
theorem ZonesIndexed.make {world : World} (indexed : world.ZonesIndexed)
    (info : IntegrationZoneInstanceInfo) :
    world.ZonesRecede (perform (.newZoneInstance info) world) := by
  have hosts : ∀ {playerKey key}, (perform (.newZoneInstance info) world).Hosts playerKey key ↔
      world.Hosts playerKey key := by
    intro playerKey key
    refine exists_congr fun zone => and_congr_right fun present => ?_
    have earlier := indexed.made present
    simp only [perform]
    rw [Function.update_of_ne]
    rintro rfl
    exact absurd earlier (lt_irrefl _)
  refine ⟨⟨indexed.keyed, fun present => ?_, ?_⟩, hosts.mp⟩
  · exact (indexed.made present).trans (Nat.lt_succ_self _)
  · intro playerKey key
    rw [hosts]
    exact indexed.indexed

/-- A zone is registered with its players, who are in no zone. -/
theorem ZonesIndexed.register {world : World} (indexed : world.ZonesIndexed)
    {zone : IntegrationZoneInstance} (made : zone.serial < world.zoneInstanceCount)
    (insertable : world.zones.Insertable zone.integrationZoneInstanceKey
      (world.playerSessions zone)) :
    (perform (.insertZoneInstance zone) world).ZonesIndexed ∧
      ∀ playerKey key, (perform (.insertZoneInstance zone) world).Hosts playerKey key →
        world.Hosts playerKey key ∨ playerKey ∈ (world.playerSessions zone).elements ∧
          key = zone.integrationZoneInstanceKey := by
  have stored : ∀ {other rival},
      (perform (.insertZoneInstance zone) world).zones.instanceMap.find? other = some rival →
      other = zone.integrationZoneInstanceKey ∧ rival = zone ∨
        world.zones.instanceMap.find? other = some rival := by
    intro other rival present
    simp only [perform, IntegrationZones.insertSection_of_insertable insertable,
      OrderedMap.find?_insertOrAssign] at present
    split_ifs at present with same
    · cases present
      exact Or.inl ⟨same, rfl⟩
    · exact Or.inr present
  refine ⟨⟨fun present => ?_, fun present => ?_, ?_⟩, ?_⟩
  · rcases stored present with ⟨rfl, rfl⟩ | earlier
    · rfl
    · exact indexed.keyed earlier
  · rcases stored present with ⟨rfl, rfl⟩ | earlier
    · exact made
    · exact indexed.made earlier
  · have consistent : world.zones.Consistent world.playerSessions :=
      fun playerKey key => indexed.indexed
    intro playerKey key
    exact consistent.insert insertable playerKey key
  · rintro playerKey key ⟨rival, present, inside⟩
    rcases stored present with ⟨rfl, rfl⟩ | earlier
    · exact Or.inr ⟨inside, rfl⟩
    · exact Or.inl ⟨rival, earlier, inside⟩

end World

namespace IntegrationZoneInstanceManager

theorem run_findByPlayerKey (playerKey : PlayerKey) (world : World) :
    (findByPlayerKey playerKey).run perform world =
      ((world.zones.findMapByPlayerKey playerKey).bind world.zones.instanceMap.find?, world) := by
  rw [findByPlayerKey, Program.run_bind, run_readWorld]
  cases world.zones.findMapByPlayerKey playerKey <;> rfl

/-- **A player leaves**, and an empty zone ends. -/
theorem recede_eraseByPlayerKey {world : World} (indexed : world.ZonesIndexed)
    (playerKey : PlayerKey) :
    world.ZonesRecede ((eraseByPlayerKey playerKey).run perform world).2 := by
  rw [eraseByPlayerKey, Program.run_bind, run_findByPlayerKey]
  cases named : (world.zones.findMapByPlayerKey playerKey).bind
      world.zones.instanceMap.find? with
  | none => exact indexed.recede_of_eq rfl rfl rfl
  | some zone =>
      obtain ⟨key, owned, found⟩ := Option.bind_eq_some_iff.mp named
      obtain ⟨rival, present, inside⟩ := indexed.indexed.mp owned
      have same : rival = zone := Option.some.inj (present.symm.trans found)
      rw [same] at inside
      have left := indexed.left found inside
      simp only [Program.run_bind, Program.run_atomically, run_readWorld, Program.run_ite,
        Program.run_pure]
      split_ifs with empty
      · have ended := left.zones.erase zone.integrationZoneInstanceKey
        refine left.trans (ended.trans (ended.zones.recede_of_eq ?_ rfl rfl))
        simp only [List.isEmpty_iff] at empty
        have own : zone.integrationZoneInstanceKey = key := indexed.keyed found
        simp only [erase, Program.run_atomically, perform, IntegrationZones.erase, own, found,
          World.left, IntegrationZones.dropPlayers] at empty ⊢
        simp only [empty, List.foldl_nil]
      · exact left

/-- **An insertion** is refused where its key is in use, and keeps the index exact where it
is not and the players are in no zone. -/
theorem zones_insert {world : World} (indexed : world.ZonesIndexed)
    {info : IntegrationZoneInstanceInfo}
    (apart : world.zones.instanceMap.find? info.key = none →
      ∀ playerKey ∈ info.players.elements, ∀ key, ¬ world.Hosts playerKey key) :
    let inserted := (insert (some info)).run perform world
    (inserted.1 = none ∧ world.ZonesRecede inserted.2) ∨
      ∃ zone, inserted.1 = some zone ∧ zone.integrationZoneInstanceKey = info.key ∧
        world.zones.instanceMap.find? info.key = none ∧ inserted.2.ZonesIndexed ∧
        ∀ playerKey key, inserted.2.Hosts playerKey key →
          world.Hosts playerKey key ∨ playerKey ∈ info.players.elements ∧ key = info.key := by
  intro inserted
  have made := indexed.make info
  have players : (perform (.newZoneInstance info) world).playerSessions
      (world.newZoneInstance info) = info.players := by
    simp [perform]
  have unindexed : world.zones.instanceMap.find? info.key = none →
      ∀ playerKey ∈ info.players.elements, world.zones.findMapByPlayerKey playerKey = none := by
    intro unused playerKey inside
    by_contra present
    obtain ⟨key, owned⟩ := Option.ne_none_iff_exists'.mp present
    exact apart unused playerKey inside key (indexed.indexed.mp owned)
  simp only [inserted, insert, Program.run_bind, Program.run_atomically, Program.run_ite,
    Program.run_pure]
  by_cases taken : world.zones.instanceMap.find? info.key = none
  · have insertable : (perform (.newZoneInstance info) world).zones.Insertable
        (world.newZoneInstance info).integrationZoneInstanceKey
        ((perform (.newZoneInstance info) world).playerSessions (world.newZoneInstance info)) := by
      rw [players]
      exact ⟨taken, unindexed taken⟩
    obtain ⟨zones, hosts⟩ := made.zones.register (Nat.lt_succ_self _) insertable
    rw [if_neg (by simp [IntegrationZones.insertSection_fst_iff.mpr insertable])]
    refine Or.inr ⟨_, rfl, rfl, taken, World.ZonesRecede.zones (zones.recede_of_eq rfl rfl rfl),
      fun playerKey key present => ?_⟩
    rcases hosts playerKey key present with earlier | ⟨inside, same⟩
    · exact Or.inl (made.hosts earlier)
    · rw [players] at inside
      exact Or.inr ⟨inside, same⟩
  · have refused : (perform (.newZoneInstance info) world).zones.insertSection
        (world.newZoneInstance info) ((perform (.newZoneInstance info) world).playerSessions
          (world.newZoneInstance info)) = (false, world.zones) := by
      rw [IntegrationZones.insertSection]
      exact if_pos (OrderedMap.contains_iff.mpr (Option.ne_none_iff_exists'.mp taken))
    rw [refused, if_pos rfl]
    have kept : (perform (.newZoneInstance info) world).ZonesRecede
        (perform (.insertZoneInstance (world.newZoneInstance info))
          (perform (.newZoneInstance info) world)) :=
      made.zones.recede_of_eq (congrArg Prod.snd refused) rfl rfl
    exact Or.inl ⟨rfl, made.trans (kept.trans (kept.zones.erase _))⟩

end IntegrationZoneInstanceManager

end MatchmakingMvp
