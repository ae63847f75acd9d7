import MatchmakingMvp.System.Operations

/-! # Failing insertions of zone instances

An insertion registers the zone and indexes its players up to the first who is
indexed already. A failing insertion is undone by erasing the zone stored under
the new zone's key together with the index entries of its players. The undo looks
at the key and the players, not at what the insertion added: it is exact only
when there was nothing to undo
(`MatchmakingMvp.insert_failure_keeps_zones_iff`). An insertion that succeeds
keeps the index exact (`MatchmakingMvp.IntegrationZones.Consistent.insert`).
-/

namespace MatchmakingMvp

open Foundation

namespace IntegrationZones

/-- The zone's key is unused, and none of its players is indexed. -/
def Insertable (zones : IntegrationZones) (key : IntegrationZoneInstanceKey)
    (players : OrderedSet PlayerKey) : Prop :=
  zones.instanceMap.find? key = none ∧
    ∀ playerKey ∈ players.elements, zones.findMapByPlayerKey playerKey = none

instance (zones : IntegrationZones) (key : IntegrationZoneInstanceKey)
    (players : OrderedSet PlayerKey) : Decidable (zones.Insertable key players) :=
  inferInstanceAs (Decidable (_ ∧ _))

/-- The index names exactly the registered zone each player is active in. -/
def Consistent (zones : IntegrationZones)
    (activePlayers : IntegrationZoneInstance → OrderedSet PlayerKey) : Prop :=
  ∀ playerKey key, zones.findMapByPlayerKey playerKey = some key ↔
    ∃ zone, zones.instanceMap.find? key = some zone ∧ playerKey ∈ (activePlayers zone).elements

variable {key : IntegrationZoneInstanceKey}

theorem indexPlayers_of_unindexed {players : List PlayerKey} (nodup : players.Nodup)
    {findMap : PlayerKey → Option IntegrationZoneInstanceKey}
    (unindexed : ∀ playerKey ∈ players, findMap playerKey = none) :
    indexPlayers key players findMap =
      (true, fun playerKey => if playerKey ∈ players then some key else findMap playerKey) := by
  induction players generalizing findMap with
  | nil => simp [indexPlayers]
  | cons head rest ih =>
      obtain ⟨outside, distinct⟩ := List.nodup_cons.mp nodup
      rw [indexPlayers, unindexed head List.mem_cons_self]
      simp only
      rw [ih distinct fun playerKey inside => ?_]
      · congr 1
        funext playerKey
        by_cases same : playerKey = head <;> simp [same, outside]
      · rw [Function.update_of_ne (ne_of_mem_of_not_mem inside outside)]
        exact unindexed playerKey (List.mem_cons_of_mem _ inside)

theorem indexPlayers_of_indexed (key : IntegrationZoneInstanceKey) {players : List PlayerKey}
    {findMap : PlayerKey → Option IntegrationZoneInstanceKey}
    (indexed : ∃ playerKey ∈ players, findMap playerKey ≠ none) :
    (indexPlayers key players findMap).1 = false := by
  induction players generalizing findMap with
  | nil => simp at indexed
  | cons head rest ih =>
      rw [indexPlayers]
      cases taken : findMap head with
      | some _ => rfl
      | none =>
          obtain ⟨playerKey, member, present⟩ := indexed
          have different : playerKey ≠ head := fun same => present (same ▸ taken)
          have inside := List.mem_of_ne_of_mem different member
          exact ih ⟨playerKey, inside, by rwa [Function.update_of_ne different]⟩

/-- Indexing players, even if it stops early, gives no player another zone. -/
theorem mem_or_of_indexPlayers {players : List PlayerKey}
    {findMap : PlayerKey → Option IntegrationZoneInstanceKey} {playerKey : PlayerKey}
    {other : IntegrationZoneInstanceKey}
    (indexed : (indexPlayers key players findMap).2 playerKey = some other) :
    (playerKey ∈ players ∧ other = key) ∨ findMap playerKey = some other := by
  induction players generalizing findMap with
  | nil => exact Or.inr indexed
  | cons head rest ih =>
      rw [indexPlayers] at indexed
      cases taken : findMap head with
      | some _ =>
          rw [taken] at indexed
          exact Or.inr indexed
      | none =>
          rw [taken] at indexed
          rcases ih indexed with ⟨inside, same⟩ | earlier
          · exact Or.inl ⟨List.mem_cons_of_mem _ inside, same⟩
          · by_cases same : playerKey = head
            · rw [same, Function.update_self, Option.some.injEq] at earlier
              exact Or.inl ⟨same ▸ List.mem_cons_self, earlier.symm⟩
            · rw [Function.update_of_ne same] at earlier
              exact Or.inr earlier

theorem dropPlayers_apply (players : List PlayerKey)
    (findMap : PlayerKey → Option IntegrationZoneInstanceKey) (playerKey : PlayerKey) :
    dropPlayers players findMap playerKey =
      if playerKey ∈ players then none else findMap playerKey :=
  Registry.dropOwners_apply findMap players playerKey

variable {zones : IntegrationZones} {zone : IntegrationZoneInstance}
  {players : OrderedSet PlayerKey}

theorem insertSection_of_insertable
    (insertable : zones.Insertable zone.integrationZoneInstanceKey players) :
    zones.insertSection zone players =
      (true, ⟨zones.instanceMap.insertOrAssign zone.integrationZoneInstanceKey zone,
        fun playerKey => if playerKey ∈ players.elements then
          some zone.integrationZoneInstanceKey else zones.findMapByPlayerKey playerKey⟩) := by
  rw [insertSection, OrderedMap.contains_eq_false_iff.mpr insertable.1,
    indexPlayers_of_unindexed players.nodup insertable.2]
  rfl

theorem insertSection_fst_iff :
    (zones.insertSection zone players).1 = true ↔
      zones.Insertable zone.integrationZoneInstanceKey players := by
  constructor
  · intro inserted
    rw [insertSection] at inserted
    cases taken : zones.instanceMap.contains zone.integrationZoneInstanceKey with
    | true => simp [taken] at inserted
    | false =>
        refine ⟨OrderedMap.contains_eq_false_iff.mp taken, ?_⟩
        by_contra indexed
        simp only [not_forall] at indexed
        obtain ⟨playerKey, inside, present⟩ := indexed
        have refused := indexPlayers_of_indexed zone.integrationZoneInstanceKey
          ⟨playerKey, inside, present⟩
        simp only [taken, Bool.false_eq_true, if_false, refused] at inserted
  · intro insertable
    rw [insertSection_of_insertable insertable]

/-- Erasing takes one zone out. -/
theorem find?_erase {activePlayers : IntegrationZoneInstance → OrderedSet PlayerKey}
    {other : IntegrationZoneInstanceKey} :
    (zones.erase key activePlayers).2.instanceMap.find? other = some zone ↔
      other ≠ key ∧ zones.instanceMap.find? other = some zone := by
  rw [erase]
  cases found : zones.instanceMap.find? key with
  | none =>
      refine ⟨fun present => ⟨?_, present⟩, And.right⟩
      rintro rfl
      rw [found] at present
      cases present
  | some incumbent =>
      simp only [OrderedMap.find?_erase]
      split_ifs with same <;> simp [same]

/-- **An erasure keeps the index exact.** -/
theorem Consistent.erase {activePlayers : IntegrationZoneInstance → OrderedSet PlayerKey}
    (consistent : zones.Consistent activePlayers) (key : IntegrationZoneInstanceKey) :
    (zones.erase key activePlayers).2.Consistent activePlayers := by
  intro playerKey other
  simp only [find?_erase, and_assoc, exists_and_left]
  rw [← consistent]
  cases found : zones.instanceMap.find? key with
  | none =>
      simp only [IntegrationZones.erase, found, iff_and_self]
      rintro named rfl
      obtain ⟨zone, present, -⟩ := (consistent _ _).mp named
      rw [found] at present
      cases present
  | some zone =>
      simp only [IntegrationZones.erase, found, IntegrationZones.dropPlayers_apply]
      split_ifs with active
      · have own : zones.findMapByPlayerKey playerKey = some key :=
          (consistent _ _).mpr ⟨zone, found, active⟩
        rw [own, Option.some.injEq]
        simp only [false_iff, not_and]
        exact fun different same => different same.symm
      · rw [iff_and_self]
        rintro named rfl
        obtain ⟨rival, present, inside⟩ := (consistent _ _).mp named
        rw [found] at present
        cases present
        exact active inside

/-- **A successful insertion keeps the index exact.** -/
theorem Consistent.insert {activePlayers : IntegrationZoneInstance → OrderedSet PlayerKey}
    (consistent : zones.Consistent activePlayers)
    (insertable : zones.Insertable zone.integrationZoneInstanceKey (activePlayers zone)) :
    (zones.insertSection zone (activePlayers zone)).2.Consistent activePlayers := by
  intro playerKey other
  rw [insertSection_of_insertable insertable]
  simp only [OrderedMap.find?_insertOrAssign]
  by_cases inside : playerKey ∈ (activePlayers zone).elements
  · rw [if_pos inside, Option.some.injEq]
    constructor
    · rintro rfl
      exact ⟨zone, if_pos rfl, inside⟩
    · rintro ⟨stored, found, active⟩
      by_contra different
      rw [if_neg (Ne.symm different)] at found
      have indexed := (consistent playerKey other).mpr ⟨stored, found, active⟩
      rw [insertable.2 playerKey inside] at indexed
      cases indexed
  · rw [if_neg inside, consistent]
    constructor
    · rintro ⟨stored, found, active⟩
      refine ⟨stored, ?_, active⟩
      rw [if_neg, found]
      rintro rfl
      rw [insertable.1] at found
      cases found
    · rintro ⟨stored, found, active⟩
      split_ifs at found with same
      · cases found
        exact (inside active).elim
      · exact ⟨stored, found, active⟩

end IntegrationZones

/-- The key of the zone an insertion makes. -/
def IntegrationZoneInstanceInfo.key (info : IntegrationZoneInstanceInfo) :
    IntegrationZoneInstanceKey := toLex (info.worldNo, info.zoneGuid)

theorem insert_run (info : IntegrationZoneInstanceInfo) (world : World) :
    let inserted := world.zones.insertSection (world.newZoneInstance info) info.players
    let run := (IntegrationZoneInstanceManager.insert (some info)).run perform world
    (inserted.1 = true → run.1 = some (world.newZoneInstance info) ∧
      run.2.zones = inserted.2) ∧
    (inserted.1 = false → run.1 = none ∧ run.2.zones = (inserted.2.erase info.key
      (Function.update world.playerSessions (world.newZoneInstance info) info.players)).2) := by
  simp only [IntegrationZoneInstanceManager.insert, IntegrationZoneInstanceManager.erase,
    IntegrationZoneInstanceManager.getExpireTimeMsec, readWorld, Program.run_bind,
    Program.run_atomically, Program.run_ite, Program.run_pure, perform, Function.update_self]
  constructor <;> intro outcome <;> simp only [outcome]
  · exact ⟨rfl, rfl⟩
  · exact ⟨rfl, rfl⟩

/-- **When a failing insertion changes nothing.** Whenever a call returns no zone
it leaves the zone map and the player index as they were, exactly if there was no
zone info, or the zone could be inserted and the call does not fail. -/
theorem insert_failure_keeps_zones_iff (world : World) (info : Option IntegrationZoneInstanceInfo) :
    (((IntegrationZoneInstanceManager.insert info).run perform world).1 = none →
      ((IntegrationZoneInstanceManager.insert info).run perform world).2.zones = world.zones) ↔
    ∀ given, info = some given → world.zones.Insertable given.key given.players := by
  cases info with
  | none => exact ⟨fun _ => nofun, fun _ _ => rfl⟩
  | some info =>
      obtain ⟨success, failure⟩ := insert_run info world
      simp only [Option.some.injEq, forall_eq']
      by_cases insertable : world.zones.Insertable info.key info.players
      · have inserted : (world.zones.insertSection (world.newZoneInstance info)
            info.players).1 = true := IntegrationZones.insertSection_fst_iff.mpr insertable
        simp only [(success inserted).1, reduceCtorEq, false_implies, true_iff]
        exact insertable
      · have refused : (world.zones.insertSection (world.newZoneInstance info)
            info.players).1 = false := by
          rw [← Bool.not_eq_true, IntegrationZones.insertSection_fst_iff]
          exact insertable
        simp only [(failure refused).1, (failure refused).2, true_implies, insertable, iff_false]
        intro unchanged
        by_cases taken : world.zones.instanceMap.find? info.key = none
        · have indexed : ∃ playerKey ∈ info.players.elements,
              world.zones.findMapByPlayerKey playerKey ≠ none := by
            by_contra unindexed
            push Not at unindexed
            exact insertable ⟨taken, unindexed⟩
          obtain ⟨playerKey, inside, present⟩ := indexed
          apply present
          rw [← unchanged, IntegrationZones.insertSection,
            show (world.newZoneInstance info).integrationZoneInstanceKey = info.key from rfl,
            OrderedMap.contains_eq_false_iff.mpr taken]
          simp [IntegrationZones.erase, IntegrationZones.dropPlayers_apply, inside]
        · apply taken
          rw [← unchanged, IntegrationZones.insertSection,
            show (world.newZoneInstance info).integrationZoneInstanceKey = info.key from rfl,
            OrderedMap.contains_iff.mpr (Option.ne_none_iff_exists'.mp taken), if_pos rfl]
          obtain ⟨zone, found⟩ := Option.ne_none_iff_exists'.mp taken
          simp [IntegrationZones.erase, found]

/-- A zone for one player. -/
def soleZoneInfo : IntegrationZoneInstanceInfo :=
  { zoneGuid := 1000, worldNo := 0, players := ⟨[7], by decide⟩ }

/-- The state after the zone was inserted into an empty system. -/
def soleZoneWorld : World :=
  ((IntegrationZoneInstanceManager.insert (some soleZoneInfo)).run perform {}).2

theorem soleZoneWorld_consistent :
    soleZoneWorld.zones.Consistent soleZoneWorld.playerSessions := by
  have empty : ({} : IntegrationZones).Consistent soleZoneWorld.playerSessions :=
    fun _ _ => ⟨nofun, nofun⟩
  exact empty.insert (by decide)

/-- A second insertion under the key of a registered zone fails and removes the
registered zone. -/
theorem insert_under_registered_key_erases_incumbent :
    soleZoneWorld.zones.Consistent soleZoneWorld.playerSessions ∧
      ((IntegrationZoneInstanceManager.insert (some soleZoneInfo)).run perform
        soleZoneWorld).1 = none ∧
      ((IntegrationZoneInstanceManager.insert (some soleZoneInfo)).run perform
        soleZoneWorld).2.zones ≠ soleZoneWorld.zones := by
  refine ⟨soleZoneWorld_consistent, by decide, fun same => ?_⟩
  have indexed := congrArg (fun zones => zones.findMapByPlayerKey 7) same
  exact absurd indexed (by decide)

end MatchmakingMvp
