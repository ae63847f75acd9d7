import MatchmakingMvp.Integration.ZoneIndex

/-! # What happens to the registered zones

All that the operations of the zone manager do to the zones, insertions apart, is made
of two moves: a zone is erased, or a player leaves the zone the index names for him
(`MatchmakingMvp.World.ZoneMove`). Whatever both moves keep, every such operation keeps.
In particular no zone stays registered after its last player left it
(`MatchmakingMvp.World.ZoneMoves.attends`).
-/

namespace MatchmakingMvp

open Foundation

/-- A section that leaves the zones and their players alone, takes no job away and does not
take the clock further. -/
def Section.zoneCalm : Section → Bool
  | .newZoneInstance _ | .insertZoneInstance _ | .eraseZoneInstance _ | .removePlayerSession _ _
  | .eraseZonePlayer _ | .takeZoneJob | .tick _ => false
  | _ => true

/-- The zones, their players and the objects made stay as they are. -/
structure World.KeepsZones (before after : World) : Prop where
  zones : after.zones = before.zones
  playerSessions : after.playerSessions = before.playerSessions
  zoneInstanceCount : after.zoneInstanceCount = before.zoneInstanceCount

theorem Section.keepsZones_of_calm {step : Section} (calm : step.zoneCalm = true)
    (world : World) : world.KeepsZones (perform step world) := by
  cases step with
  | newZoneInstance | insertZoneInstance | eraseZoneInstance | removePlayerSession
  | eraseZonePlayer | takeZoneJob | tick => cases calm
  | nextIntegrationWorldNo worldGroupNo =>
      simp only [perform]
      split_ifs
      · exact ⟨rfl, rfl, rfl⟩
      · exact ⟨rfl, rfl, rfl⟩
  | _ => exact ⟨rfl, rfl, rfl⟩

namespace World

/-- The state after the player left the zone, which ends if it is empty then. -/
def departed (world : World) (zone : IntegrationZoneInstance) (playerKey : PlayerKey) : World :=
  let removed := perform (.removePlayerSession zone playerKey) world
  perform (.eraseZonePlayer playerKey)
    (if (removed.playerSessions zone).elements.isEmpty then
      perform (.eraseZoneInstance zone.integrationZoneInstanceKey) removed
    else removed)

/-- The zone the index names for the player is registered under the key. -/
def Resolves (world : World) (playerKey : PlayerKey) (key : IntegrationZoneInstanceKey)
    (zone : IntegrationZoneInstance) : Prop :=
  world.zones.findMapByPlayerKey playerKey = some key ∧
    world.zones.instanceMap.find? key = some zone

/-- One thing that happens to the zones. -/
inductive ZoneMove : World → World → Prop
  | calm {world : World} (step : Section) (calm : step.zoneCalm = true) :
      ZoneMove world (perform step world)
  | erase {world : World} (key : IntegrationZoneInstanceKey) :
      ZoneMove world (perform (.eraseZoneInstance key) world)
  | leave {world : World} {playerKey : PlayerKey} {key : IntegrationZoneInstanceKey}
      {zone : IntegrationZoneInstance} (resolves : world.Resolves playerKey key zone) :
      ZoneMove world (world.departed zone playerKey)

/-- One thing after another. -/
abbrev ZoneMoves : World → World → Prop := Relation.ReflTransGen ZoneMove

end World

namespace IntegrationZoneInstanceManager

theorem run_eraseByPlayerKey_of_absent {world : World} {playerKey : PlayerKey}
    (absent : (world.zones.findMapByPlayerKey playerKey).bind world.zones.instanceMap.find? =
      none) :
    (eraseByPlayerKey playerKey).run perform world = (none, world) := by
  rw [eraseByPlayerKey, Program.run_bind, run_findByPlayerKey, absent]
  rfl

theorem run_eraseByPlayerKey {world : World} {playerKey : PlayerKey}
    {key : IntegrationZoneInstanceKey} {zone : IntegrationZoneInstance}
    (resolves : world.Resolves playerKey key zone) :
    (eraseByPlayerKey playerKey).run perform world =
      (some zone, world.departed zone playerKey) := by
  rw [eraseByPlayerKey, Program.run_bind, run_findByPlayerKey, resolves.1, Option.bind_some,
    resolves.2]
  simp only [Program.run_bind, Program.run_atomically, run_readWorld, Program.run_ite,
    Program.run_pure, World.departed, erase]
  split_ifs <;> rfl

/-- The index names a registered zone for the player, or none. -/
theorem resolves_or (world : World) (playerKey : PlayerKey) :
    (world.zones.findMapByPlayerKey playerKey).bind world.zones.instanceMap.find? = none ∨
      ∃ key zone, world.Resolves playerKey key zone := by
  cases named : (world.zones.findMapByPlayerKey playerKey).bind
      world.zones.instanceMap.find? with
  | none => exact Or.inl rfl
  | some zone =>
      obtain ⟨key, owned, found⟩ := Option.bind_eq_some_iff.mp named
      exact Or.inr ⟨key, zone, owned, found⟩

end IntegrationZoneInstanceManager

/-! ## What the moves keep -/

namespace World

section Departure

variable {world : World} {playerKey : PlayerKey} {key : IntegrationZoneInstanceKey}
  {zone : IntegrationZoneInstance}

theorem departed_of_populated
    (populated : ((world.playerSessions zone).erase playerKey).elements ≠ []) :
    world.departed zone playerKey = world.left zone playerKey := by
  rw [departed, left]
  congr 1
  apply if_neg
  simpa only [List.isEmpty_iff, perform, Function.update_self] using populated

theorem departed_of_emptied
    (emptied : ((world.playerSessions zone).erase playerKey).elements = []) :
    world.departed zone playerKey = perform (.eraseZonePlayer playerKey)
      (perform (.eraseZoneInstance zone.integrationZoneInstanceKey)
        (perform (.removePlayerSession zone playerKey) world)) := by
  rw [departed]
  congr 1
  apply if_pos
  simpa only [List.isEmpty_iff, perform, Function.update_self] using emptied

theorem departed_playerSessions :
    (world.departed zone playerKey).playerSessions =
      Function.update world.playerSessions zone
        ((world.playerSessions zone).erase playerKey) := by
  by_cases emptied : ((world.playerSessions zone).erase playerKey).elements = []
  · rw [departed_of_emptied emptied]
    rfl
  · rw [departed_of_populated emptied]
    rfl

theorem departed_zoneInstanceCount :
    (world.departed zone playerKey).zoneInstanceCount = world.zoneInstanceCount := by
  by_cases emptied : ((world.playerSessions zone).erase playerKey).elements = []
  · rw [departed_of_emptied emptied]
    rfl
  · rw [departed_of_populated emptied]
    rfl

/-- A zone that ends with a departure has no player left to drop from the index. -/
theorem departed_findMapByPlayerKey
    (found : world.zones.instanceMap.find? zone.integrationZoneInstanceKey = some zone) :
    (world.departed zone playerKey).zones.findMapByPlayerKey =
      Function.update world.zones.findMapByPlayerKey playerKey none := by
  by_cases emptied : ((world.playerSessions zone).erase playerKey).elements = []
  · rw [departed_of_emptied emptied]
    simp only [perform, IntegrationZones.erase, found, Function.update_self, emptied,
      IntegrationZones.dropPlayers, List.foldl_nil]
  · rw [departed_of_populated emptied]
    rfl

theorem departed_find?_iff
    (found : world.zones.instanceMap.find? zone.integrationZoneInstanceKey = some zone)
    {other : IntegrationZoneInstanceKey} {rival : IntegrationZoneInstance} :
    (world.departed zone playerKey).zones.instanceMap.find? other = some rival ↔
      world.zones.instanceMap.find? other = some rival ∧
        (other = zone.integrationZoneInstanceKey →
          ((world.playerSessions zone).erase playerKey).elements ≠ []) := by
  by_cases emptied : ((world.playerSessions zone).erase playerKey).elements = []
  · rw [departed_of_emptied emptied]
    simp only [perform, IntegrationZones.erase, found, OrderedMap.find?_erase, emptied]
    split_ifs with same <;> simp [same]
  · rw [departed_of_populated emptied]
    exact ⟨fun present => ⟨present, fun _ => emptied⟩, And.left⟩

end Departure

/-- Zones are registered under their own keys, objects to come are not registered yet, and
the index names no zone but the one the player is in. -/
structure ZonesSound (world : World) : Prop where
  keyed : ∀ {key zone}, world.zones.instanceMap.find? key = some zone →
    zone.integrationZoneInstanceKey = key
  made : ∀ {key zone}, world.zones.instanceMap.find? key = some zone →
    zone.serial < world.zoneInstanceCount
  sound : ∀ {playerKey key}, world.zones.findMapByPlayerKey playerKey = some key →
    world.Hosts playerKey key

theorem ZonesIndexed.toSound {world : World} (indexed : world.ZonesIndexed) :
    world.ZonesSound :=
  ⟨indexed.keyed, indexed.made, indexed.indexed.mp⟩

/-- The zones registered afterwards were so before or are new, and no zone that stays
registered lost all its players. -/
structure ZonesAttended (before after : World) : Prop where
  count : before.zoneInstanceCount ≤ after.zoneInstanceCount
  registered : ∀ {key zone}, after.zones.instanceMap.find? key = some zone →
    before.zones.instanceMap.find? key = some zone ∨ before.zoneInstanceCount ≤ zone.serial
  attended : ∀ {key zone}, before.zones.instanceMap.find? key = some zone →
    after.zones.instanceMap.find? key = some zone →
    (before.playerSessions zone).elements ≠ [] → (after.playerSessions zone).elements ≠ []

theorem ZonesAttended.trans {before middle after : World} (sound : before.ZonesSound)
    (first : before.ZonesAttended middle) (second : middle.ZonesAttended after) :
    before.ZonesAttended after := by
  refine ⟨first.count.trans second.count, fun present => ?_, fun early late attended => ?_⟩
  · rcases second.registered present with between | new
    · exact first.registered between
    · exact Or.inr (first.count.trans new)
  · have between := (second.registered late).resolve_right
      (not_le.mpr ((sound.made early).trans_le first.count))
    exact second.attended between late (first.attended early between attended)

variable {world after : World}

theorem KeepsZones.hosts (keeps : world.KeepsZones after) {playerKey : PlayerKey}
    {key : IntegrationZoneInstanceKey} :
    after.Hosts playerKey key ↔ world.Hosts playerKey key := by
  rw [Hosts, Hosts, keeps.zones, keeps.playerSessions]

theorem KeepsZones.sound (keeps : world.KeepsZones after) (sound : world.ZonesSound) :
    after.ZonesSound := by
  refine ⟨?_, ?_, ?_⟩
  · rw [keeps.zones]
    exact sound.keyed
  · rw [keeps.zones, keeps.zoneInstanceCount]
    exact sound.made
  · intro playerKey key named
    rw [keeps.zones] at named
    exact keeps.hosts.mpr (sound.sound named)

theorem KeepsZones.attends (keeps : world.KeepsZones after) : world.ZonesAttended after := by
  refine ⟨keeps.zoneInstanceCount.ge, ?_, ?_⟩
  · rw [keeps.zones]
    exact Or.inl
  · rw [keeps.playerSessions]
    exact fun _ _ => id

/-- **Every move keeps the index sound.** -/
theorem ZoneMove.sound (move : world.ZoneMove after) (sound : world.ZonesSound) :
    after.ZonesSound := by
  cases move with
  | calm step calm => exact (Section.keepsZones_of_calm calm world).sound sound
  | erase key =>
      refine ⟨fun present => sound.keyed (find?_eraseZoneInstance.mp present).2,
        fun present => sound.made (find?_eraseZoneInstance.mp present).2, ?_⟩
      intro playerKey other named
      rw [hosts_eraseZoneInstance]
      cases found : world.zones.instanceMap.find? key with
      | none =>
          simp only [perform, IntegrationZones.erase, found] at named
          have inside := sound.sound named
          refine ⟨?_, inside⟩
          rintro rfl
          obtain ⟨zone, present, -⟩ := inside
          rw [found] at present
          cases present
      | some zone =>
          simp only [perform, IntegrationZones.erase, found,
            IntegrationZones.dropPlayers_apply] at named
          split_ifs at named with active
          have inside := sound.sound named
          refine ⟨?_, inside⟩
          rintro rfl
          obtain ⟨rival, present, member⟩ := inside
          rw [found] at present
          cases present
          exact active member
  | @leave playerKey key zone resolves =>
      obtain rfl := sound.keyed resolves.2
      refine ⟨fun present => sound.keyed ((departed_find?_iff resolves.2).mp present).1, ?_, ?_⟩
      · intro other rival present
        rw [departed_zoneInstanceCount]
        exact sound.made ((departed_find?_iff resolves.2).mp present).1
      · intro player other named
        rw [departed_findMapByPlayerKey resolves.2] at named
        by_cases own : player = playerKey
        · rw [own, Function.update_self] at named
          cases named
        · rw [Function.update_of_ne own] at named
          obtain ⟨rival, present, active⟩ := sound.sound named
          have stays : player ∈
              ((world.departed zone playerKey).playerSessions rival).elements := by
            rw [departed_playerSessions]
            by_cases same : rival = zone
            · rw [same] at active ⊢
              rw [Function.update_self, OrderedSet.mem_erase]
              exact ⟨active, own⟩
            · rwa [Function.update_of_ne same]
          refine ⟨rival, (departed_find?_iff resolves.2).mpr ⟨present, ?_⟩, stays⟩
          rintro rfl empty
          obtain rfl : rival = zone := Option.some.inj (present.symm.trans resolves.2)
          rw [departed_playerSessions, Function.update_self, empty] at stays
          cases stays

/-- **Every move keeps an exact index exact.** -/
theorem ZoneMove.recede (move : world.ZoneMove after) (indexed : world.ZonesIndexed) :
    world.ZonesRecede after := by
  cases move with
  | calm step calm =>
      have keeps := Section.keepsZones_of_calm calm world
      exact indexed.recede_of_eq keeps.zones keeps.playerSessions keeps.zoneInstanceCount
  | erase key => exact indexed.erase key
  | @leave playerKey key zone resolves =>
      have recede := IntegrationZoneInstanceManager.recede_eraseByPlayerKey indexed playerKey
      rwa [IntegrationZoneInstanceManager.run_eraseByPlayerKey resolves] at recede

/-- **A zone ends with its last player.** -/
theorem ZoneMove.attends (move : world.ZoneMove after) (sound : world.ZonesSound) :
    world.ZonesAttended after := by
  cases move with
  | calm step calm => exact (Section.keepsZones_of_calm calm world).attends
  | erase key =>
      exact ⟨le_rfl, fun present => Or.inl (find?_eraseZoneInstance.mp present).2,
        fun _ _ => id⟩
  | @leave playerKey key zone resolves =>
      obtain rfl := sound.keyed resolves.2
      refine ⟨departed_zoneInstanceCount.ge,
        fun present => Or.inl ((departed_find?_iff resolves.2).mp present).1, ?_⟩
      intro other rival earlier present attended
      have populated := ((departed_find?_iff resolves.2).mp present).2
      rw [departed_playerSessions]
      by_cases same : rival = zone
      · subst same
        rw [Function.update_self]
        exact populated (sound.keyed earlier).symm
      · rwa [Function.update_of_ne same]

theorem ZoneMoves.sound (moves : world.ZoneMoves after) (sound : world.ZonesSound) :
    after.ZonesSound := by
  induction moves with
  | refl => exact sound
  | tail _ move ih => exact move.sound ih

theorem ZoneMoves.recede (moves : world.ZoneMoves after) (indexed : world.ZonesIndexed) :
    world.ZonesRecede after := by
  induction moves with
  | refl => exact indexed.recede_of_eq rfl rfl rfl
  | tail _ move ih => exact ih.trans (move.recede ih.zones)

theorem ZoneMoves.attends (moves : world.ZoneMoves after) (sound : world.ZonesSound) :
    world.ZonesAttended after := by
  induction moves with
  | refl => exact ⟨le_rfl, Or.inl, fun _ _ => id⟩
  | tail prior move ih => exact ih.trans sound (move.attends (ZoneMoves.sound prior sound))

/-! ## Insertions -/

/-- The zone of an insertion whose section is done. -/
def entered (world : World) (info : IntegrationZoneInstanceInfo) : World :=
  perform (.insertZoneInstance (world.newZoneInstance info))
    (perform (.newZoneInstance info) world)

theorem entered_playerSessions (info : IntegrationZoneInstanceInfo) :
    (world.entered info).playerSessions =
      Function.update world.playerSessions (world.newZoneInstance info) info.players := (rfl)

theorem entered_zones (info : IntegrationZoneInstanceInfo) :
    (world.entered info).zones =
      (world.zones.insertSection (world.newZoneInstance info) info.players).2 := by
  simp only [entered, perform, Function.update_self]

theorem entered_find? {info : IntegrationZoneInstanceInfo} {key : IntegrationZoneInstanceKey}
    {zone : IntegrationZoneInstance}
    (present : (world.entered info).zones.instanceMap.find? key = some zone) :
    world.zones.instanceMap.find? key = some zone ∨
      key = info.key ∧ zone = world.newZoneInstance info := by
  rw [entered_zones, IntegrationZones.insertSection] at present
  dsimp only at present
  split_ifs at present with taken
  · exact Or.inl present
  · rw [OrderedMap.find?_insertOrAssign] at present
    split_ifs at present with same
    · exact Or.inr ⟨same, (Option.some.inj present).symm⟩
    · exact Or.inl present

/-- **The section of an insertion keeps the index sound**, whether it succeeds or not. -/
theorem ZonesSound.entered (sound : world.ZonesSound) (info : IntegrationZoneInstanceInfo) :
    (world.entered info).ZonesSound := by
  refine ⟨?_, ?_, ?_⟩
  · intro key zone present
    rcases entered_find? present with earlier | ⟨rfl, rfl⟩
    · exact sound.keyed earlier
    · rfl
  · intro key zone present
    rcases entered_find? present with earlier | ⟨-, rfl⟩
    · exact (sound.made earlier).trans (Nat.lt_succ_self _)
    · exact Nat.lt_succ_self _
  · intro playerKey key named
    have others : ∀ {other : IntegrationZoneInstanceKey} {rival : IntegrationZoneInstance},
        world.zones.instanceMap.find? other = some rival →
        (world.entered info).playerSessions rival = world.playerSessions rival := by
      intro other rival present
      rw [entered_playerSessions, Function.update_of_ne]
      rintro rfl
      exact absurd (sound.made present) (lt_irrefl _)
    rw [entered_zones, IntegrationZones.insertSection] at named
    dsimp only at named
    split_ifs at named with taken
    · obtain ⟨rival, present, inside⟩ := sound.sound named
      refine ⟨rival, ?_, by rwa [others present]⟩
      rw [entered_zones, IntegrationZones.insertSection]
      dsimp only
      rwa [if_pos taken]
    · have unused := OrderedMap.contains_eq_false_iff.mp (Bool.not_eq_true _ ▸ taken)
      have stored : (world.entered info).zones.instanceMap =
          world.zones.instanceMap.insertOrAssign info.key (world.newZoneInstance info) := by
        rw [entered_zones, IntegrationZones.insertSection]
        dsimp only
        rw [if_neg taken]
        rfl
      rcases IntegrationZones.mem_or_of_indexPlayers named with ⟨inside, rfl⟩ | earlier
      · refine ⟨world.newZoneInstance info, ?_, ?_⟩
        · rw [stored]
          exact (OrderedMap.find?_insertOrAssign _ _ _ _).trans (if_pos rfl)
        · rwa [entered_playerSessions, Function.update_self]
      · obtain ⟨rival, present, inside⟩ := sound.sound earlier
        refine ⟨rival, ?_, by rwa [others present]⟩
        rw [stored, OrderedMap.find?_insertOrAssign, if_neg]
        · exact present
        · rintro rfl
          exact absurd (present.symm.trans unused) (by rintro ⟨⟩)

/-- An insertion takes no player out of a zone. -/
theorem ZonesSound.entered_attends (sound : world.ZonesSound)
    (info : IntegrationZoneInstanceInfo) : world.ZonesAttended (world.entered info) := by
  refine ⟨Nat.le_succ _, fun present => ?_, fun earlier _ attended => ?_⟩
  · rcases entered_find? present with earlier | ⟨-, rfl⟩
    · exact Or.inl earlier
    · exact Or.inr le_rfl
  · rw [entered_playerSessions, Function.update_of_ne]
    · exact attended
    · rintro rfl
      exact absurd (sound.made earlier) (lt_irrefl _)

end World

/-! ## Operations of zone moves -/

/-- A complete run of the operation is made of zone moves. -/
def MovesZones {Result : Type} (operation : Operation Result) : Prop :=
  ∀ world : World, world.ZoneMoves (operation.run perform world).2

section Composition

variable {First Second Element : Type}

theorem movesZones_pure (result : First) : MovesZones (pure result : Operation First) :=
  fun _ => .refl

theorem movesZones_calm {step : Section} (calm : step.zoneCalm = true)
    (reading : World → First) : MovesZones (Program.atomically step reading) :=
  fun _ => .single (.calm step calm)

theorem movesZones_readWorld (reading : World → First) : MovesZones (readWorld reading) :=
  movesZones_calm rfl reading

theorem MovesZones.bind {operation : Operation First} {continuation : First → Operation Second}
    (first : MovesZones operation) (second : ∀ result, MovesZones (continuation result)) :
    MovesZones (operation >>= continuation) := by
  intro world
  rw [Program.run_bind]
  exact (first world).trans (second _ _)

theorem MovesZones.ite {condition : Prop} [Decidable condition] {operation other : Operation First}
    (first : MovesZones operation) (second : MovesZones other) :
    MovesZones (if condition then operation else other) := by
  split_ifs
  · exact first
  · exact second

theorem movesZones_forAll {operation : Element → Operation Unit} {elements : List Element}
    (each : ∀ element, MovesZones (operation element)) :
    MovesZones (forAll elements operation) := by
  induction elements with
  | nil => exact movesZones_pure ()
  | cons element rest ih => exact (each element).bind fun _ => ih

end Composition

namespace IntegrationZoneInstanceManager

theorem movesZones_eraseByPlayerKey (playerKey : PlayerKey) :
    MovesZones (eraseByPlayerKey playerKey) := by
  intro world
  rcases resolves_or world playerKey with absent | ⟨key, zone, resolves⟩
  · rw [run_eraseByPlayerKey_of_absent absent]
  · rw [run_eraseByPlayerKey resolves]
    exact .single (.leave resolves)

theorem movesZones_findByPlayerKey (playerKey : PlayerKey) :
    MovesZones (findByPlayerKey playerKey) := by
  intro world
  rw [run_findByPlayerKey]

theorem movesZones_erase (key : IntegrationZoneInstanceKey) : MovesZones (erase key) :=
  fun _ => .single (.erase key)

theorem movesZones_addDodgePenalty (playerKey : PlayerKey) (penaltyExpireTimeMsec : Int) :
    MovesZones (MatchPenaltyManager.addDodgePenalty playerKey penaltyExpireTimeMsec) :=
  (movesZones_calm rfl _).bind fun _ => movesZones_calm rfl _

theorem movesZones_processIntegrationServerClosed (sessionKey worldNo : Int) :
    MovesZones (processIntegrationServerClosed sessionKey worldNo) :=
  (movesZones_readWorld _).bind fun _ => movesZones_calm rfl _

theorem movesZones_processIntegrationServerClosedAsync (sessionKey worldNo : Int) :
    MovesZones (processIntegrationServerClosedAsync sessionKey worldNo) := by
  apply (movesZones_readWorld _).bind
  intro zones
  apply movesZones_forAll
  intro zone
  apply MovesZones.ite (movesZones_pure ())
  apply MovesZones.ite (movesZones_pure ())
  exact MovesZones.ite ((movesZones_erase _).bind fun _ => movesZones_pure ())
    (movesZones_pure ())

theorem movesZones_processZoneInstanceExpireAsync (key : IntegrationZoneInstanceKey) :
    MovesZones (processZoneInstanceExpireAsync key) := by
  apply (movesZones_readWorld _).bind
  intro found
  cases found with
  | none => exact movesZones_pure ()
  | some zone =>
      apply (movesZones_readWorld _).bind
      intro expireTimeMsec
      apply (movesZones_readWorld _).bind
      intro now
      apply MovesZones.ite
      · exact (movesZones_readWorld _).bind fun _ => movesZones_calm rfl _
      · exact (movesZones_erase key).bind fun _ => movesZones_pure ()

theorem movesZones_processPlayerLeaveToIntegrationServer (playerKey : PlayerKey)
    (isDodge : Bool) : MovesZones (processPlayerLeaveToIntegrationServer playerKey isDodge) := by
  apply (movesZones_findByPlayerKey playerKey).bind
  intro found
  cases found with
  | none => exact movesZones_pure false
  | some zone =>
      exact (movesZones_readWorld _).bind fun _ => (movesZones_calm rfl _).bind fun _ =>
        movesZones_pure true

theorem movesZones_processPlayerLeavedFromIntegrationServer (playerKey : PlayerKey)
    (isDodge : Bool) :
    MovesZones (processPlayerLeavedFromIntegrationServer playerKey isDodge) := by
  apply (movesZones_eraseByPlayerKey playerKey).bind
  intro left
  cases left with
  | none => exact movesZones_pure ()
  | some zone =>
      have read : ∀ _ : Unit, MovesZones (do
          let _ ← MatchPenaltyManager.findDodgePenalty playerKey : Operation Unit) :=
        fun _ => (movesZones_readWorld _).bind fun _ => movesZones_pure ()
      apply MovesZones.ite
      · exact (movesZones_readWorld _).bind fun _ =>
          (movesZones_addDodgePenalty _ _).bind read
      · exact read ()

theorem movesZones_processZoneInstanceInfoUpdated (key : IntegrationZoneInstanceKey) :
    MovesZones (processZoneInstanceInfoUpdatedFromIntegrationServer key) := by
  apply (movesZones_readWorld _).bind
  intro found
  cases found with
  | none => exact movesZones_pure ()
  | some zone => exact movesZones_calm rfl _

theorem movesZones_processZoneInstanceTerminated (info : IntegrationZoneInstanceInfo) :
    MovesZones (processZoneInstanceTerminatedFromIntegrationServer info) := by
  apply (movesZones_readWorld _).bind
  intro found
  cases found with
  | none => exact movesZones_pure ()
  | some zone =>
      apply (movesZones_forAll fun playerKey =>
        movesZones_processPlayerLeavedFromIntegrationServer playerKey _).bind
      intro _
      exact (movesZones_erase _).bind fun _ => movesZones_pure ()

/-- An insertion undoes its section where that fails, and schedules the zone's end where it
succeeds. -/
theorem run_insert (info : IntegrationZoneInstanceInfo) (world : World) :
    (insert (some info)).run perform world =
      if (world.zones.insertSection (world.newZoneInstance info) info.players).1 = false then
        (none, perform (.eraseZoneInstance info.key) (world.entered info))
      else
        (some (world.newZoneInstance info),
          perform (.addZoneJob (world.timeMsec + kExpireDelayMsec) (.expire info.key))
            (world.entered info)) := by
  simp only [insert, Program.run_bind, Program.run_atomically, Program.run_ite, Program.run_pure,
    getExpireTimeMsec, run_readWorld, erase]
  have players : (perform (.newZoneInstance info) world).playerSessions
      (world.newZoneInstance info) = info.players := Function.update_self _ _ _
  have zones : (perform (.newZoneInstance info) world).zones = world.zones := rfl
  have updated : (world.entered info).zoneUpdateTimeMsec (world.newZoneInstance info) =
      world.timeMsec := Function.update_self _ _ _
  rw [players, zones]
  split_ifs
  · rfl
  · rw [← updated]
    rfl

/-- An insertion enters a zone and goes on with a move. -/
theorem insert_moves (info : IntegrationZoneInstanceInfo) (world : World) :
    (world.entered info).ZoneMove ((insert (some info)).run perform world).2 := by
  rw [run_insert]
  split_ifs
  · exact .erase info.key
  · exact .calm (.addZoneJob _ _) rfl

end IntegrationZoneInstanceManager

theorem ZoneJob.movesZones (job : ZoneJob) : MovesZones job.operation := by
  cases job with
  | serverClosed sessionKey worldNo =>
      exact IntegrationZoneInstanceManager.movesZones_processIntegrationServerClosedAsync _ _
  | expire key =>
      exact IntegrationZoneInstanceManager.movesZones_processZoneInstanceExpireAsync _
  | playerLeaved playerKey isDodge =>
      exact IntegrationZoneInstanceManager.movesZones_processPlayerLeavedFromIntegrationServer
        _ _

end MatchmakingMvp
