import MatchmakingMvp.Integration.ZoneRuns

/-! # Removals and the zones they are about

A termination names its players in its payload, and a leave job carries a player key. Both
look the player's zone up when they are processed, so they reach into another zone if a
named player is indexed there by then. They keep to their own zone, and punish only players
who are active in it, exactly if every player they look up is indexed there or nowhere
(`MatchmakingMvp.removal_scoped_iff`).
-/

namespace MatchmakingMvp

open Foundation

namespace World

/-- Nothing but the zone under the key changes: no other registration, no active player of
another zone, and nobody's index entry for another zone. -/
structure SparesOthers (before after : World) (key : IntegrationZoneInstanceKey) : Prop where
  registration : ∀ other, other ≠ key →
    after.zones.instanceMap.find? other = before.zones.instanceMap.find? other
  players : ∀ other, other ≠ key → ∀ zone,
    before.zones.instanceMap.find? other = some zone →
    after.playerSessions zone = before.playerSessions zone
  index : ∀ other, other ≠ key → ∀ playerKey,
    after.zones.findMapByPlayerKey playerKey = some other ↔
      before.zones.findMapByPlayerKey playerKey = some other

/-- Nobody enters a zone or the index. -/
structure Shrinks (before after : World) : Prop where
  index : ∀ {playerKey key}, after.zones.findMapByPlayerKey playerKey = some key →
    before.zones.findMapByPlayerKey playerKey = some key
  hosts : ∀ {playerKey key}, after.Hosts playerKey key → before.Hosts playerKey key

variable {before middle after world : World} {key : IntegrationZoneInstanceKey}

theorem SparesOthers.trans (first : before.SparesOthers middle key)
    (second : middle.SparesOthers after key) : before.SparesOthers after key := by
  refine ⟨fun other away => ?_, fun other away zone found => ?_, fun other away playerKey => ?_⟩
  · rw [second.registration other away, first.registration other away]
  · rw [second.players other away zone (by rwa [first.registration other away]),
      first.players other away zone found]
  · rw [second.index other away, first.index other away]

theorem Shrinks.trans (first : before.Shrinks middle) (second : middle.Shrinks after) :
    before.Shrinks after :=
  ⟨fun named => first.index (second.index named), fun hosts => first.hosts (second.hosts hosts)⟩

theorem KeepsZones.sparesOthers (keeps : before.KeepsZones after)
    (key : IntegrationZoneInstanceKey) : before.SparesOthers after key := by
  refine ⟨fun _ _ => ?_, fun _ _ _ _ => ?_, fun _ _ _ => ?_⟩
  · rw [keeps.zones]
  · rw [keeps.playerSessions]
  · rw [keeps.zones]

theorem KeepsZones.shrinks (keeps : before.KeepsZones after) : before.Shrinks after := by
  refine ⟨?_, keeps.hosts.mp⟩
  rw [keeps.zones]
  exact id

/-- Players leave and zones end; nobody comes. -/
theorem ZoneMove.shrinks (move : before.ZoneMove after) (sound : before.ZonesSound) :
    before.Shrinks after := by
  cases move with
  | calm step calm => exact (Section.keepsZones_of_calm calm before).shrinks
  | erase key =>
      refine ⟨fun named => ?_, fun hosts => (hosts_eraseZoneInstance.mp hosts).2⟩
      simp only [perform, IntegrationZones.erase] at named
      split at named
      · exact named
      · simp only [IntegrationZones.dropPlayers_apply] at named
        split_ifs at named
        exact named
  | @leave playerKey key zone resolves =>
      obtain rfl := sound.keyed resolves.2
      refine ⟨fun {player other} named => ?_, ?_⟩
      · rw [departed_findMapByPlayerKey resolves.2] at named
        by_cases own : player = playerKey
        · rw [own, Function.update_self] at named
          cases named
        · rwa [Function.update_of_ne own] at named
      · rintro player other ⟨rival, present, inside⟩
        refine ⟨rival, ((departed_find?_iff resolves.2).mp present).1, ?_⟩
        rw [departed_playerSessions] at inside
        by_cases same : rival = zone
        · rw [same, Function.update_self, OrderedSet.mem_erase] at inside
          rw [same]
          exact inside.1
        · rwa [Function.update_of_ne same] at inside

theorem ZoneMoves.shrinks (moves : before.ZoneMoves after) (sound : before.ZonesSound) :
    before.Shrinks after := by
  induction moves with
  | refl => exact ⟨id, id⟩
  | tail prior move ih => exact ih.trans (move.shrinks (ZoneMoves.sound prior sound))

/-- A player who leaves the zone the index names takes nobody else out of a zone. -/
theorem hosts_departed_of_ne (sound : world.ZonesSound) {playerKey other : PlayerKey}
    {zone : IntegrationZoneInstance} {place : IntegrationZoneInstanceKey}
    (resolves : world.Resolves playerKey key zone) (different : other ≠ playerKey)
    (hosts : world.Hosts other place) : (world.departed zone playerKey).Hosts other place := by
  obtain rfl := sound.keyed resolves.2
  obtain ⟨rival, present, inside⟩ := hosts
  have stays : other ∈ ((world.departed zone playerKey).playerSessions rival).elements := by
    rw [departed_playerSessions]
    by_cases same : rival = zone
    · rw [same] at inside ⊢
      rw [Function.update_self, OrderedSet.mem_erase]
      exact ⟨inside, different⟩
    · rwa [Function.update_of_ne same]
  refine ⟨rival, (departed_find?_iff resolves.2).mpr ⟨present, ?_⟩, stays⟩
  rintro rfl empty
  obtain rfl : rival = zone := Option.some.inj (present.symm.trans resolves.2)
  rw [departed_playerSessions, Function.update_self, empty] at stays
  cases stays

theorem sparesOthers_departed (sound : world.ZonesSound) {playerKey : PlayerKey}
    {zone : IntegrationZoneInstance} (resolves : world.Resolves playerKey key zone) :
    world.SparesOthers (world.departed zone playerKey) key := by
  obtain rfl := sound.keyed resolves.2
  refine ⟨fun other away => ?_, fun other away rival present => ?_, fun other away player => ?_⟩
  · ext rival
    rw [departed_find?_iff resolves.2]
    exact and_iff_left fun same => absurd same away
  · rw [departed_playerSessions, Function.update_of_ne]
    rintro rfl
    exact away (sound.keyed present).symm
  · rw [departed_findMapByPlayerKey resolves.2]
    by_cases own : player = playerKey
    · rw [own, Function.update_self, resolves.1]
      simp [Ne.symm away]
    · rw [Function.update_of_ne own]

/-- Erasing a zone spares the others where none of its active players is indexed
elsewhere. -/
theorem sparesOthers_erase
    (own : ∀ playerKey, world.Hosts playerKey key → ∀ other,
      world.zones.findMapByPlayerKey playerKey = some other → other = key) :
    world.SparesOthers (perform (.eraseZoneInstance key) world) key := by
  refine ⟨fun other away => ?_, fun _ _ _ _ => rfl, fun other away playerKey => ?_⟩
  · ext rival
    rw [find?_eraseZoneInstance]
    exact and_iff_right away
  · cases found : world.zones.instanceMap.find? key with
    | none => simp only [perform, IntegrationZones.erase, found]
    | some zone =>
        simp only [perform, IntegrationZones.erase, found, IntegrationZones.dropPlayers_apply]
        split_ifs with active
        · simp only [false_iff]
          exact fun named => away (own playerKey ⟨zone, found, active⟩ other named)
        · rfl

end World

/-! ## The events -/

/-- An event that takes players out of a zone: the termination of the zone with its
payload, or a leave job that was scheduled while its player was in the zone. -/
inductive Removal
  | terminated (info : IntegrationZoneInstanceInfo)
  | leaveJob (key : IntegrationZoneInstanceKey) (playerKey : PlayerKey) (isDodge : Bool)

namespace Removal

/-- The zone an event is about. -/
def zoneKey : Removal → IntegrationZoneInstanceKey
  | .terminated info => info.key
  | .leaveJob key _ _ => key

/-- Processing an event. -/
def program : Removal → Operation Unit
  | .terminated info =>
      IntegrationZoneInstanceManager.processZoneInstanceTerminatedFromIntegrationServer info
  | .leaveJob _ playerKey isDodge =>
      IntegrationZoneInstanceManager.processPlayerLeavedFromIntegrationServer playerKey isDodge

/-- Processing the event changes no other zone, and punishes only players who are active in
the zone. -/
def Scoped (event : Removal) (world : World) : Prop :=
  world.SparesOthers (event.program.run perform world).2 event.zoneKey ∧
    ∀ executed ∈ event.program.trace perform world, ∀ playerKey penaltyExpireTimeMsec,
      executed.command = .setDodgePenalty playerKey penaltyExpireTimeMsec →
      world.Hosts playerKey event.zoneKey

/-- The players whose zone is looked up when the event is processed: those it names, and
for the termination of a registered zone those who are active in it. -/
def LooksUp (event : Removal) (world : World) (playerKey : PlayerKey) : Prop :=
  match event with
  | .terminated info => ∃ zone, world.zones.instanceMap.find? info.key = some zone ∧
      (playerKey ∈ info.players.elements ∨ playerKey ∈ (world.playerSessions zone).elements)
  | .leaveJob _ named _ => playerKey = named

/-- Every player the event looks up is indexed in its zone, or nowhere. -/
def KnowsItsPlayers (event : Removal) (world : World) : Prop :=
  ∀ playerKey, event.LooksUp world playerKey → ∀ key,
    world.zones.findMapByPlayerKey playerKey = some key → key = event.zoneKey

/-- A leave job was scheduled while the index named its zone for the player. -/
def Issued (event : Removal) (record : List (Executed ZoneCall World)) : Prop :=
  match event with
  | .terminated _ => True
  | .leaveJob key playerKey isDodge => ∃ executed ∈ record,
      executed.command = .playerLeave playerKey isDodge ∧
        ∃ zone, executed.before.Resolves playerKey key zone

end Removal

namespace IntegrationZoneInstanceManager

section Leaving

variable {world : World} {playerKey : PlayerKey} {isDodge : Bool}

theorem run_processPlayerLeaved_of_absent
    (absent : (world.zones.findMapByPlayerKey playerKey).bind world.zones.instanceMap.find? =
      none) :
    (processPlayerLeavedFromIntegrationServer playerKey isDodge).run perform world =
      ((), world) := by
  rw [processPlayerLeavedFromIntegrationServer, Program.run_bind,
    run_eraseByPlayerKey_of_absent absent]
  rfl

/-- Beyond the departure there is at most a penalty. -/
theorem keeps_processPlayerLeaved {key : IntegrationZoneInstanceKey}
    {zone : IntegrationZoneInstance} (resolves : world.Resolves playerKey key zone) :
    (world.departed zone playerKey).KeepsZones
      ((processPlayerLeavedFromIntegrationServer playerKey isDodge).run perform world).2 := by
  rw [processPlayerLeavedFromIntegrationServer, Program.run_bind, run_eraseByPlayerKey resolves]
  cases isDodge with
  | false => exact ⟨rfl, rfl, rfl⟩
  | true => exact ⟨rfl, rfl, rfl⟩

/-- Leaving a zone is no punishment by itself. -/
theorem punishes_nobody (playerKey : PlayerKey) :
    (eraseByPlayerKey playerKey).Everywhere
      fun command => ∀ other time, command ≠ .setDodgePenalty other time := by
  refine Program.Everywhere.bind (Program.Everywhere.bind
    ((Program.everywhere_atomically _ _).mpr nofun) fun owner => ?_) fun found => ?_
  · cases owner with
    | none => trivial
    | some key => exact (Program.everywhere_atomically _ _).mpr nofun
  · cases found with
    | none => trivial
    | some zone =>
        refine Program.Everywhere.bind ((Program.everywhere_atomically _ _).mpr nofun) fun _ =>
          Program.Everywhere.bind ((Program.everywhere_atomically _ _).mpr nofun) fun empty => ?_
        have last : ∀ _ : Unit, Program.Everywhere
            (fun command => ∀ other time, command ≠ .setDodgePenalty other time)
            (do
              Program.atomically (.eraseZonePlayer playerKey) fun _ => ()
              return some zone : Operation (Option IntegrationZoneInstance)) :=
          fun _ => ⟨nofun, fun _ => trivial⟩
        cases empty with
        | false => exact last ()
        | true => exact ⟨nofun, fun _ => last ()⟩

/-- Nobody but the player is punished, and he only if the index names a zone for him. -/
theorem resolves_of_punished {executed : Executed Section World} {punished : PlayerKey}
    {penaltyExpireTimeMsec : Int}
    (inside : executed ∈
      (processPlayerLeavedFromIntegrationServer playerKey isDodge).trace perform world)
    (punishes : executed.command = .setDodgePenalty punished penaltyExpireTimeMsec) :
    punished = playerKey ∧ ∃ key zone, world.Resolves playerKey key zone := by
  rw [processPlayerLeavedFromIntegrationServer, Program.trace_bind] at inside
  rcases List.mem_append.mp inside with leaving | later
  · exact absurd punishes ((punishes_nobody playerKey).of_mem_trace executed leaving _ _)
  · rcases resolves_or world playerKey with absent | ⟨key, zone, resolves⟩
    · rw [run_eraseByPlayerKey_of_absent absent] at later
      cases later
    · rw [run_eraseByPlayerKey resolves] at later
      cases isDodge with
      | false =>
          obtain rfl := List.mem_singleton.mp later
          cases punishes
      | true =>
          refine ⟨?_, key, zone, resolves⟩
          refine @Program.Everywhere.of_mem_trace _ _ _ _ (fun command => ∀ other time,
            command = .setDodgePenalty other time → other = playerKey) _ ?_ _ executed later _ _
            punishes
          refine ⟨nofun, fun _ => ⟨fun other time same => ?_, fun _ => ⟨nofun, fun _ => ⟨nofun,
            fun _ => trivial⟩⟩⟩⟩
          cases same
          rfl

theorem unindexed_of_leaved (sound : world.ZonesSound) :
    ((processPlayerLeavedFromIntegrationServer playerKey isDodge).run perform
      world).2.zones.findMapByPlayerKey playerKey = none := by
  rcases resolves_or world playerKey with absent | ⟨key, zone, resolves⟩
  · rw [run_processPlayerLeaved_of_absent absent]
    cases named : world.zones.findMapByPlayerKey playerKey with
    | none => rfl
    | some key =>
        obtain ⟨zone, present, -⟩ := sound.sound named
        rw [named, Option.bind_some, present] at absent
        cases absent
  · have own := sound.keyed resolves.2
    rw [(keeps_processPlayerLeaved resolves).zones, World.departed_findMapByPlayerKey,
      Function.update_self]
    rw [own]
    exact resolves.2

/-- A leaving player whom the index names for one zone changes no other zone. -/
theorem sparesOthers_processPlayerLeaved (sound : world.ZonesSound)
    {key : IntegrationZoneInstanceKey}
    (own : ∀ other, world.zones.findMapByPlayerKey playerKey = some other → other = key) :
    world.SparesOthers
      ((processPlayerLeavedFromIntegrationServer playerKey isDodge).run perform world).2 key := by
  rcases resolves_or world playerKey with absent | ⟨other, zone, resolves⟩
  · rw [run_processPlayerLeaved_of_absent absent]
    exact World.KeepsZones.sparesOthers ⟨rfl, rfl, rfl⟩ key
  · obtain rfl := own other resolves.1
    exact (World.sparesOthers_departed sound resolves).trans
      ((keeps_processPlayerLeaved resolves).sparesOthers other)

theorem hosts_processPlayerLeaved_of_ne (sound : world.ZonesSound) {other : PlayerKey}
    {key : IntegrationZoneInstanceKey} (different : other ≠ playerKey)
    (hosts : world.Hosts other key) :
    ((processPlayerLeavedFromIntegrationServer playerKey isDodge).run perform world).2.Hosts
      other key := by
  rcases resolves_or world playerKey with absent | ⟨place, zone, resolves⟩
  · rwa [run_processPlayerLeaved_of_absent absent]
  · exact (keeps_processPlayerLeaved resolves).hosts.mpr
      (World.hosts_departed_of_ne sound resolves different hosts)

end Leaving

/-! ## The players of a termination, one after another -/

section Termination

variable {world : World} {info : IntegrationZoneInstanceInfo} {players : List PlayerKey}

/-- Every player of a payload leaves. -/
def leaveAll (info : IntegrationZoneInstanceInfo) (players : List PlayerKey) : Operation Unit :=
  forAll players fun playerKey =>
    processPlayerLeavedFromIntegrationServer playerKey
      (!info.paidPlayers.elements.contains playerKey)

theorem moves_leaveAll : MovesZones (leaveAll info players) :=
  movesZones_forAll fun playerKey =>
    movesZones_processPlayerLeavedFromIntegrationServer playerKey _

theorem run_leaveAll_cons (playerKey : PlayerKey) :
    (leaveAll info (playerKey :: players)).run perform world =
      (leaveAll info players).run perform
        ((processPlayerLeavedFromIntegrationServer playerKey
          (!info.paidPlayers.elements.contains playerKey)).run perform world).2 :=
  run_forAll_cons _ _ _

theorem sparesOthers_leaveAll (sound : world.ZonesSound) {key : IntegrationZoneInstanceKey}
    (own : ∀ playerKey ∈ players, ∀ other,
      world.zones.findMapByPlayerKey playerKey = some other → other = key) :
    world.SparesOthers ((leaveAll info players).run perform world).2 key := by
  induction players generalizing world with
  | nil => exact World.KeepsZones.sparesOthers ⟨rfl, rfl, rfl⟩ key
  | cons head rest ih =>
      have moves := movesZones_processPlayerLeavedFromIntegrationServer head
        (!info.paidPlayers.elements.contains head) world
      rw [run_leaveAll_cons]
      refine (sparesOthers_processPlayerLeaved sound (own head List.mem_cons_self)).trans
        (ih (World.ZoneMoves.sound moves sound) fun playerKey inside other named => ?_)
      exact own playerKey (List.mem_cons_of_mem _ inside) other
        ((World.ZoneMoves.shrinks moves sound).index named)

theorem unindexed_leaveAll (sound : world.ZonesSound) :
    ∀ playerKey ∈ players,
      ((leaveAll info players).run perform world).2.zones.findMapByPlayerKey playerKey =
        none := by
  induction players generalizing world with
  | nil => exact nofun
  | cons head rest ih =>
      intro playerKey inside
      have moves := movesZones_processPlayerLeavedFromIntegrationServer head
        (!info.paidPlayers.elements.contains head) world
      have after := World.ZoneMoves.sound moves sound
      rw [run_leaveAll_cons]
      rcases List.mem_cons.mp inside with rfl | later
      · by_contra named
        obtain ⟨key, named⟩ := Option.ne_none_iff_exists'.mp named
        have earlier := (World.ZoneMoves.shrinks (moves_leaveAll _) after).index named
        rw [unindexed_of_leaved sound] at earlier
        cases earlier
      · exact ih after playerKey later

theorem hosts_leaveAll_of_not_mem (sound : world.ZonesSound) {playerKey : PlayerKey}
    {key : IntegrationZoneInstanceKey} (outside : playerKey ∉ players)
    (hosts : world.Hosts playerKey key) :
    ((leaveAll info players).run perform world).2.Hosts playerKey key := by
  induction players generalizing world with
  | nil => exact hosts
  | cons head rest ih =>
      rw [List.mem_cons, not_or] at outside
      rw [run_leaveAll_cons]
      exact ih (World.ZoneMoves.sound
        (movesZones_processPlayerLeavedFromIntegrationServer head _ world) sound) outside.2
        (hosts_processPlayerLeaved_of_ne sound outside.1 hosts)

/-- Whoever is punished was named, and the index named a zone for him. -/
theorem indexed_of_punished (sound : world.ZonesSound) {executed : Executed Section World}
    {punished : PlayerKey} {penaltyExpireTimeMsec : Int}
    (inside : executed ∈ (leaveAll info players).trace perform world)
    (punishes : executed.command = .setDodgePenalty punished penaltyExpireTimeMsec) :
    punished ∈ players ∧ ∃ key, world.zones.findMapByPlayerKey punished = some key := by
  induction players generalizing world with
  | nil => cases inside
  | cons head rest ih =>
      have moves := movesZones_processPlayerLeavedFromIntegrationServer head
        (!info.paidPlayers.elements.contains head) world
      rw [leaveAll, forAll, Program.trace_bind] at inside
      rcases List.mem_append.mp inside with first | later
      · obtain ⟨rfl, key, zone, resolves⟩ := resolves_of_punished first punishes
        exact ⟨List.mem_cons_self, key, resolves.1⟩
      · obtain ⟨member, key, named⟩ := ih (World.ZoneMoves.sound moves sound) later
        exact ⟨List.mem_cons_of_mem _ member, key,
          (World.ZoneMoves.shrinks moves sound).index named⟩

theorem run_terminated_of_absent (absent : world.zones.instanceMap.find? info.key = none) :
    (processZoneInstanceTerminatedFromIntegrationServer info).run perform world =
      ((), world) := by
  have missing : world.zones.find (toLex (info.worldNo, info.zoneGuid)) = none := absent
  rw [processZoneInstanceTerminatedFromIntegrationServer, Program.run_bind, find, run_readWorld,
    missing]
  rfl

theorem run_terminated {zone : IntegrationZoneInstance}
    (found : world.zones.instanceMap.find? info.key = some zone) :
    ((processZoneInstanceTerminatedFromIntegrationServer info).run perform world).2 =
      perform (.eraseZoneInstance info.key)
        ((leaveAll info info.players.elements).run perform world).2 := by
  have present : world.zones.find (toLex (info.worldNo, info.zoneGuid)) = some zone := found
  rw [processZoneInstanceTerminatedFromIntegrationServer, Program.run_bind, find, run_readWorld,
    present]
  simp only [Program.run_bind]
  rfl

/-- The penalties of a termination are those of its players' departures. -/
theorem punished_of_terminated {executed : Executed Section World} {punished : PlayerKey}
    {penaltyExpireTimeMsec : Int}
    (inside : executed ∈
      (processZoneInstanceTerminatedFromIntegrationServer info).trace perform world)
    (punishes : executed.command = .setDodgePenalty punished penaltyExpireTimeMsec) :
    world.zones.instanceMap.find? info.key ≠ none ∧
      executed ∈ (leaveAll info info.players.elements).trace perform world := by
  rw [processZoneInstanceTerminatedFromIntegrationServer, Program.trace_bind, find,
    run_readWorld] at inside
  rcases List.mem_append.mp inside with reading | later
  · obtain rfl := List.mem_singleton.mp reading
    cases punishes
  · cases found : world.zones.find (toLex (info.worldNo, info.zoneGuid)) with
    | none =>
        rw [found] at later
        cases later
    | some zone =>
        refine ⟨fun absent => Option.some_ne_none zone (found.symm.trans absent), ?_⟩
        rw [found] at later
        simp only [Program.trace_bind] at later
        rcases List.mem_append.mp later with leaving | erasing
        · exact leaving
        · obtain rfl := List.mem_singleton.mp erasing
          cases punishes

end Termination

end IntegrationZoneInstanceManager

namespace Removal

open IntegrationZoneInstanceManager

variable {world : World}

theorem scoped_leaveJob_iff (sound : world.ZonesSound) (key : IntegrationZoneInstanceKey)
    (playerKey : PlayerKey) (isDodge : Bool) :
    (leaveJob key playerKey isDodge).Scoped world ↔
      (leaveJob key playerKey isDodge).KnowsItsPlayers world := by
  constructor
  · rintro ⟨spares, -⟩ player rfl other named
    by_contra away
    have kept := (spares.index other away player).mpr named
    rw [program, unindexed_of_leaved sound] at kept
    cases kept
  · intro knows
    have own := knows playerKey rfl
    refine ⟨sparesOthers_processPlayerLeaved sound own, ?_⟩
    intro executed inside punished time punishes
    obtain ⟨rfl, other, zone, resolves⟩ := resolves_of_punished inside punishes
    obtain rfl := own other resolves.1
    exact sound.sound resolves.1

theorem scoped_terminated_iff (sound : world.ZonesSound) (info : IntegrationZoneInstanceInfo) :
    (terminated info).Scoped world ↔ (terminated info).KnowsItsPlayers world := by
  have moves : World.ZoneMoves world ((leaveAll info info.players.elements).run perform world).2 :=
    moves_leaveAll world
  constructor
  · rintro ⟨spares, -⟩ playerKey ⟨zone, found, looked⟩ other named
    by_contra away
    -- the entry for another zone is gone in the end, whether the player was named or not
    have kept := (spares.index other away playerKey).mpr named
    rw [program, run_terminated found] at kept
    have between := (World.ZoneMove.shrinks (.erase info.key)
      (World.ZoneMoves.sound moves sound)).index kept
    by_cases member : playerKey ∈ info.players.elements
    · rw [unindexed_leaveAll sound playerKey member] at between
      cases between
    · have active := looked.resolve_left member
      have hosts : ((leaveAll info info.players.elements).run perform world).2.Hosts playerKey
          info.key := hosts_leaveAll_of_not_mem sound member ⟨zone, found, active⟩
      obtain ⟨rival, present, inside⟩ := hosts
      simp only [perform, IntegrationZones.erase, present,
        IntegrationZones.dropPlayers_apply, if_pos inside] at kept
      cases kept
  · intro knows
    cases found : world.zones.instanceMap.find? info.key with
    | none =>
        refine ⟨?_, fun executed inside punished time punishes =>
          absurd found (punished_of_terminated inside punishes).1⟩
        rw [program, run_terminated_of_absent found]
        exact World.KeepsZones.sparesOthers ⟨rfl, rfl, rfl⟩ _
    | some zone =>
        have own : ∀ playerKey ∈ info.players.elements, ∀ other,
            world.zones.findMapByPlayerKey playerKey = some other → other = info.key :=
          fun playerKey member => knows playerKey ⟨zone, found, Or.inl member⟩
        refine ⟨?_, ?_⟩
        · rw [program, run_terminated found]
          refine (sparesOthers_leaveAll sound own).trans (World.sparesOthers_erase ?_)
          intro playerKey hosts other named
          have shrinks := World.ZoneMoves.shrinks moves sound
          obtain ⟨rival, present, active⟩ := shrinks.hosts hosts
          obtain rfl := Option.some.inj (present.symm.trans found)
          exact knows playerKey ⟨rival, found, Or.inr active⟩ other (shrinks.index named)
        · intro executed inside punished time punishes
          obtain ⟨member, key, named⟩ := indexed_of_punished sound
            (punished_of_terminated inside punishes).2 punishes
          obtain rfl := own punished member key named
          exact sound.sound named

end Removal

/-- **When a removal keeps to its zone.** In every state of the zone manager, whatever jobs
are left in its queue, processing a termination or a leave job changes no other zone and
punishes only players active in its zone, exactly if every player it looks up is indexed in
that zone or nowhere. -/
theorem removal_scoped_iff {record : List (Executed ZoneCall World)} {world : World}
    (run : ZoneRun (fun _ _ => True) record world) (jobs : AsyncJobQueue ZoneJob)
    (event : Removal) :
    event.Scoped { world with zoneJobs := jobs } ↔ event.KnowsItsPlayers world := by
  have sound : World.ZonesSound { world with zoneJobs := jobs } :=
    ⟨run.sound.keyed, run.sound.made, run.sound.sound⟩
  cases event with
  | terminated info => exact Removal.scoped_terminated_iff sound info
  | leaveJob key playerKey isDodge =>
      exact Removal.scoped_leaveJob_iff sound key playerKey isDodge

theorem removal_scoped_iff_pair :
    (Removal.terminated pairZoneInfo).Scoped { pairZoneWorld with zoneJobs := [] } := by
  have run : ZoneRun (fun _ _ => True) _ pairZoneWorld :=
    .call (.call .start (.insert (some pairZoneInfo)) trivial) (.playerLeaved 7 false) trivial
  have found : pairZoneWorld.zones.instanceMap.find? pairZoneInfo.key =
      some ⟨0, 0, -1, 1000, ""⟩ := by
    decide +kernel
  have active : (pairZoneWorld.playerSessions ⟨0, 0, -1, 1000, ""⟩).elements = [8] := by
    decide +kernel
  have others : pairZoneWorld.zones.findMapByPlayerKey 7 = none := by decide +kernel
  have own : pairZoneWorld.zones.findMapByPlayerKey 8 = some pairZoneInfo.key := by
    decide +kernel
  refine (removal_scoped_iff run [] (.terminated pairZoneInfo)).mpr ?_
  rintro playerKey ⟨zone, registered, looked⟩ key named
  obtain rfl := Option.some.inj (registered.symm.trans found)
  rw [active] at looked
  have either : playerKey = 7 ∨ playerKey = 8 := by
    rcases looked with listed | inside
    · simpa [pairZoneInfo] using listed
    · exact Or.inr (List.mem_singleton.mp inside)
  rcases either with rfl | rfl
  · rw [others] at named
    cases named
  · exact Option.some.inj (named.symm.trans own)

/-- Another zone, for one of the two players. -/
def nextZoneInfo : IntegrationZoneInstanceInfo :=
  { zoneGuid := 1001, worldNo := 0, players := .single 7 }

/-- A player of the first zone asks to leave, is reported to have left, and enters the
second zone before the job of the request is executed. -/
def movedPlayerWorld : World :=
  (ZoneCall.insert (some nextZoneInfo)).complete ((ZoneCall.playerLeaved 7 false).complete
    ((ZoneCall.playerLeave 7 false).complete
      ((ZoneCall.insert (some pairZoneInfo)).complete {})))

/-- Both the leave job and a termination of the first zone that still lists the player take
him out of the second zone. -/
theorem removals_reach_next_zone : ∃ record, ZoneRun (fun _ _ => True) record movedPlayerWorld ∧
    (Removal.leaveJob pairZoneInfo.key 7 false).Issued record ∧
    ¬ (Removal.leaveJob pairZoneInfo.key 7 false).Scoped movedPlayerWorld ∧
    ¬ (Removal.terminated pairZoneInfo).Scoped movedPlayerWorld := by
  have run : ZoneRun (fun _ _ => True) _ movedPlayerWorld :=
    .call (.call (.call (.call .start (.insert (some pairZoneInfo)) trivial)
      (.playerLeave 7 false) trivial) (.playerLeaved 7 false) trivial)
      (.insert (some nextZoneInfo)) trivial
  have moved : movedPlayerWorld.zones.findMapByPlayerKey 7 = some nextZoneInfo.key := by
    decide +kernel
  have different : nextZoneInfo.key ≠ pairZoneInfo.key := by decide
  have registered : movedPlayerWorld.zones.instanceMap.find? pairZoneInfo.key =
      some ⟨0, 0, -1, 1000, ""⟩ := by
    decide +kernel
  refine ⟨_, run, ?_, fun confined => ?_, fun confined => ?_⟩
  · refine ⟨_, List.mem_append_left _ (List.mem_append_left _ (List.mem_append_right _
      (List.mem_singleton_self _))), rfl, ⟨0, 0, -1, 1000, ""⟩, ?_, ?_⟩
    · decide +kernel
    · decide +kernel
  · exact different ((Removal.scoped_leaveJob_iff run.sound _ _ _).mp confined 7 rfl _ moved)
  · exact different ((Removal.scoped_terminated_iff run.sound _).mp confined 7
      ⟨_, registered, Or.inl (by decide)⟩ _ moved)

end MatchmakingMvp
