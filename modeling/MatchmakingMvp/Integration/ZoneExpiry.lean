import MatchmakingMvp.Integration.ZoneRuns

/-! # Zones expire in time and not too early

An expiry job names a key and is never cancelled, while updates move the deadline of the
zone and keys are used again. Every registered zone still has a pending job for its key
that is due by its deadline, an executed job either ends the zone or comes back at its
deadline, and no job, however old, ends a zone that was made or updated less than
`kExpireDelayMsec` ago (`MatchmakingMvp.zones_expire`).
-/

namespace MatchmakingMvp

open Foundation
open IntegrationZoneInstanceManager

namespace World

/-- No zone was updated in the future. -/
def UpdatesPast (world : World) : Prop :=
  ∀ zone, 0 ≤ world.zoneUpdateTimeMsec zone ∧ world.zoneUpdateTimeMsec zone ≤ world.timeMsec

/-- The time a zone expires at if it is not updated again. -/
def expireTimeMsec (world : World) (zone : IntegrationZoneInstance) : Int :=
  world.zoneUpdateTimeMsec zone + kExpireDelayMsec

/-- An expiry job for the key is pending, due by the zone's deadline. -/
def ExpiryPending (world : World) (key : IntegrationZoneInstanceKey)
    (zone : IntegrationZoneInstance) : Prop :=
  ∃ dueTimeMsec, (dueTimeMsec, .expire key) ∈ world.zoneJobs ∧
    dueTimeMsec ≤ world.expireTimeMsec zone

/-- Zones get no older deadline, jobs stay, and no zone is registered that was not. -/
structure KeepsExpiry (before after : World) : Prop where
  timeMsec : after.timeMsec = before.timeMsec
  past : after.UpdatesPast
  updated : ∀ zone, before.zoneUpdateTimeMsec zone ≤ after.zoneUpdateTimeMsec zone
  jobs : ∀ entry ∈ before.zoneJobs, entry ∈ after.zoneJobs
  registered : ∀ {key zone}, after.zones.instanceMap.find? key = some zone →
    before.zones.instanceMap.find? key = some zone

variable {before middle after world : World}

theorem UpdatesPast.keepsExpiry_of_eq (past : before.UpdatesPast)
    (timeMsec : after.timeMsec = before.timeMsec)
    (updated : after.zoneUpdateTimeMsec = before.zoneUpdateTimeMsec)
    (jobs : ∀ entry ∈ before.zoneJobs, entry ∈ after.zoneJobs)
    (registered : ∀ {key zone}, after.zones.instanceMap.find? key = some zone →
      before.zones.instanceMap.find? key = some zone) : before.KeepsExpiry after := by
  refine ⟨timeMsec, fun zone => ?_, fun zone => ?_, jobs, registered⟩
  · rw [updated, timeMsec]
    exact past zone
  · rw [updated]

theorem KeepsExpiry.trans (first : before.KeepsExpiry middle)
    (second : middle.KeepsExpiry after) : before.KeepsExpiry after where
  timeMsec := second.timeMsec.trans first.timeMsec
  past := second.past
  updated zone := (first.updated zone).trans (second.updated zone)
  jobs entry inside := second.jobs entry (first.jobs entry inside)
  registered present := first.registered (second.registered present)

theorem ExpiryPending.keep {key : IntegrationZoneInstanceKey} {zone : IntegrationZoneInstance}
    (pending : before.ExpiryPending key zone) (keeps : before.KeepsExpiry after) :
    after.ExpiryPending key zone := by
  obtain ⟨dueTimeMsec, inside, due⟩ := pending
  have later := keeps.updated zone
  refine ⟨dueTimeMsec, keeps.jobs _ inside, ?_⟩
  rw [expireTimeMsec] at due ⊢
  omega

theorem keepsExpiry_of_calm {step : Section} (calm : step.zoneCalm = true)
    (past : world.UpdatesPast) : world.KeepsExpiry (perform step world) := by
  cases step with
  | newZoneInstance | insertZoneInstance | eraseZoneInstance | removePlayerSession
  | eraseZonePlayer | takeZoneJob | tick => cases calm
  | updateZoneInstance zone =>
      have values : ∀ other,
          (perform (.updateZoneInstance zone) world).zoneUpdateTimeMsec other =
            if other = zone then (world.timeMsec : Int) else world.zoneUpdateTimeMsec other :=
        fun other => Function.update_apply _ _ _ _
      refine ⟨rfl, fun other => ?_, fun other => ?_, fun _ => id, id⟩
      · rw [values]
        split_ifs
        · exact ⟨Int.natCast_nonneg _, le_rfl⟩
        · exact past other
      · rw [values]
        split_ifs
        · exact (past other).2
        · exact le_rfl
  | addZoneJob executeTimeMsec job =>
      exact past.keepsExpiry_of_eq rfl rfl
        (fun entry inside => mem_insertMulti.mpr (Or.inr inside)) id
  | nextIntegrationWorldNo worldGroupNo =>
      simp only [perform]
      split_ifs
      · exact past.keepsExpiry_of_eq rfl rfl (fun _ => id) id
      · exact past.keepsExpiry_of_eq rfl rfl (fun _ => id) id
  | _ => exact past.keepsExpiry_of_eq rfl rfl (fun _ => id) id

/-- **Every move keeps the pending jobs.** -/
theorem ZoneMove.keepsExpiry (move : before.ZoneMove after) (sound : before.ZonesSound)
    (past : before.UpdatesPast) : before.KeepsExpiry after := by
  cases move with
  | calm step calm => exact keepsExpiry_of_calm calm past
  | erase key =>
      exact past.keepsExpiry_of_eq rfl rfl (fun _ => id)
        fun present => (find?_eraseZoneInstance.mp present).2
  | @leave playerKey key zone resolves =>
      obtain rfl := sound.keyed resolves.2
      have registered : ∀ {other rival},
          (before.departed zone playerKey).zones.instanceMap.find? other = some rival →
          before.zones.instanceMap.find? other = some rival :=
        fun present => ((departed_find?_iff resolves.2).mp present).1
      by_cases emptied : ((before.playerSessions zone).erase playerKey).elements = []
      · rw [departed_of_emptied emptied] at registered ⊢
        exact past.keepsExpiry_of_eq rfl rfl (fun _ => id) registered
      · rw [departed_of_populated emptied] at registered ⊢
        exact past.keepsExpiry_of_eq rfl rfl (fun _ => id) registered

theorem ZoneMoves.keepsExpiry (moves : before.ZoneMoves after) (sound : before.ZonesSound)
    (past : before.UpdatesPast) : before.KeepsExpiry after := by
  induction moves with
  | refl => exact past.keepsExpiry_of_eq rfl rfl (fun _ => id) id
  | tail prior move ih => exact ih.trans (move.keepsExpiry (ZoneMoves.sound prior sound) ih.past)

end World

/-! ## The expiry job -/

namespace IntegrationZoneInstanceManager

variable {world : World} {key : IntegrationZoneInstanceKey}

theorem run_expire_of_absent (absent : world.zones.instanceMap.find? key = none) :
    (processZoneInstanceExpireAsync key).run perform world = ((), world) := by
  have missing : world.zones.find key = none := absent
  rw [processZoneInstanceExpireAsync, Program.run_bind, find, run_readWorld, missing]
  rfl

/-- The job of a registered zone comes back at the zone's deadline, or ends the zone. -/
theorem run_expire {zone : IntegrationZoneInstance}
    (found : world.zones.instanceMap.find? key = some zone)
    (own : zone.integrationZoneInstanceKey = key) :
    (processZoneInstanceExpireAsync key).run perform world =
      if world.expireTimeMsec zone % 2 ^ 64 > world.timeMsec then
        ((), perform (.addZoneJob (world.expireTimeMsec zone) (.expire key)) world)
      else ((), perform (.eraseZoneInstance key) world) := by
  have present : world.zones.find key = some zone := found
  rw [processZoneInstanceExpireAsync, Program.run_bind, find, run_readWorld, present]
  simp only [getExpireTimeMsec, Program.run_bind, run_readWorld, run_timeMsec, Program.run_ite,
    Program.run_atomically, own, erase, Program.run_pure, World.expireTimeMsec]
  rfl

end IntegrationZoneInstanceManager

/-! ## Runs -/

namespace ZoneCall

/-- The clock stays in the range of the code's times, a signed 64-bit number of
milliseconds to which the delay can be added. -/
def InRange (call : ZoneCall) (_ : World) : Prop :=
  ∀ timeMsec, call = .tick timeMsec → (timeMsec : Int) + kExpireDelayMsec < 2 ^ 63

/-- The call makes the zone or updates it. -/
def Touches (call : ZoneCall) (world : World) (zone : IntegrationZoneInstance) : Prop :=
  (∃ info, call = .insert (some info) ∧ zone = world.newZoneInstance info) ∨
    ∃ key, call = .zoneUpdated key ∧ world.zones.instanceMap.find? key = some zone

end ZoneCall

namespace World

/-- What holds between calls: the clock is in range, no update is in the future, and the
expiry of every registered zone is pending. -/
structure Expiring (world : World) : Prop extends world.ZonesSound where
  inRange : (world.timeMsec : Int) + kExpireDelayMsec < 2 ^ 63
  past : world.UpdatesPast
  pending : ∀ {key zone}, world.zones.instanceMap.find? key = some zone →
    world.ExpiryPending key zone

variable {world after : World}

theorem Expiring.expireTimeMsec_mod (expiring : world.Expiring) (zone : IntegrationZoneInstance) :
    world.expireTimeMsec zone % 2 ^ 64 = world.expireTimeMsec zone := by
  have past := expiring.past zone
  have inRange := expiring.inRange
  have delay : kExpireDelayMsec = 10000 := rfl
  rw [expireTimeMsec]
  omega

theorem UpdatesPast.entered (past : world.UpdatesPast) (info : IntegrationZoneInstanceInfo) :
    (world.entered info).UpdatesPast ∧
      ∀ zone, world.zoneUpdateTimeMsec zone ≤ (world.entered info).zoneUpdateTimeMsec zone := by
  have values : ∀ zone, (world.entered info).zoneUpdateTimeMsec zone =
      if zone = world.newZoneInstance info then (world.timeMsec : Int)
      else world.zoneUpdateTimeMsec zone :=
    fun zone => Function.update_apply _ _ _ _
  refine ⟨fun zone => ?_, fun zone => ?_⟩
  · rw [values]
    split_ifs
    · exact ⟨Int.natCast_nonneg _, le_rfl⟩
    · exact past zone
  · rw [values]
    split_ifs
    · exact (past zone).2
    · exact le_rfl

theorem Expiring.of_keeps (expiring : world.Expiring) (sound : after.ZonesSound)
    (keeps : world.KeepsExpiry after) : after.Expiring := by
  refine ⟨sound, ?_, keeps.past, fun present => ?_⟩
  · rw [keeps.timeMsec]
    exact expiring.inRange
  · exact (expiring.pending (keeps.registered present)).keep keeps

theorem Expiring.tick (expiring : world.Expiring) {timeMsec : Nat}
    (inRange : (timeMsec : Int) + kExpireDelayMsec < 2 ^ 63) :
    (perform (.tick timeMsec) world).Expiring := by
  have values : (perform (.tick timeMsec) world).timeMsec = max world.timeMsec timeMsec := rfl
  refine ⟨⟨expiring.keyed, expiring.made, expiring.sound⟩, ?_, fun zone => ?_,
    fun present => expiring.pending present⟩
  · have before := expiring.inRange
    rw [values]
    omega
  · have past := expiring.past zone
    rw [values]
    exact ⟨past.1, past.2.trans (by omega)⟩

/-- An insertion schedules the end of the zone it makes. -/
theorem Expiring.insert (expiring : world.Expiring) (info : IntegrationZoneInstanceInfo) :
    ((insert (some info)).run perform world).2.Expiring := by
  have sound := expiring.entered info
  obtain ⟨past, updated⟩ := expiring.past.entered info
  have kept : ∀ {key zone}, world.zones.instanceMap.find? key = some zone →
      (world.entered info).ExpiryPending key zone := by
    intro key zone found
    obtain ⟨dueTimeMsec, inside, due⟩ := expiring.pending found
    have later := updated zone
    refine ⟨dueTimeMsec, inside, ?_⟩
    rw [expireTimeMsec] at due ⊢
    omega
  have moves := insert_moves info world
  rw [run_insert] at moves ⊢
  split_ifs at moves ⊢
  · have keeps := moves.keepsExpiry sound past
    refine ⟨moves.sound sound, expiring.inRange, keeps.past, fun present => ?_⟩
    obtain ⟨away, entered⟩ := find?_eraseZoneInstance.mp present
    rcases entered_find? entered with earlier | ⟨same, -⟩
    · exact (kept earlier).keep keeps
    · exact absurd same away
  · have keeps := moves.keepsExpiry sound past
    refine ⟨moves.sound sound, expiring.inRange, keeps.past, fun present => ?_⟩
    rcases entered_find? present with earlier | ⟨rfl, rfl⟩
    · exact (kept earlier).keep keeps
    · refine ⟨_, mem_insertMulti.mpr (Or.inl rfl), le_of_eq ?_⟩
      have updatedNow : (world.entered info).zoneUpdateTimeMsec (world.newZoneInstance info) =
          world.timeMsec := Function.update_self _ _ _
      rw [expireTimeMsec, ← updatedNow]
      rfl

/-- A state whose first job was taken has lost nothing but that job. -/
theorem Expiring.taken_sound (expiring : world.Expiring) :
    (perform .takeZoneJob world).ZonesSound :=
  ⟨expiring.keyed, expiring.made, expiring.sound⟩

/-- The worker loses a pending expiry only by executing it. -/
theorem Expiring.work (expiring : world.Expiring) :
    (zoneWorkerRun.run perform world).2.Expiring := by
  have past : (perform .takeZoneJob world).UpdatesPast := expiring.past
  rcases AsyncJobQueue.takeJob_cases world.zoneJobs world.timeMsec with idle |
    ⟨dueTimeMsec, job, rest, queued, taken⟩
  · rw [run_zoneWorkerRun_of_idle (congrArg Prod.fst idle)]
    have same : perform .takeZoneJob world = world := by
      simp only [perform, idle]
    rwa [same]
  · have jobs : (perform .takeZoneJob world).zoneJobs = rest := by
      simp only [perform, taken]
    have lost : ∀ {key zone}, job ≠ .expire key →
        world.zones.instanceMap.find? key = some zone →
        (perform .takeZoneJob world).ExpiryPending key zone := by
      intro key zone other found
      obtain ⟨time, inside, due⟩ := expiring.pending found
      rw [queued] at inside
      rcases List.mem_cons.mp inside with first | later
      · cases first
        exact absurd rfl other
      · exact ⟨time, jobs ▸ later, due⟩
    rw [run_zoneWorkerRun_of_taken (congrArg Prod.fst taken)]
    have moves := job.movesZones (perform .takeZoneJob world)
    have keeps := ZoneMoves.keepsExpiry moves expiring.taken_sound past
    refine ⟨ZoneMoves.sound moves expiring.taken_sound, ?_, keeps.past, ?_⟩
    · rw [keeps.timeMsec]
      exact expiring.inRange
    · intro key zone present
      have earlier := keeps.registered present
      by_cases own : job = .expire key
      · subst own
        rw [ZoneJob.operation] at present ⊢
        rw [run_expire earlier (expiring.keyed earlier)] at present ⊢
        split_ifs at present ⊢
        · exact ⟨_, mem_insertMulti.mpr (Or.inl rfl), le_rfl⟩
        · exact absurd rfl (find?_eraseZoneInstance.mp present).1
      · exact (lost own earlier).keep keeps

/-- **Every call keeps the expiry of every registered zone pending.** -/
theorem Expiring.complete (expiring : world.Expiring) {call : ZoneCall}
    (inRange : call.InRange world) : (call.complete world).Expiring := by
  have others : call.opening world = world → (call.complete world).Expiring := by
    intro same
    have moves := call.complete_moves world
    rw [same] at moves
    exact expiring.of_keeps (call.sound expiring.toZonesSound)
      (ZoneMoves.keepsExpiry moves expiring.toZonesSound expiring.past)
  cases call with
  | tick timeMsec => exact expiring.tick (inRange timeMsec rfl)
  | insert info =>
      cases info with
      | none => exact others rfl
      | some info =>
          rw [ZoneCall.complete_insert]
          exact expiring.insert info
  | zoneWorkerRun => exact expiring.work
  | _ => exact others rfl

/-- A call takes no update back, and a zone it touches is updated at that time. -/
theorem UpdatesPast.touched (past : world.UpdatesPast) (sound : world.ZonesSound)
    (call : ZoneCall) :
    (∀ zone, world.zoneUpdateTimeMsec zone ≤ (call.complete world).zoneUpdateTimeMsec zone) ∧
      ∀ zone, call.Touches world zone →
        (world.timeMsec : Int) ≤ (call.complete world).zoneUpdateTimeMsec zone := by
  have opened : (call.opening world).ZonesSound ∧ (call.opening world).UpdatesPast ∧
      ∀ zone, world.zoneUpdateTimeMsec zone ≤ (call.opening world).zoneUpdateTimeMsec zone := by
    cases call with
    | tick timeMsec =>
        refine ⟨⟨sound.keyed, sound.made, sound.sound⟩, fun zone => ⟨(past zone).1, ?_⟩,
          fun _ => le_rfl⟩
        exact (past zone).2.trans (Int.ofNat_le.mpr (le_max_left _ _))
    | insert info =>
        cases info with
        | none => exact ⟨sound, past, fun _ => le_rfl⟩
        | some info => exact ⟨sound.entered info, past.entered info⟩
    | zoneWorkerRun =>
        exact ⟨⟨sound.keyed, sound.made, sound.sound⟩, past, fun _ => le_rfl⟩
    | _ => exact ⟨sound, past, fun _ => le_rfl⟩
  obtain ⟨openSound, openPast, grown⟩ := opened
  have keeps := ZoneMoves.keepsExpiry (call.complete_moves world) openSound openPast
  refine ⟨fun zone => (grown zone).trans (keeps.updated zone), fun zone touches => ?_⟩
  rcases touches with ⟨info, rfl, rfl⟩ | ⟨key, rfl, found⟩
  · have entered : ((ZoneCall.insert (some info)).opening world).zoneUpdateTimeMsec
        (world.newZoneInstance info) = world.timeMsec := Function.update_self _ _ _
    exact entered ▸ keeps.updated _
  · have present : world.zones.find key = some zone := found
    rw [ZoneCall.complete, ZoneCall.program, processZoneInstanceInfoUpdatedFromIntegrationServer,
      Program.run_bind, find, run_readWorld, present]
    have updated : (perform (.updateZoneInstance zone) world).zoneUpdateTimeMsec zone =
        world.timeMsec := Function.update_self _ _ _
    exact updated.ge

end World

namespace ZoneRun

variable {record : List (Executed ZoneCall World)} {world : World}

theorem expiring (run : ZoneRun ZoneCall.InRange record world) : world.Expiring := by
  induction run with
  | start =>
      exact ⟨indexed_initial.toSound, by decide, fun _ => ⟨le_rfl, le_rfl⟩,
        fun found => nomatch found⟩
  | call _ call meets ih => exact ih.complete meets

/-- The deadline of a zone lies after every call that made or updated it. -/
theorem touched (run : ZoneRun ZoneCall.InRange record world) :
    ∀ executed ∈ record, ∀ zone, executed.command.Touches executed.before zone →
      (executed.before.timeMsec : Int) ≤ world.zoneUpdateTimeMsec zone := by
  induction run with
  | start => simp
  | call before call meets ih =>
      have expiring := before.expiring
      obtain ⟨grown, touched⟩ := expiring.past.touched expiring.toZonesSound call
      intro executed inside zone touches
      rcases List.mem_append.mp inside with earlier | last
      · exact (ih executed earlier zone touches).trans (grown zone)
      · rw [List.mem_singleton.mp last] at touches ⊢
        exact touched zone touches

end ZoneRun

/-- **Zones expire in time and not too early.** After any calls of the zone manager while
the clock is in range: for every registered zone an expiry job is pending that is due by its
deadline; executing the zone's job, with whatever jobs left in the queue, ends the zone once
the deadline has passed; and executing the job of any key ends a registered zone only if
`kExpireDelayMsec` has passed since every call that made or updated it. -/
theorem zones_expire {record : List (Executed ZoneCall World)} {world : World}
    (run : ZoneRun ZoneCall.InRange record world) :
    (∀ key zone, world.zones.instanceMap.find? key = some zone →
      ∃ dueTimeMsec, (dueTimeMsec, .expire key) ∈ world.zoneJobs ∧
        dueTimeMsec ≤ world.zoneUpdateTimeMsec zone + kExpireDelayMsec) ∧
    ∀ (jobs : AsyncJobQueue ZoneJob) (key : IntegrationZoneInstanceKey),
      let expired := ((processZoneInstanceExpireAsync key).run perform
        { world with zoneJobs := jobs }).2
      (∀ zone, world.zones.instanceMap.find? key = some zone →
        world.zoneUpdateTimeMsec zone + kExpireDelayMsec ≤ world.timeMsec →
        expired.zones.instanceMap.find? key = none) ∧
      ∀ other zone, world.zones.instanceMap.find? other = some zone →
        expired.zones.instanceMap.find? other ≠ some zone →
        ∀ executed ∈ record, executed.command.Touches executed.before zone →
          executed.before.timeMsec + kExpireDelayMsec ≤ world.timeMsec := by
  have expiring := run.expiring
  refine ⟨fun key zone found => expiring.pending found, fun jobs key => ?_⟩
  generalize pending : ({ world with zoneJobs := jobs } : World) = present
  have zones : present.zones = world.zones := by rw [← pending]
  have deadline : ∀ zone, present.expireTimeMsec zone % 2 ^ 64 > present.timeMsec ↔
      world.zoneUpdateTimeMsec zone + kExpireDelayMsec > world.timeMsec := by
    intro zone
    have inRange := expiring.expireTimeMsec_mod zone
    rw [← pending]
    exact iff_of_eq (congrArg (· > (world.timeMsec : Int)) inRange)
  rw [← zones]
  refine ⟨fun zone found passed => ?_, fun other zone found ended executed inside touches => ?_⟩
  · have own := expiring.keyed (zones ▸ found)
    rw [run_expire found own, if_neg (by rw [deadline]; exact not_lt.mpr passed),
      Option.eq_none_iff_forall_ne_some]
    exact fun rival stays => (World.find?_eraseZoneInstance.mp stays).1 rfl
  · have touched := run.touched executed inside zone touches
    cases held : present.zones.instanceMap.find? key with
    | none =>
        rw [run_expire_of_absent held] at ended
        exact absurd found ended
    | some rival =>
        rw [run_expire held (expiring.keyed (zones ▸ held))] at ended
        split_ifs at ended with later
        · exact absurd found ended
        · have same : other = key := by
            by_contra away
            exact ended (World.find?_eraseZoneInstance.mpr ⟨away, found⟩)
          subst same
          obtain rfl := Option.some.inj (found.symm.trans held)
          rw [deadline] at later
          omega

/-- A zone is updated after it was inserted. The worker executes its first expiry job, which
comes back, and the deadline of the update passes. -/
def updatedZoneCalls : List ZoneCall :=
  [.insert (some pairZoneInfo), .tick 4000, .zoneUpdated pairZoneInfo.key, .tick 10000,
    .zoneWorkerRun, .tick 14000]

def updatedZoneWorld : World :=
  updatedZoneCalls.foldl (fun world call => call.complete world) {}

/-- The zone is registered until its job is executed again. -/
theorem zones_expire_updated :
    let zone : IntegrationZoneInstance := ⟨0, 0, -1, 1000, ""⟩
    let expired := ((processZoneInstanceExpireAsync pairZoneInfo.key).run perform
      updatedZoneWorld).2
    updatedZoneWorld.zones.instanceMap.find? pairZoneInfo.key = some zone ∧
      (∃ dueTimeMsec, (dueTimeMsec, .expire pairZoneInfo.key) ∈ updatedZoneWorld.zoneJobs ∧
        dueTimeMsec ≤ updatedZoneWorld.zoneUpdateTimeMsec zone + kExpireDelayMsec) ∧
      expired.zones.instanceMap.find? pairZoneInfo.key = none ∧
      ∃ record, ZoneRun ZoneCall.InRange record updatedZoneWorld ∧
        record.map Executed.command = updatedZoneCalls ∧
        ∀ executed ∈ record, executed.command.Touches executed.before zone →
          executed.before.timeMsec + kExpireDelayMsec ≤ updatedZoneWorld.timeMsec := by
  intro zone expired
  have ticks : ∀ time : Nat, (time : Int) + kExpireDelayMsec < 2 ^ 63 → ∀ world,
      (ZoneCall.tick time).InRange world := by
    rintro time inRange world _ ⟨⟩
    exact inRange
  have inserted : ZoneRun ZoneCall.InRange _ _ :=
    .call .start (.insert (some pairZoneInfo)) nofun
  have later := inserted.call (.tick 4000) (ticks 4000 (by decide) _)
  have updated := later.call (.zoneUpdated pairZoneInfo.key) nofun
  have due := updated.call (.tick 10000) (ticks 10000 (by decide) _)
  have run : ZoneRun ZoneCall.InRange _ updatedZoneWorld :=
    (due.call .zoneWorkerRun nofun).call (.tick 14000) (ticks 14000 (by decide) _)
  have found : updatedZoneWorld.zones.instanceMap.find? pairZoneInfo.key = some zone := by
    decide +kernel
  obtain ⟨pending, executes⟩ := zones_expire run
  obtain ⟨ends, early⟩ := executes updatedZoneWorld.zoneJobs pairZoneInfo.key
  have gone := ends zone found (by decide +kernel)
  refine ⟨found, pending _ _ found, gone, _, run, rfl, early _ zone found ?_⟩
  rw [gone]
  exact nofun

end MatchmakingMvp
