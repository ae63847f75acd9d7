import MatchmakingMvp.System.CallAdherence

/-! # The integration worlds in turn

A session of a world group that is no integration world is placed in the next integration
world, which a counter names. The counter is a 32-bit number, and the remainder of a
negative counter is no index. As long as the counter has not passed the largest 32-bit
number, the worlds take turns (`MatchmakingMvp.integration_worlds_take_turns`). -/

namespace MatchmakingMvp

open Foundation

/-- The world group a step asks the next integration world for. -/
def Section.foreignWorldGroup : Section → Option Int
  | .nextIntegrationWorldNo worldGroupNo =>
      if worldGroupNo ∈ kDefaultWorldGroups then none else some worldGroupNo
  | _ => none

/-- The integration worlds given to world groups that are none, in turn. There is no world
where the counter indexes outside of them. -/
def turns (steps : List (Executed Section World)) : List (Option Int) :=
  steps.filterMap fun executed =>
    executed.command.foreignWorldGroup.map executed.before.getNextIntegrationWorldNo

/-- The counter can be incremented, and then it is not negative. -/
def World.CounterFits (world : World) : Prop :=
  0 ≤ world.lastIntegrationWorldNo + 1 ∧ world.lastIntegrationWorldNo + 1 < 2 ^ 31

instance (world : World) : Decidable world.CounterFits := inferInstanceAs (Decidable (_ ∧ _))

/-- The world whose turn it is. -/
def turn (index : Nat) : Option Int := kDefaultWorldGroups[index % kDefaultWorldGroups.length]?

/-- Only a request of a foreign world group moves the counter. -/
theorem perform_lastIntegrationWorldNo (step : Section) (world : World) :
    (perform step world).lastIntegrationWorldNo =
      match step.foreignWorldGroup with
      | none => world.lastIntegrationWorldNo
      | some _ => (world.lastIntegrationWorldNo + 1).bmod (2 ^ 32) := by
  cases step with
  | nextIntegrationWorldNo worldGroupNo =>
      simp only [perform, Section.foreignWorldGroup]
      split_ifs <;> rfl
  | _ => rfl

theorem Section.foreignWorldGroup_eq_some {step : Section} {worldGroupNo : Int} :
    step.foreignWorldGroup = some worldGroupNo ↔
      step = .nextIntegrationWorldNo worldGroupNo ∧ worldGroupNo ∉ kDefaultWorldGroups := by
  cases step with
  | nextIntegrationWorldNo other =>
      simp only [Section.foreignWorldGroup, Section.nextIntegrationWorldNo.injEq]
      split_ifs with member
      · simp only [false_iff, not_and, not_not]
        rintro rfl
        exact member
      · simp only [Option.some.injEq]
        refine ⟨?_, And.left⟩
        rintro rfl
        exact ⟨rfl, member⟩
  | _ => simp [Section.foreignWorldGroup]

/-- A counter that fits names the world whose turn it is. -/
theorem World.getNextIntegrationWorldNo_of_foreign {world : World} {worldGroupNo : Int}
    {index : Nat} (foreign : worldGroupNo ∉ kDefaultWorldGroups)
    (counter : world.lastIntegrationWorldNo + 1 = index) :
    world.getNextIntegrationWorldNo worldGroupNo = turn index := by
  rw [getNextIntegrationWorldNo, if_neg foreign, counter, ← Int.ofNat_tmod]
  simp only
  rw [if_neg (by omega), Int.toNat_natCast]
  rfl

/-- Four turns in a row are one of each world. -/
theorem turns_perm (start : Nat) :
    ((List.range' start kDefaultWorldGroups.length).map turn).Perm
      (kDefaultWorldGroups.map some) := by
  have shift : ∀ index, turn index = turn (index % 4) := fun index => by
    rw [turn, turn, show kDefaultWorldGroups.length = 4 from rfl, Nat.mod_mod]
  have listed : (List.range' start kDefaultWorldGroups.length).map turn =
      (List.range' (start % 4) kDefaultWorldGroups.length).map turn := by
    refine List.ext_getElem (by simp) fun index first second => ?_
    simp only [List.getElem_map, List.getElem_range']
    rw [shift, shift (start % 4 + _)]
    congr 1
    omega
  have each : ∀ offset < 4, ((List.range' offset kDefaultWorldGroups.length).map turn).Perm
      (kDefaultWorldGroups.map some) := by decide
  rw [listed]
  exact each _ (Nat.mod_lt _ (by decide))

section Runs

variable {joins : Operation Unit → Prop} {allowed : Section → World → Prop}
  {steps : List (Executed Section World)} {pool : Pool Section World}

theorem turns_append (steps : List (Executed Section World)) (executed : Executed Section World) :
    turns (steps ++ [executed]) = turns steps ++
      (executed.command.foreignWorldGroup.map
        executed.before.getNextIntegrationWorldNo).toList := by
  rw [turns, List.filterMap_append, ← turns]
  cases found : executed.command.foreignWorldGroup <;> simp [found]

/-- The counter counts the turns, and the turns are taken in order. -/
theorem counter_turns (execution : Execution perform joins allowed {} steps pool)
    (fits : ∀ executed ∈ steps, executed.command.foreignWorldGroup ≠ none →
      executed.before.CounterFits) :
    pool.state.lastIntegrationWorldNo + 1 = (turns steps).length ∧
      turns steps = (List.range (turns steps).length).map turn := by
  induction execution with
  | start => exact ⟨rfl, rfl⟩
  | join _ _ ih => exact ih fits
  | @advance steps world front step next back prior _ ih =>
      obtain ⟨counted, listed⟩ := ih fun executed inside =>
        fits executed (List.mem_append_left _ inside)
      have fit := fits _ (List.mem_append_right _ (List.mem_singleton_self _))
      rw [turns_append, perform_lastIntegrationWorldNo]
      cases foreign : step.foreignWorldGroup with
      | none => simpa using ⟨counted, listed⟩
      | some worldGroupNo =>
          obtain ⟨least, most⟩ : world.CounterFits := fit (by simp [foreign])
          have outside := (Section.foreignWorldGroup_eq_some.mp foreign).2
          have kept : (world.lastIntegrationWorldNo + 1).bmod (2 ^ 32) =
              world.lastIntegrationWorldNo + 1 :=
            Int.bmod_eq_of_le_mul_two (by omega) (by omega)
          simp only [Option.map_some, Option.toList_some, List.length_append, List.length_singleton]
          refine ⟨?_, ?_⟩
          · rw [kept, counted]
            push_cast
            rfl
          · rw [List.range_succ, List.map_append, ← listed,
              World.getNextIntegrationWorldNo_of_foreign outside counted]
            rfl

/-- **The integration worlds take turns.** In every interleaving, whatever the programs
are, in which each request of a foreign world group finds a counter that can be
incremented within the nonnegative 32-bit numbers: every request is answered with an
integration world, with the world group itself where it is one; and any answers to foreign
world groups in a row, as many as there are worlds, are each world once. -/
theorem integration_worlds_take_turns
    (execution : Execution perform joins allowed {} steps pool)
    (fits : ∀ executed ∈ steps, executed.command.foreignWorldGroup ≠ none →
      executed.before.CounterFits) :
    (∀ executed ∈ steps, ∀ worldGroupNo,
      executed.command = .nextIntegrationWorldNo worldGroupNo →
      ∃ worldNo ∈ kDefaultWorldGroups,
        executed.before.getNextIntegrationWorldNo worldGroupNo = some worldNo ∧
        (worldGroupNo ∈ kDefaultWorldGroups → worldNo = worldGroupNo)) ∧
    ∀ position, position + kDefaultWorldGroups.length ≤ (turns steps).length →
      (((turns steps).drop position).take kDefaultWorldGroups.length).Perm
        (kDefaultWorldGroups.map some) := by
  obtain ⟨-, listed⟩ := counter_turns execution fits
  constructor
  · intro executed inside worldGroupNo asks
    by_cases own : worldGroupNo ∈ kDefaultWorldGroups
    · exact ⟨worldGroupNo, own, if_pos own, fun _ => rfl⟩
    · have foreign : executed.command.foreignWorldGroup = some worldGroupNo :=
        Section.foreignWorldGroup_eq_some.mpr ⟨asks, own⟩
      have answered : executed.before.getNextIntegrationWorldNo worldGroupNo ∈ turns steps :=
        List.mem_filterMap.mpr ⟨executed, inside, by rw [foreign]; rfl⟩
      rw [listed] at answered
      obtain ⟨index, -, same⟩ := List.mem_map.mp answered
      obtain ⟨worldNo, found⟩ : ∃ worldNo, turn index = some worldNo :=
        ⟨_, List.getElem?_eq_getElem (Nat.mod_lt _ (by decide))⟩
      exact ⟨worldNo, List.mem_of_getElem? found, same.symm.trans found,
        fun member => (own member).elim⟩
  · intro position inside
    have window : ((List.range (turns steps).length).drop position).take
        kDefaultWorldGroups.length = List.range' position kDefaultWorldGroups.length := by
      refine List.ext_getElem (by simp; omega) fun index first second => ?_
      simp
    rw [listed, ← List.map_drop, ← List.map_take, window]
    exact turns_perm position

end Runs

/-- The creation of a session of one ticket. -/
def soleCreation (worldGroupNo : Int) : Operation Unit :=
  MatchSessionManager.createMatchSession (worldGroupNo, "Dungeon") (.single (soleTicket 1))

/-- Four sessions of a foreign world group and one of an integration world. -/
def fiveCreations : List (Executed Section World) × Pool Section World :=
  Pool.follow perform [0, 1, 2, 3, 4, 4, 3, 2, 1, 0]
    ⟨{}, [soleCreation 7, soleCreation 7, soleCreation 2, soleCreation 7, soleCreation 7]⟩

theorem integration_worlds_take_turns_five :
    (turns fiveCreations.1).length = 4 ∧
      (((turns fiveCreations.1).drop 0).take kDefaultWorldGroups.length).Perm
        (kDefaultWorldGroups.map some) := by
  have execution : Execution perform (fun _ => True) (fun _ _ => True) {} fiveCreations.1
      fiveCreations.2 := Execution.play (fun _ _ => trivial) _
  have fits : ∀ executed ∈ fiveCreations.1, executed.command.foreignWorldGroup ≠ none →
      executed.before.CounterFits := by decide +kernel
  have length : (turns fiveCreations.1).length = 4 := by decide +kernel
  exact ⟨length, (integration_worlds_take_turns execution fits).2 0 (by rw [length]; decide)⟩

section Wrapped

variable {joins : Operation Unit → Prop} {steps : List (Executed Section World)}

/-- The creation of a session for any group and tickets. -/
def CreatesSession (program : Operation Unit) : Prop :=
  ∃ key tickets, program = MatchSessionManager.createMatchSession key tickets

/-- A creation asks for the next integration world in its second step. -/
theorem exists_second_step {threads : List (Operation Unit)} {world : World}
    (execution : Execution perform joins (fun _ _ => True) {} steps ⟨world, threads⟩)
    (joining : joins (soleCreation 7)) :
    ∃ first entered thread, entered.lastIntegrationWorldNo = world.lastIntegrationWorldNo ∧
      Execution perform joins (fun _ _ => True) {}
        (steps ++ [first] ++ [⟨.nextIntegrationWorldNo 7, entered,
          perform (.nextIntegrationWorldNo 7) entered⟩])
        ⟨perform (.nextIntegrationWorldNo 7) entered, thread :: threads⟩ :=
  ⟨_, _, _, rfl, ((execution.join joining).advanceFirst trivial).advanceFirst trivial⟩

/-- Sessions of a foreign world group, created one after another. -/
theorem exists_creations (joining : joins (soleCreation 7)) (count : Nat) :
    ∃ steps world threads, Execution perform joins (fun _ _ => True) {} steps ⟨world, threads⟩ ∧
      world.lastIntegrationWorldNo = ((count : Int) - 1).bmod (2 ^ 32) := by
  induction count with
  | zero => exact ⟨[], {}, [], .start, rfl⟩
  | succ count ih =>
      obtain ⟨steps, world, threads, execution, counter⟩ := ih
      obtain ⟨_, entered, thread, same, later⟩ := exists_second_step execution joining
      refine ⟨_, _, _, later, ?_⟩
      have moved : (perform (.nextIntegrationWorldNo 7) entered).lastIntegrationWorldNo =
          (entered.lastIntegrationWorldNo + 1).bmod (2 ^ 32) :=
        perform_lastIntegrationWorldNo _ _
      rw [moved, same, counter, Int.bmod_add_bmod]
      congr 1
      omega

/-- When more sessions were created than the counter can count, the request indexes
outside of the integration worlds. -/
theorem creations_exceed_counter :
    ∃ steps pool, Execution perform CreatesSession (fun _ _ => True) {} steps pool ∧
      ∃ executed ∈ steps, executed.command = .nextIntegrationWorldNo 7 ∧
        executed.before.getNextIntegrationWorldNo 7 = none := by
  have joining : CreatesSession (soleCreation 7) := ⟨_, _, rfl⟩
  obtain ⟨steps, world, threads, execution, counter⟩ := exists_creations joining (2 ^ 31 + 1)
  obtain ⟨_, entered, thread, same, later⟩ := exists_second_step execution joining
  refine ⟨_, _, later, _, List.mem_append_right _ (List.mem_singleton_self _), rfl, ?_⟩
  have wrapped : entered.lastIntegrationWorldNo = - 2 ^ 31 := by
    rw [same, counter]
    rfl
  rw [World.getNextIntegrationWorldNo, wrapped]
  rfl

end Wrapped

end MatchmakingMvp
