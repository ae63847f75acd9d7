import MatchmakingMvp.Core.Combinations

/-! # The stack of the combination loop

The loop of `makeCombination` keeps the selected parts beside its stack of frames, and changes
both in place. Each frame but the lowest stands for one selected part, so the parts are one fewer
than the frames and add up, with what the top frame has left, to the whole match
(`MatchmakingMvp.StackedOver`). The stack never outgrows the capacity reserved for it, so that no
push moves the frame in use (`MatchmakingMvp.combination_stack_safe`). -/

namespace MatchmakingMvp

/-- A frame goes on with parts that are positive, no smaller than the part it was pushed with, and
no larger than what is left. -/
structure CombinationFrame.Sound (frame : CombinationFrame) : Prop where
  remaining : 0 ≤ frame.remainingCount
  next : 1 ≤ frame.nextPartSize ∧ frame.selectedPartSize ≤ frame.nextPartSize
  largest : frame.maxPartSize ≤ frame.remainingCount

/-- The frames, top first, stand on the selected parts. -/
inductive StackedOver (matchPlayerCount : Int) : List CombinationFrame → List Int → Prop
  | bottom {frame : CombinationFrame} (sound : frame.Sound)
      (whole : frame.remainingCount = matchPlayerCount) (unselected : frame.selectedPartSize = 0) :
      StackedOver matchPlayerCount [frame] []
  | push {frame below : CombinationFrame} {rest : List CombinationFrame} {parts : List Int}
      (stacked : StackedOver matchPlayerCount (below :: rest) parts) (sound : frame.Sound)
      (selected : 1 ≤ frame.selectedPartSize)
      (ascends : below.selectedPartSize ≤ frame.selectedPartSize)
      (left : frame.remainingCount = below.remainingCount - frame.selectedPartSize) :
      StackedOver matchPlayerCount (frame :: below :: rest) (parts ++ [frame.selectedPartSize])

namespace StackedOver

variable {matchPlayerCount limit : Int} {frame : CombinationFrame}
  {rest : List CombinationFrame} {parts : List Int}

theorem sound (stacked : StackedOver matchPlayerCount (frame :: rest) parts) : frame.Sound := by
  cases stacked with
  | bottom sound => exact sound
  | push _ sound => exact sound

/-- Taking the next part from the top frame leaves it where it stands. -/
theorem takeNext (stacked : StackedOver matchPlayerCount (frame :: rest) parts) :
    StackedOver matchPlayerCount ({ frame with nextPartSize := frame.nextPartSize + 1 } :: rest)
      parts := by
  have advanced : ∀ {frame : CombinationFrame}, frame.Sound →
      CombinationFrame.Sound { frame with nextPartSize := frame.nextPartSize + 1 } := by
    intro frame sound
    have next := sound.next
    exact ⟨sound.remaining, ⟨by simp only; omega, by simp only; omega⟩, sound.largest⟩
  cases stacked with
  | bottom sound whole unselected => exact .bottom (advanced sound) whole unselected
  | push stacked sound selected ascends left =>
      exact .push stacked (advanced sound) selected ascends left

/-- Leaving a frame uncovers the one below with its parts, or ends the loop. -/
theorem leave (stacked : StackedOver matchPlayerCount (frame :: rest) parts) :
    rest = [] ∨ StackedOver matchPlayerCount rest (frame.leave parts) := by
  cases stacked with
  | bottom => exact Or.inl rfl
  | push stacked _ selected =>
      rw [CombinationFrame.leave, if_pos (Int.lt_of_lt_of_le Int.zero_lt_one selected),
        List.dropLast_concat]
      exact Or.inr stacked

theorem length (stacked : StackedOver matchPlayerCount (frame :: rest) parts) :
    parts.length + 1 = (frame :: rest).length := by
  generalize stack : frame :: rest = frames at stacked
  induction stacked generalizing frame rest with
  | bottom => rfl
  | push _ _ _ _ _ ih =>
      rw [List.length_append, List.length_singleton, ih rfl]
      rfl

theorem sum (stacked : StackedOver matchPlayerCount (frame :: rest) parts) :
    parts.sum + frame.remainingCount = matchPlayerCount := by
  generalize stack : frame :: rest = frames at stacked
  induction stacked generalizing frame rest with
  | bottom _ whole =>
      cases stack
      rw [List.sum_nil, Int.zero_add, whole]
  | push _ _ _ _ left ih =>
      cases stack
      have below := ih rfl
      rw [List.sum_append, List.sum_singleton]
      omega

/-- The selected parts are positive and do not decrease, up to the one of the top frame. -/
theorem ascending (stacked : StackedOver matchPlayerCount (frame :: rest) parts) :
    parts.Pairwise (· ≤ ·) ∧ ∀ part ∈ parts, 1 ≤ part ∧ part ≤ frame.selectedPartSize := by
  generalize stack : frame :: rest = frames at stacked
  induction stacked generalizing frame rest with
  | bottom => exact ⟨.nil, nofun⟩
  | push _ _ selected ascends _ ih =>
      cases stack
      obtain ⟨sorted, bounds⟩ := ih rfl
      refine ⟨List.pairwise_append.mpr ⟨sorted, List.pairwise_singleton _ _, ?_⟩, ?_⟩
      · intro part inside last same
        rw [List.mem_singleton.mp same]
        exact (bounds part inside).2.trans ascends
      · intro part inside
        rcases List.mem_append.mp inside with earlier | last
        · exact ⟨(bounds part earlier).1, (bounds part earlier).2.trans ascends⟩
        · rw [List.mem_singleton.mp last]
          exact ⟨selected, le_rfl⟩

theorem parts_ne_nil (stacked : StackedOver matchPlayerCount (frame :: rest) parts)
    (selected : 0 < frame.selectedPartSize) : parts ≠ [] := by
  cases stacked with
  | bottom _ _ unselected => exact (selected.ne' unselected).elim
  | push => exact List.append_ne_nil_of_right_ne_nil _ (List.cons_ne_nil _ _)

/-- Positive parts that leave something over are no more than the players. -/
theorem length_le (stacked : StackedOver matchPlayerCount (frame :: rest) parts) :
    (parts.length : Int) ≤ matchPlayerCount := by
  have ones : ∀ parts : List Int, (∀ part ∈ parts, 1 ≤ part) →
      (parts.length : Int) ≤ parts.sum := by
    intro parts positive
    induction parts with
    | nil => exact le_rfl
    | cons part rest ih =>
        have first := positive part List.mem_cons_self
        have others := ih fun part inside => positive part (List.mem_cons_of_mem _ inside)
        rw [List.length_cons, List.sum_cons]
        omega
  have most := ones parts fun part inside => (stacked.ascending.2 part inside).1
  have total := stacked.sum
  have remaining := stacked.sound.remaining
  omega

end StackedOver

/-- The loop has ended, or its frames stand on its parts. -/
def CombinationState.Stands (matchPlayerCount : Int) (state : CombinationState) : Prop :=
  state.combinationStack = [] ∨
    StackedOver matchPlayerCount state.combinationStack state.currentParts

theorem CombinationState.Stands.step {matchPlayerCount limit : Int} {state : CombinationState}
    (stands : state.Stands matchPlayerCount) :
    (combinationStep limit state).Stands matchPlayerCount := by
  obtain ⟨combinationMap, currentParts, combinationStack⟩ := state
  cases combinationStack with
  | nil => exact Or.inl rfl
  | cons frame rest =>
      have stacked : StackedOver matchPlayerCount (frame :: rest) currentParts :=
        stands.resolve_left (List.cons_ne_nil _ _)
      rw [combinationStep]
      dsimp only
      split_ifs with complete exhausted
      · exact stacked.leave
      · exact stacked.leave
      · have sound := stacked.sound
        have next := sound.next
        have largest := sound.largest
        refine Or.inr (.push stacked.takeNext ⟨?_, ?_, ?_⟩ next.1 next.2 rfl)
        · simp only
          omega
        · exact ⟨next.1, le_rfl⟩
        · exact min_le_left _ _

theorem combinationLoop_stands {matchPlayerCount : Int} (players : 1 ≤ matchPlayerCount)
    (limit : Int) (iterations : Nat) :
    (combinationLoop limit iterations
      (initialCombinationState matchPlayerCount limit)).Stands matchPlayerCount := by
  have initial : (initialCombinationState matchPlayerCount limit).Stands matchPlayerCount :=
    Or.inr (.bottom ⟨by simp only; omega, ⟨le_rfl, Int.zero_le_ofNat 1⟩, min_le_left _ _⟩ rfl rfl)
  generalize initialCombinationState matchPlayerCount limit = state at initial
  induction iterations generalizing state with
  | zero => exact initial
  | succ iterations ih =>
      rw [combinationLoop]
      split
      · exact initial
      · exact ih _ initial.step

/-- **The stack loop is safe.** For every match of at least one player the loop ends, and at each
of its iterations the selected parts are one fewer than the frames, do not decrease and add up,
with what the top frame has left, to the match. The stack and the parts keep within their reserved
capacities, a frame with a part is left with parts to drop, and all numbers stay between zero and
one above the player count. -/
theorem combination_stack_safe {matchPlayerCount : Int} (players : 1 ≤ matchPlayerCount)
    (partyAvailablePlayerCount : Int) :
    let state := fun iterations => combinationLoop partyAvailablePlayerCount iterations
      (initialCombinationState matchPlayerCount partyAvailablePlayerCount)
    (∃ iterations, (state iterations).combinationStack = []) ∧
      ∀ iterations frame rest, (state iterations).combinationStack = frame :: rest →
        (state iterations).currentParts.length + 1 =
            (state iterations).combinationStack.length ∧
          (state iterations).currentParts.Pairwise (· ≤ ·) ∧
          (state iterations).currentParts.sum + frame.remainingCount = matchPlayerCount ∧
          ((state iterations).combinationStack.length : Int) ≤ matchPlayerCount + 1 ∧
          ((state iterations).currentParts.length : Int) ≤ matchPlayerCount ∧
          (0 < frame.selectedPartSize → (state iterations).currentParts ≠ []) ∧
          (state iterations).Bounded matchPlayerCount := by
  intro state
  refine ⟨⟨_, congrArg CombinationState.combinationStack (combinationLoop_finishes players)⟩, ?_⟩
  intro iterations frame rest top
  have bounded : (state iterations).Bounded matchPlayerCount :=
    combinationLoop_bounded players _ iterations
  have standing := (combinationLoop_stands players partyAvailablePlayerCount
    iterations).resolve_left (top ▸ List.cons_ne_nil _ _)
  rw [top] at standing ⊢
  have length := standing.length
  have most := standing.length_le
  exact ⟨length, standing.ascending.1, standing.sum, by omega, most, standing.parts_ne_nil,
    bounded⟩

theorem combination_stack_safe_four :
    ∃ iterations, (combinationLoop 3 iterations (initialCombinationState 4 3)).combinationStack =
      [] :=
  (combination_stack_safe (by decide) 3).1

end MatchmakingMvp
