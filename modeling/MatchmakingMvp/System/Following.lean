import MatchmakingMvp.System.Neutral

/-! # Operations that follow stages

An operation follows stages from the state it starts in. What it read earlier stays
true as far as later states keep it, and later states come after
(`MatchmakingMvp.World.Precedes`). -/

namespace MatchmakingMvp

open Foundation

variable {Stage First Second : Type} {invariant : World → Prop}
  {issues : Section → World → Stage → Stage → Prop} {seen : World} {stage : Stage}

/-- Seen from a state and a stage, the operation performs its sections between stages
and ends as the postcondition says. -/
def Obeys {Result : Type} (invariant : World → Prop)
    (issues : Section → World → Stage → Stage → Prop) (seen : World) (stage : Stage)
    (operation : Operation Result) (post : World → Stage → Result → Prop) : Prop :=
  operation.Follows perform invariant World.Precedes issues
    (fun world stage result => seen.Precedes world ∧ post world stage result) seen stage

theorem obeys_pure {result : First} {post : World → Stage → First → Prop}
    (holds : post seen stage result) : Obeys invariant issues seen stage (pure result) post :=
  ⟨World.Precedes.refl seen, holds⟩

theorem Obeys.bind {middle : World → Stage → First → Prop}
    {post : World → Stage → Second → Prop} {operation : Operation First}
    {continuation : First → Operation Second}
    (first : Obeys invariant issues seen stage operation middle)
    (second : ∀ world stage result, seen.Precedes world → middle world stage result →
      Obeys invariant issues world stage (continuation result) post) :
    Obeys invariant issues seen stage (operation >>= continuation) post :=
  Program.Follows.bind first fun world stage result ⟨precedes, holds⟩ =>
    (second world stage result precedes holds).mono fun _ _ _ ⟨later, ends⟩ =>
      ⟨precedes.trans later, ends⟩

/-- `Obeys.bind` with what holds between the two operations given first. -/
theorem Obeys.via (middle : World → Stage → First → Prop)
    {post : World → Stage → Second → Prop} {operation : Operation First}
    {continuation : First → Operation Second}
    (first : Obeys invariant issues seen stage operation middle)
    (second : ∀ world stage result, seen.Precedes world → middle world stage result →
      Obeys invariant issues world stage (continuation result) post) :
    Obeys invariant issues seen stage (operation >>= continuation) post :=
  first.bind second

theorem Obeys.mono {stronger weaker : World → Stage → First → Prop}
    {operation : Operation First} (obeys : Obeys invariant issues seen stage operation stronger)
    (implies : ∀ world stage result, seen.Precedes world → stronger world stage result →
      weaker world stage result) :
    Obeys invariant issues seen stage operation weaker :=
  Program.Follows.mono (fun _ _ _ ⟨precedes, holds⟩ =>
    ⟨precedes, implies _ _ _ precedes holds⟩) obeys

theorem obeys_atomically {step : Section} {reading : World → First}
    {post : World → Stage → First → Prop}
    (issued : ∀ world, seen.Precedes world → invariant world → ∃ stage',
      issues step world stage stage' ∧ post (perform step world) stage' (reading world)) :
    Obeys invariant issues seen stage (Program.atomically step reading) post := by
  intro world precedes holds
  obtain ⟨stage', issue, ends⟩ := issued world precedes holds
  exact ⟨stage', issue, precedes.trans (precedes_perform step world), ends⟩

/-- An operation whose sections the thread may perform without leaving its stage. -/
theorem obeys_of_everywhere {predicate : Section → Prop} {operation : Operation First}
    (free : ∀ step world, predicate step → issues step world stage stage)
    (everywhere : operation.Everywhere predicate) :
    Obeys invariant issues seen stage operation fun _ stage' _ => stage' = stage := by
  suffices ∀ current, seen.Precedes current → operation.Follows perform invariant
      World.Precedes issues (fun world stage' _ => seen.Precedes world ∧ stage' = stage)
      current stage from this seen (World.Precedes.refl seen)
  induction operation with
  | done result => exact fun current precedes => ⟨precedes, rfl⟩
  | step command next ih =>
      intro current precedes world later _
      have after := (precedes.trans later).trans (precedes_perform command world)
      exact ⟨stage, free _ _ everywhere.1, ih world (everywhere.2 world) _ after⟩

end MatchmakingMvp
