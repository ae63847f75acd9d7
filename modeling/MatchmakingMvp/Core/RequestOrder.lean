import MatchmakingMvp.Core.Types
import MatchmakingMvp.Foundation.KeyedOrder
import Mathlib.Data.List.Lex
import Mathlib.Data.String.Basic

/-! # The order of ticket requests

Two requests with ticket ids are compared by the ids, and otherwise by their other members.
The comparison is declared a weak ordering, and requests are stored in sets ordered by it.
It is one exactly on the requests whose ids and members agree
(`MatchmakingMvp.MatchTicketRequest.weaklyOrders_iff`). -/

namespace MatchmakingMvp

open Foundation

/-- World number, zone, party key, requesting player and players of a request, compared one
after another. -/
def RequestMembers : Type := Int ×ₗ String ×ₗ Int ×ₗ PlayerKey ×ₗ List PlayerKey

instance : LinearOrder RequestMembers :=
  inferInstanceAs (LinearOrder (Int ×ₗ String ×ₗ Int ×ₗ PlayerKey ×ₗ List PlayerKey))

namespace MatchTicketRequest

/-- The members besides the ticket id. -/
def tie (request : MatchTicketRequest) : RequestMembers :=
  toLex (request.worldNo, toLex (request.matchZoneId, toLex (request.partyKey,
    toLex (request.requestPlayerKey, request.players.elements))))

/-- `operator<=>` -/
def spaceship (lhs rhs : MatchTicketRequest) : Ordering :=
  if lhs.matchTicketId ≥ 0 ∧ rhs.matchTicketId ≥ 0 then
    compare lhs.matchTicketId rhs.matchTicketId
  else compare lhs.tie rhs.tie

/-- The ticket id of a request that was assigned one. -/
def assignedId (request : MatchTicketRequest) : Option MatchTicketId :=
  if 0 ≤ request.matchTicketId then some request.matchTicketId else none

theorem assignedId_eq_some {request : MatchTicketRequest} {matchTicketId : MatchTicketId} :
    request.assignedId = some matchTicketId ↔
      0 ≤ request.matchTicketId ∧ request.matchTicketId = matchTicketId := by
  rw [assignedId]
  split_ifs with assigned
  · simp [assigned]
  · simp [assigned]

theorem assignedId_eq_none {request : MatchTicketRequest} :
    request.assignedId = none ↔ request.matchTicketId < 0 := by
  rw [assignedId]
  split_ifs with assigned
  · simp [assigned]
  · simpa using assigned

theorem spaceship_eq_compareKeyed : spaceship = compareKeyed assignedId tie := by
  funext lhs rhs
  by_cases left : 0 ≤ lhs.matchTicketId
  · by_cases right : 0 ≤ rhs.matchTicketId
    · rw [compareKeyed_of_keys (assignedId_eq_some.mpr ⟨left, rfl⟩)
        (assignedId_eq_some.mpr ⟨right, rfl⟩)]
      exact if_pos ⟨left, right⟩
    · rw [compareKeyed_of_none (Or.inr (assignedId_eq_none.mpr (not_le.mp right)))]
      exact if_neg fun both => right both.2
  · rw [compareKeyed_of_none (Or.inl (assignedId_eq_none.mpr (not_le.mp left)))]
    exact if_neg fun both => left both.1

/-- Around every request without an id, the ids order the others as their members do. -/
def IdsAgree (requests : Set MatchTicketRequest) : Prop :=
  ∀ low ∈ requests, ∀ middle ∈ requests, ∀ high ∈ requests,
    0 ≤ low.matchTicketId → middle.matchTicketId < 0 → 0 ≤ high.matchTicketId →
    low.tie ≤ middle.tie → middle.tie ≤ high.tie →
    compare low.matchTicketId high.matchTicketId = compare low.tie high.tie

/-- **The order of requests** is a weak ordering of a set of requests exactly if ids and
members agree in it. -/
theorem weaklyOrders_iff (requests : Set MatchTicketRequest) :
    WeaklyOrders spaceship requests ↔ IdsAgree requests := by
  rw [spaceship_eq_compareKeyed, weaklyOrders_compareKeyed_iff]
  constructor
  · intro agreeing low inLow middle inMiddle high inHigh lowId unassigned highId
    exact agreeing low inLow middle inMiddle high inHigh _ _ (assignedId_eq_some.mpr ⟨lowId, rfl⟩)
      (assignedId_eq_none.mpr unassigned) (assignedId_eq_some.mpr ⟨highId, rfl⟩)
  · intro agree low inLow middle inMiddle high inHigh lowKey highKey lowKeyed unkeyed highKeyed
    obtain ⟨lowId, rfl⟩ := assignedId_eq_some.mp lowKeyed
    obtain ⟨highId, rfl⟩ := assignedId_eq_some.mp highKeyed
    exact agree low inLow middle inMiddle high inHigh lowId (assignedId_eq_none.mp unkeyed) highId

/-- A request without an id lies, by the world numbers, between two that their ids order
the other way. -/
theorem spaceship_cyclic :
    let first : MatchTicketRequest := ⟨0, "arena", 2, -1, -1, default⟩
    let second : MatchTicketRequest := ⟨1, "arena", -1, -1, -1, default⟩
    let third : MatchTicketRequest := ⟨2, "arena", 1, -1, -1, default⟩
    first.spaceship second = .lt ∧ second.spaceship third = .lt ∧ third.spaceship first = .lt ∧
      ¬ WeaklyOrders spaceship Set.univ := by
  intro first second third
  have below : first.spaceship second = .lt := by decide
  have above : second.spaceship third = .lt := by decide
  have back : third.spaceship first = .lt := by decide
  refine ⟨below, above, back, fun weak => ?_⟩
  have around := weak.lt_trans first trivial second trivial third trivial below above
  have reversed := (weak.swapped first trivial third trivial).mp around
  rw [back] at reversed
  cases reversed

end MatchTicketRequest

end MatchmakingMvp
