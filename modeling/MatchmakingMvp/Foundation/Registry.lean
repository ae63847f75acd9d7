import Mathlib.Algebra.Order.BigOperators.Group.Finset
import Mathlib.Algebra.Order.BigOperators.Group.List
import Mathlib.Algebra.Order.Ring.Int
import Mathlib.Data.List.Nodup
import Mathlib.Logic.Function.Basic
import Mathlib.Tactic.Common

/-! # Registries with a member index

A registry stores items under identifiers together with an index from each
member of a stored item to the item's identifier. An insertion indexes the
members one after another and undoes everything at the first member already
indexed. The insertion succeeds exactly for an item whose identifier and members
are all new and pairwise distinct, and otherwise changes nothing
(`Foundation.Registry.insert_of_fresh`, `Foundation.Registry.insert_of_not_fresh`).
Every sequence of insertions and erasures keeps the index exact
(`Foundation.Registry.Consistent`).
-/

namespace Foundation

/-- Items by identifier, and the identifier owning each member. -/
structure Registry (Id Member Item : Type) where
  items : Id → Option Item
  owner : Member → Option Id

namespace Registry

variable {Id Member Item : Type} [DecidableEq Id] [DecidableEq Member]
  (key : Item → Id) (members : Item → List Member)

omit [DecidableEq Id] [DecidableEq Member] in
@[ext] theorem ext {first second : Registry Id Member Item}
    (items : ∀ id, first.items id = second.items id)
    (owner : ∀ member, first.owner member = second.owner member) : first = second := by
  cases first
  cases second
  cases funext items
  cases funext owner
  rfl

/-- The registry without items. -/
def empty : Registry Id Member Item := ⟨fun _ => none, fun _ => none⟩

/-- Forget the owner of every listed member. -/
def dropOwners (owner : Member → Option Id) (dropped : List Member) : Member → Option Id :=
  dropped.foldl (fun owner member => Function.update owner member none) owner

/-- Index the members one after another. At a member already indexed, the
members indexed so far are dropped again and the result is `false`. -/
def indexMembers (id : Id) : List Member → List Member → (Member → Option Id) →
    Bool × (Member → Option Id)
  | _, [], owner => (true, owner)
  | inserted, member :: rest, owner =>
      match owner member with
      | some _ => (false, dropOwners owner inserted)
      | none => indexMembers id (inserted ++ [member]) rest
          (Function.update owner member (some id))

/-- Insert an item under its identifier and index its members, undoing both if
the identifier or a member is taken. -/
def insert (registry : Registry Id Member Item) (item : Item) :
    Bool × Registry Id Member Item :=
  match registry.items (key item) with
  | some _ => (false, registry)
  | none =>
      let items := Function.update registry.items (key item) (some item)
      match indexMembers (key item) [] (members item) registry.owner with
      | (true, owner) => (true, ⟨items, owner⟩)
      | (false, owner) => (false, ⟨Function.update items (key item) none, owner⟩)

/-- Forget the listed members as far as they are owned by `id`. -/
def releaseMembers (id : Id) (owner : Member → Option Id) (released : List Member) :
    Member → Option Id :=
  released.foldl (fun owner member =>
    if owner member = some id then Function.update owner member none else owner) owner

/-- Remove the item stored under an identifier, with the index entries of its
members that name it. -/
def erase (registry : Registry Id Member Item) (id : Id) :
    Option Item × Registry Id Member Item :=
  match registry.items id with
  | none => (none, registry)
  | some item =>
      (some item, ⟨Function.update registry.items id none,
        releaseMembers (key item) registry.owner (members item)⟩)

/-- The item is new: its identifier and members are unused, and its members
are pairwise distinct. -/
structure Fresh (registry : Registry Id Member Item) (item : Item) : Prop where
  id : registry.items (key item) = none
  unowned : ∀ member ∈ members item, registry.owner member = none
  nodup : (members item).Nodup

instance (registry : Registry Id Member Item) (item : Item) :
    Decidable (registry.Fresh key members item) :=
  decidable_of_iff (registry.items (key item) = none ∧
      (∀ member ∈ members item, registry.owner member = none) ∧ (members item).Nodup)
    ⟨fun ⟨id, unowned, nodup⟩ => ⟨id, unowned, nodup⟩,
      fun fresh => ⟨fresh.id, fresh.unowned, fresh.nodup⟩⟩

/-- The registry after a successful insertion. -/
def extend (registry : Registry Id Member Item) (item : Item) : Registry Id Member Item :=
  ⟨Function.update registry.items (key item) (some item),
    fun member => if member ∈ members item then some (key item) else registry.owner member⟩

omit [DecidableEq Id] in
theorem dropOwners_apply (owner : Member → Option Id) (dropped : List Member) (member : Member) :
    dropOwners owner dropped member = if member ∈ dropped then none else owner member := by
  unfold dropOwners
  induction dropped generalizing owner with
  | nil => simp
  | cons head rest ih =>
      rw [List.foldl_cons, ih]
      by_cases inside : member ∈ rest
      · simp [inside]
      · by_cases same : member = head <;> simp [inside, same]

theorem releaseMembers_apply (id : Id) (owner : Member → Option Id) (released : List Member)
    (member : Member) :
    releaseMembers id owner released member =
      if member ∈ released ∧ owner member = some id then none else owner member := by
  unfold releaseMembers
  induction released generalizing owner with
  | nil => simp
  | cons head rest ih =>
      rw [List.foldl_cons, ih]
      by_cases owned : owner head = some id
      · by_cases same : member = head <;> simp [owned, same]
      · by_cases same : member = head <;> simp [owned, same]

omit [DecidableEq Id] in
/-- Indexing new, distinct members succeeds and gives each of them its owner. -/
theorem indexMembers_of_fresh (id : Id) (inserted pending : List Member)
    (owner : Member → Option Id) (unowned : ∀ member ∈ pending, owner member = none)
    (nodup : pending.Nodup) :
    indexMembers id inserted pending owner =
      (true, fun member => if member ∈ pending then some id else owner member) := by
  induction pending generalizing inserted owner with
  | nil => simp [indexMembers]
  | cons head rest ih =>
      obtain ⟨outside, distinct⟩ := List.nodup_cons.mp nodup
      rw [indexMembers, unowned head List.mem_cons_self]
      simp only
      rw [ih _ _ (fun member inside => ?_) distinct]
      · congr 1
        funext member
        by_cases same : member = head <;> simp [same, outside]
      · rw [Function.update_of_ne (ne_of_mem_of_not_mem inside outside)]
        exact unowned member (List.mem_cons_of_mem _ inside)

omit [DecidableEq Id] in
/-- Indexing that meets a taken or repeated member fails and drops exactly what
it indexed itself. -/
theorem indexMembers_of_conflict (id : Id) (inserted pending : List Member)
    (owner : Member → Option Id)
    (conflict : ¬ ((∀ member ∈ pending, owner member = none) ∧ pending.Nodup)) :
    indexMembers id inserted pending owner = (false, dropOwners owner inserted) := by
  induction pending generalizing inserted owner with
  | nil => exact (conflict ⟨by simp, List.nodup_nil⟩).elim
  | cons head rest ih =>
      rw [indexMembers]
      cases taken : owner head with
      | some _ => rfl
      | none =>
          simp only
          rw [ih]
          · congr 1
            funext member
            simp only [dropOwners_apply, List.mem_append, List.mem_singleton]
            by_cases same : member = head
            · simp [same, taken]
            · simp [same]
          · rintro ⟨unowned, distinct⟩
            have outside : head ∉ rest := fun inside => by
              simpa using unowned head inside
            refine conflict ⟨fun member inside => ?_, List.nodup_cons.mpr ⟨outside, distinct⟩⟩
            rcases List.mem_cons.mp inside with rfl | inside
            · exact taken
            · have := unowned member inside
              rwa [Function.update_of_ne (ne_of_mem_of_not_mem inside outside)] at this

/-- **Insertion of a new item.** -/
theorem insert_of_fresh {registry : Registry Id Member Item} {item : Item}
    (fresh : registry.Fresh key members item) :
    registry.insert key members item = (true, registry.extend key members item) := by
  rw [insert, fresh.id]
  simp only
  rw [indexMembers_of_fresh _ _ _ _ fresh.unowned fresh.nodup]
  rfl

/-- **A failed insertion changes nothing.** -/
theorem insert_of_not_fresh {registry : Registry Id Member Item} {item : Item}
    (stale : ¬ registry.Fresh key members item) :
    registry.insert key members item = (false, registry) := by
  rw [insert]
  cases taken : registry.items (key item) with
  | some _ => rfl
  | none =>
      simp only
      rw [indexMembers_of_conflict _ _ _ _ fun new => stale ⟨taken, new.1, new.2⟩]
      simp only [Prod.mk.injEq, true_and]
      refine ext (fun id => ?_) (fun member => rfl)
      by_cases same : id = key item
      · subst same
        simp only [Function.update_self, taken]
      · simp only [Function.update_of_ne same]

theorem insert_fst_iff {registry : Registry Id Member Item} {item : Item} :
    (registry.insert key members item).1 = true ↔ registry.Fresh key members item := by
  by_cases fresh : registry.Fresh key members item
  · simp [insert_of_fresh key members fresh, fresh]
  · simp [insert_of_not_fresh key members fresh, fresh]

theorem erase_of_absent {registry : Registry Id Member Item} {id : Id}
    (absent : registry.items id = none) :
    registry.erase key members id = (none, registry) := by
  rw [erase, absent]

theorem erase_items (registry : Registry Id Member Item) (id : Id) :
    (registry.erase key members id).2.items = Function.update registry.items id none := by
  rw [erase]
  cases found : registry.items id with
  | none => exact (Function.update_eq_self_iff.mpr found.symm).symm
  | some item => rfl

theorem erase_fst (registry : Registry Id Member Item) (id : Id) :
    (registry.erase key members id).1 = registry.items id := by
  rw [erase]
  cases registry.items id <;> rfl

/-- Whatever is stored after an insertion was stored before or is the new item. -/
theorem eq_or_stored_of_insert {registry : Registry Id Member Item} {item stored : Item} {id : Id}
    (found : (registry.insert key members item).2.items id = some stored) :
    (id = key item ∧ stored = item) ∨ registry.items id = some stored := by
  by_cases fresh : registry.Fresh key members item
  · rw [insert_of_fresh key members fresh, extend] at found
    by_cases same : id = key item
    · subst same
      simp only [Function.update_self, Option.some.injEq] at found
      exact Or.inl ⟨rfl, found.symm⟩
    · simp only [Function.update_of_ne same] at found
      exact Or.inr found
  · rw [insert_of_not_fresh key members fresh] at found
    exact Or.inr found

/-- An insertion keeps what is stored. -/
theorem stored_insert {registry : Registry Id Member Item} {item stored : Item} {id : Id}
    (found : registry.items id = some stored) :
    (registry.insert key members item).2.items id = some stored := by
  by_cases fresh : registry.Fresh key members item
  · rw [insert_of_fresh key members fresh]
    refine (Function.update_of_ne ?_ _ _).trans found
    rintro rfl
    rw [fresh.id] at found
    cases found
  · rw [insert_of_not_fresh key members fresh]
    exact found

/-- Whatever is stored after an erasure was stored before. -/
theorem stored_of_erase {registry : Registry Id Member Item} {stored : Item} {erased id : Id}
    (found : (registry.erase key members erased).2.items id = some stored) :
    id ≠ erased ∧ registry.items id = some stored := by
  rw [erase_items] at found
  by_cases same : id = erased
  · rw [same, Function.update_self] at found
    cases found
  · rw [Function.update_of_ne same] at found
    exact ⟨same, found⟩

theorem erase_owner_of_found {registry : Registry Id Member Item} {id : Id} {item : Item}
    (found : registry.items id = some item) (member : Member) :
    (registry.erase key members id).2.owner member =
      if member ∈ members item ∧ registry.owner member = some (key item) then none
      else registry.owner member := by
  rw [erase, found]
  exact releaseMembers_apply _ _ _ _

/-- Erasing a new item again restores the registry. -/
theorem erase_insert_of_fresh {registry : Registry Id Member Item} {item : Item}
    (fresh : registry.Fresh key members item) :
    ((registry.extend key members item).erase key members (key item)).2 = registry := by
  have found : (registry.extend key members item).items (key item) = some item :=
    Function.update_self ..
  refine ext (fun id => ?_) fun member => ?_
  · rw [erase_items]
    by_cases same : id = key item
    · rw [same, Function.update_self, fresh.id]
    · rw [Function.update_of_ne same]
      exact Function.update_of_ne same _ _
  · rw [erase_owner_of_found key members found]
    by_cases inside : member ∈ members item
    · simp [extend, inside, fresh.unowned member inside]
    · simp [extend, inside]

/-- Items are stored under their own identifier, and the index names exactly
the stored item each member belongs to. -/
structure Consistent (registry : Registry Id Member Item) : Prop where
  keyed : ∀ {id item}, registry.items id = some item → key item = id
  indexed : ∀ {member id}, registry.owner member = some id ↔
    ∃ item, registry.items id = some item ∧ member ∈ members item

omit [DecidableEq Id] [DecidableEq Member] in
theorem Consistent.empty : (empty : Registry Id Member Item).Consistent key members :=
  ⟨nofun, ⟨nofun, nofun⟩⟩

variable {key members}

omit [DecidableEq Id] [DecidableEq Member] in
/-- In a consistent registry, two stored items sharing a member are the same. -/
theorem Consistent.disjoint {registry : Registry Id Member Item}
    (consistent : registry.Consistent key members) {first second : Id} {left right : Item}
    (storedLeft : registry.items first = some left)
    (storedRight : registry.items second = some right)
    {member : Member} (inLeft : member ∈ members left) (inRight : member ∈ members right) :
    first = second := by
  have leftOwner := consistent.indexed.mpr ⟨left, storedLeft, inLeft⟩
  have rightOwner := consistent.indexed.mpr ⟨right, storedRight, inRight⟩
  exact Option.some.inj (leftOwner.symm.trans rightOwner)

theorem Consistent.extend {registry : Registry Id Member Item}
    (consistent : registry.Consistent key members) {item : Item}
    (fresh : registry.Fresh key members item) :
    (registry.extend key members item).Consistent key members := by
  refine ⟨fun {id stored} found => ?_, fun {member id} => ?_⟩
  · by_cases same : id = key item
    · subst same
      simp only [Registry.extend, Function.update_self, Option.some.injEq] at found
      rw [found]
    · simp only [Registry.extend, Function.update_of_ne same] at found
      exact consistent.keyed found
  · simp only [Registry.extend]
    by_cases inside : member ∈ members item
    · rw [ite_eq_left_iff.mpr (fun outside => (outside inside).elim), Option.some.injEq]
      constructor
      · rintro rfl
        exact ⟨item, Function.update_self .., inside⟩
      · rintro ⟨stored, found, belongs⟩
        by_contra different
        rw [Function.update_of_ne (Ne.symm different)] at found
        have owned := consistent.indexed.mpr ⟨stored, found, belongs⟩
        rw [fresh.unowned member inside] at owned
        cases owned
    · rw [ite_eq_right_iff.mpr (fun member => (inside member).elim), consistent.indexed]
      constructor
      · rintro ⟨stored, found, belongs⟩
        refine ⟨stored, ?_, belongs⟩
        rw [Function.update_of_ne]
        · exact found
        · rintro rfl
          rw [fresh.id] at found
          cases found
      · rintro ⟨stored, found, belongs⟩
        by_cases same : id = key item
        · subst same
          rw [Function.update_self, Option.some.injEq] at found
          exact (inside (found ▸ belongs)).elim
        · rw [Function.update_of_ne same] at found
          exact ⟨stored, found, belongs⟩

theorem Consistent.insert {registry : Registry Id Member Item}
    (consistent : registry.Consistent key members) (item : Item) :
    (registry.insert key members item).2.Consistent key members := by
  by_cases fresh : registry.Fresh key members item
  · rw [insert_of_fresh key members fresh]
    exact consistent.extend fresh
  · rw [insert_of_not_fresh key members fresh]
    exact consistent

/-- In a consistent registry, erasure removes exactly the item's own index entries. -/
theorem Consistent.erase_owner {registry : Registry Id Member Item}
    (consistent : registry.Consistent key members) {id : Id} {item : Item}
    (found : registry.items id = some item) (member : Member) :
    (registry.erase key members id).2.owner member =
      if member ∈ members item then none else registry.owner member := by
  rw [erase_owner_of_found key members found]
  by_cases inside : member ∈ members item
  · have owned := consistent.indexed.mpr ⟨item, found, inside⟩
    simp [inside, owned, consistent.keyed found]
  · simp [inside]

/-- Erasure removes exactly the index entries that name the identifier. -/
theorem Consistent.erase_owner_iff {registry : Registry Id Member Item}
    (consistent : registry.Consistent key members) (id : Id) (member : Member) :
    (registry.erase key members id).2.owner member =
      if registry.owner member = some id then none else registry.owner member := by
  cases found : registry.items id with
  | none =>
      rw [erase_of_absent key members found, if_neg]
      rw [consistent.indexed, found]
      rintro ⟨item, stored, -⟩
      cases stored
  | some item =>
      rw [consistent.erase_owner found]
      refine if_congr ?_ rfl rfl
      rw [consistent.indexed, found]
      simp

theorem Consistent.erase {registry : Registry Id Member Item}
    (consistent : registry.Consistent key members) (id : Id) :
    (registry.erase key members id).2.Consistent key members := by
  cases found : registry.items id with
  | none => rw [erase_of_absent key members found]; exact consistent
  | some item =>
      refine ⟨fun {other stored} present => ?_, fun {member other} => ?_⟩
      · rw [erase_items] at present
        by_cases same : other = id
        · subst same
          rw [Function.update_self] at present
          cases present
        · rw [Function.update_of_ne same] at present
          exact consistent.keyed present
      · rw [consistent.erase_owner found, erase_items]
        by_cases same : other = id
        · subst same
          simp only [Function.update_self, reduceCtorEq, false_and, exists_false, iff_false]
          intro owned
          by_cases inside : member ∈ members item
          · simp [inside] at owned
          · rw [ite_eq_right_iff.mpr (fun member => (inside member).elim),
              consistent.indexed] at owned
            obtain ⟨stored, present, belongs⟩ := owned
            rw [found, Option.some.injEq] at present
            exact inside (present ▸ belongs)
        · rw [Function.update_of_ne same, ← consistent.indexed]
          by_cases inside : member ∈ members item
          · have owned := consistent.indexed.mpr ⟨item, found, inside⟩
            simp [inside, owned, Ne.symm same]
          · simp [inside]

/-! ## Sequences of changes -/

/-- An insertion or an erasure. -/
inductive Change (Id Item : Type)
  | insert (item : Item)
  | erase (id : Id)

variable (key members) in
/-- The registry after a change, whether or not the change succeeds. -/
def apply (registry : Registry Id Member Item) : Change Id Item → Registry Id Member Item
  | .insert item => (registry.insert key members item).2
  | .erase id => (registry.erase key members id).2

variable (key members) in
/-- A consistent registry in which no member belongs to an item twice. -/
structure Exact (registry : Registry Id Member Item) : Prop
    extends registry.Consistent key members where
  nodup : ∀ {id item}, registry.items id = some item → (members item).Nodup

omit [DecidableEq Id] [DecidableEq Member] in
theorem Exact.empty : (empty : Registry Id Member Item).Exact key members :=
  ⟨Consistent.empty key members, nofun⟩

theorem Exact.apply {registry : Registry Id Member Item} (exact : registry.Exact key members)
    (change : Change Id Item) : (registry.apply key members change).Exact key members := by
  cases change with
  | insert item =>
      refine ⟨exact.toConsistent.insert item, fun {id stored} found => ?_⟩
      by_cases fresh : registry.Fresh key members item
      · rcases eq_or_stored_of_insert key members found with ⟨-, rfl⟩ | earlier
        · exact fresh.nodup
        · exact exact.nodup earlier
      · rw [Registry.apply, insert_of_not_fresh key members fresh] at found
        exact exact.nodup found
  | erase id =>
      exact ⟨exact.toConsistent.erase id,
        fun found => exact.nodup (stored_of_erase key members found).2⟩

/-- **Every sequence of changes keeps a registry exact.** -/
theorem Exact.foldl {registry : Registry Id Member Item} (exact : registry.Exact key members)
    (changes : List (Change Id Item)) :
    (changes.foldl (Registry.apply key members) registry).Exact key members := by
  induction changes generalizing registry with
  | nil => exact exact
  | cons change rest ih => exact ih (exact.apply change)

omit [DecidableEq Id] [DecidableEq Member] in
/-- In a consistent registry an identifier found in the index is stored. -/
theorem Consistent.bind_items {registry : Registry Id Member Item}
    (consistent : registry.Consistent key members) {member : Member} {item : Item} :
    (registry.owner member).bind registry.items = some item ↔
      (∃ id, registry.items id = some item) ∧ member ∈ members item := by
  constructor
  · intro found
    obtain ⟨id, owned, stored⟩ := Option.bind_eq_some_iff.mp found
    obtain ⟨other, present, inside⟩ := consistent.indexed.mp owned
    obtain rfl := Option.some.inj (present.symm.trans stored)
    exact ⟨⟨id, stored⟩, inside⟩
  · rintro ⟨⟨id, stored⟩, inside⟩
    exact Option.bind_eq_some_iff.mpr ⟨id, consistent.indexed.mpr ⟨item, stored, inside⟩, stored⟩

end Registry

end Foundation
