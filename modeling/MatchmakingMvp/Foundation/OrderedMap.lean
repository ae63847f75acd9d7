import Mathlib.Algebra.Order.BigOperators.Group.Finset
import Mathlib.Algebra.Order.BigOperators.Group.List
import Mathlib.Algebra.Order.Ring.Int
import Mathlib.Data.List.Sort
import Mathlib.Order.Basic
import Mathlib.Tactic.Common

/-! # Finite maps listed in key order

A finite map is its list of entries in strictly increasing key order, which is
the order an ordered map iterates in. Two maps with the same lookups are equal
(`Foundation.OrderedMap.ext_find?`), so facts about a sequence of updates reduce
to facts about lookups. A finite set is the list of its elements in the same
order (`Foundation.OrderedSet`), and a multimap keeps its equal keys in insertion
order (`Foundation.insertMulti`).
-/

namespace Foundation

/-- A finite map, as its entries in strictly increasing key order. -/
structure OrderedMap (K V : Type) [LinearOrder K] where
  entries : List (K × V)
  ascending : entries.Pairwise fun first second => first.1 < second.1

namespace OrderedMap

variable {K V : Type} [LinearOrder K]

instance [DecidableEq V] : DecidableEq (OrderedMap K V) := fun first second =>
  decidable_of_iff (first.entries = second.entries) (by
    cases first; cases second; simp only [OrderedMap.mk.injEq])

/-- The map without entries. -/
def empty : OrderedMap K V := ⟨[], List.Pairwise.nil⟩

instance : EmptyCollection (OrderedMap K V) := ⟨empty⟩

instance : Inhabited (OrderedMap K V) := ⟨empty⟩

/-- The value stored under a key. -/
def find? (map : OrderedMap K V) (key : K) : Option V := map.entries.lookup key

/-- Whether a key is present. -/
def contains (map : OrderedMap K V) (key : K) : Bool := (map.find? key).isSome

/-- The keys, in increasing order. -/
def keys (map : OrderedMap K V) : List K := map.entries.map Prod.fst

/-- The values, by increasing key. -/
def values (map : OrderedMap K V) : List V := map.entries.map Prod.snd

/-- The number of entries. -/
def size (map : OrderedMap K V) : Nat := map.entries.length

/-- Whether there is no entry. -/
def isEmpty (map : OrderedMap K V) : Bool := map.entries.isEmpty

/-- Insertion into an ordered entry list, replacing an entry with the same key. -/
def insertEntry (key : K) (value : V) : List (K × V) → List (K × V)
  | [] => [(key, value)]
  | entry :: rest =>
      if key < entry.1 then (key, value) :: entry :: rest
      else if key = entry.1 then (key, value) :: rest
      else entry :: insertEntry key value rest

theorem fst_mem_insertEntry {key : K} {value : V} {entries : List (K × V)} {entry : K × V}
    (member : entry ∈ insertEntry key value entries) :
    entry = (key, value) ∨ entry ∈ entries := by
  induction entries with
  | nil => exact Or.inl (List.mem_singleton.mp member)
  | cons head rest ih =>
      rw [insertEntry] at member
      split_ifs at member <;> grind

theorem insertEntry_ascending (key : K) (value : V) {entries : List (K × V)}
    (ascending : entries.Pairwise fun first second => first.1 < second.1) :
    (insertEntry key value entries).Pairwise fun first second => first.1 < second.1 := by
  induction entries with
  | nil => exact List.pairwise_singleton _ _
  | cons head rest ih =>
      obtain ⟨below, ordered⟩ := List.pairwise_cons.mp ascending
      rw [insertEntry]
      split_ifs with less same
      · refine List.pairwise_cons.mpr ⟨fun entry member => ?_, ascending⟩
        rcases List.mem_cons.mp member with rfl | inside
        · exact less
        · exact less.trans (below entry inside)
      · exact List.pairwise_cons.mpr ⟨fun entry inside => same ▸ below entry inside, ordered⟩
      · refine List.pairwise_cons.mpr ⟨fun entry member => ?_, ih ordered⟩
        rcases fst_mem_insertEntry member with rfl | inside
        · exact lt_of_le_of_ne (not_lt.mp less) (Ne.symm same)
        · exact below entry inside

theorem lookup_insertEntry (key other : K) (value : V) (entries : List (K × V)) :
    (insertEntry key value entries).lookup other =
      if other = key then some value else entries.lookup other := by
  induction entries with
  | nil => grind [insertEntry]
  | cons head rest ih =>
      obtain ⟨headKey, headValue⟩ := head
      rw [insertEntry]
      split_ifs <;> grind

/-- Store a value under a key, replacing the value already there. -/
def insertOrAssign (map : OrderedMap K V) (key : K) (value : V) : OrderedMap K V :=
  ⟨insertEntry key value map.entries, insertEntry_ascending key value map.ascending⟩

/-- Store a value under a key that is absent; the map is unchanged otherwise. -/
def emplace (map : OrderedMap K V) (key : K) (value : V) : OrderedMap K V :=
  if map.contains key then map else map.insertOrAssign key value

/-- Remove a key. -/
def erase (map : OrderedMap K V) (key : K) : OrderedMap K V :=
  ⟨map.entries.filter fun entry => entry.1 ≠ key, map.ascending.filter _⟩

@[simp] theorem find?_empty (key : K) : (empty : OrderedMap K V).find? key = none := rfl

@[simp] theorem find?_insertOrAssign (map : OrderedMap K V) (key other : K) (value : V) :
    (map.insertOrAssign key value).find? other =
      if other = key then some value else map.find? other :=
  lookup_insertEntry key other value map.entries

theorem lookup_filter_ne (key other : K) (entries : List (K × V)) :
    (entries.filter fun entry => entry.1 ≠ key).lookup other =
      if other = key then none else entries.lookup other := by
  induction entries with
  | nil => simp
  | cons head rest ih =>
      obtain ⟨headKey, headValue⟩ := head
      rw [List.filter_cons]
      split_ifs <;> grind

@[simp] theorem find?_erase (map : OrderedMap K V) (key other : K) :
    (map.erase key).find? other = if other = key then none else map.find? other :=
  lookup_filter_ne key other map.entries

theorem contains_iff {map : OrderedMap K V} {key : K} :
    map.contains key = true ↔ ∃ value, map.find? key = some value :=
  Option.isSome_iff_exists

theorem contains_eq_false_iff {map : OrderedMap K V} {key : K} :
    map.contains key = false ↔ map.find? key = none := by
  rw [contains, Option.isSome_eq_false_iff, Option.isNone_iff_eq_none]

theorem emplace_of_absent {map : OrderedMap K V} {key : K} (absent : map.find? key = none)
    (value : V) : map.emplace key value = map.insertOrAssign key value := by
  rw [emplace, contains_eq_false_iff.mpr absent]
  rfl

theorem find?_emplace (map : OrderedMap K V) (key other : K) (value : V) :
    (map.emplace key value).find? other =
      (map.find? other).or (if other = key then some value else none) := by
  rw [emplace]
  split_ifs with present same same
  · subst same
    obtain ⟨stored, found⟩ := Option.isSome_iff_exists.mp present
    rw [found, Option.some_or]
  · rw [Option.or_none]
  · subst same
    rw [contains, Bool.not_eq_true, Option.isSome_eq_false_iff, Option.isNone_iff_eq_none]
      at present
    simp [present]
  · simp [same]

theorem lookup_eq_some_iff {key : K} {value : V} {entries : List (K × V)}
    (ascending : entries.Pairwise fun first second => first.1 < second.1) :
    entries.lookup key = some value ↔ (key, value) ∈ entries := by
  induction entries with
  | nil => simp
  | cons head rest ih =>
      obtain ⟨headKey, headValue⟩ := head
      obtain ⟨below, ordered⟩ := List.pairwise_cons.mp ascending
      by_cases same : key = headKey
      · subst same
        constructor
        · intro found
          simp only [List.lookup_cons_self, Option.some.injEq] at found
          simp [found]
        · intro member
          rcases List.mem_cons.mp member with equal | inside
          · cases equal
            exact List.lookup_cons_self
          · exact (lt_irrefl key (below _ inside)).elim
      · have different : (key == headKey) = false := by simpa using same
        rw [List.lookup_cons, different, ih ordered, List.mem_cons]
        simp [same]

theorem find?_eq_some_iff {map : OrderedMap K V} {key : K} {value : V} :
    map.find? key = some value ↔ (key, value) ∈ map.entries :=
  lookup_eq_some_iff map.ascending

theorem mem_keys_iff {map : OrderedMap K V} {key : K} :
    key ∈ map.keys ↔ ∃ value, map.find? key = some value := by
  simp only [keys, List.mem_map, find?_eq_some_iff, Prod.exists, exists_and_right, exists_eq_right]

theorem keys_nodup (map : OrderedMap K V) : map.keys.Nodup :=
  (List.pairwise_map.mpr map.ascending).imp fun less => less.ne

/-- Maps with the same lookups are equal. -/
theorem ext_find? {first second : OrderedMap K V}
    (same : ∀ key, first.find? key = second.find? key) : first = second := by
  have members : ∀ entry, entry ∈ first.entries ↔ entry ∈ second.entries := fun ⟨key, value⟩ => by
    rw [← find?_eq_some_iff, ← find?_eq_some_iff, same]
  have irrefl : ∀ entries : List (K × V),
      (entries.Pairwise fun left right => left.1 < right.1) → entries.Nodup :=
    fun _ ascending => ascending.imp fun less equal => less.ne (congrArg Prod.fst equal)
  have permuted : first.entries.Perm second.entries :=
    (List.perm_ext_iff_of_nodup (irrefl _ first.ascending) (irrefl _ second.ascending)).mpr members
  have entriesEq : first.entries = second.entries :=
    permuted.eq_of_pairwise (fun _ _ _ _ left right => (left.asymm right).elim)
      first.ascending second.ascending
  cases first
  cases second
  cases entriesEq
  rfl

theorem isEmpty_iff {map : OrderedMap K V} : map.isEmpty = true ↔ map = empty := by
  rw [isEmpty, List.isEmpty_iff]
  constructor
  · intro none
    cases map
    cases none
    rfl
  · rintro rfl
    rfl

theorem isEmpty_iff_find? {map : OrderedMap K V} :
    map.isEmpty = true ↔ ∀ key, map.find? key = none := by
  rw [isEmpty_iff]
  exact ⟨fun equal key => equal ▸ rfl, fun absent => ext_find? fun key => (absent key).trans rfl⟩

theorem erase_of_absent {map : OrderedMap K V} {key : K} (absent : map.find? key = none) :
    map.erase key = map := by
  apply ext_find?
  intro other
  rw [find?_erase]
  split_ifs with same
  · rw [same, absent]
  · rfl

theorem length_insertEntry_le (key : K) (value : V) (entries : List (K × V)) :
    (insertEntry key value entries).length ≤ entries.length + 1 := by
  induction entries with
  | nil => simp [insertEntry]
  | cons head rest ih =>
      rw [insertEntry]
      split_ifs <;> simp only [List.length_cons] <;> omega

theorem insertEntry_perm_of_absent {key : K} (value : V) {entries : List (K × V)}
    (absent : entries.lookup key = none) :
    (insertEntry key value entries).Perm ((key, value) :: entries) := by
  induction entries with
  | nil => exact List.Perm.refl _
  | cons head rest ih =>
      obtain ⟨headKey, headValue⟩ := head
      have different : key ≠ headKey := by
        rintro rfl
        rw [List.lookup_cons_self] at absent
        cases absent
      have unmatched : (key == headKey) = false := by simpa using different
      rw [List.lookup_cons, unmatched] at absent
      rw [insertEntry]
      split_ifs
      · exact List.Perm.refl _
      · exact ((ih absent).cons _).trans (List.Perm.swap _ _ _)

/-- A new key adds one entry. -/
theorem insertOrAssign_perm_of_absent {map : OrderedMap K V} {key : K}
    (absent : map.find? key = none) (value : V) :
    (map.insertOrAssign key value).entries.Perm ((key, value) :: map.entries) :=
  insertEntry_perm_of_absent value absent

theorem size_insertOrAssign_of_absent {map : OrderedMap K V} {key : K}
    (absent : map.find? key = none) (value : V) :
    (map.insertOrAssign key value).size = map.size + 1 :=
  (insertOrAssign_perm_of_absent absent value).length_eq

theorem size_erase_of_present {map : OrderedMap K V} {key : K} {value : V}
    (present : map.find? key = some value) : (map.erase key).size + 1 = map.size := by
  have absent : (map.erase key).find? key = none := by
    rw [find?_erase, if_pos rfl]
  have restored : (map.erase key).insertOrAssign key value = map := by
    apply ext_find?
    intro other
    rw [find?_insertOrAssign, find?_erase]
    split_ifs with same
    · rw [same, present]
    · rfl
  rw [← size_insertOrAssign_of_absent absent value, restored]

theorem size_emplace_le (map : OrderedMap K V) (key : K) (value : V) :
    (map.emplace key value).size ≤ map.size + 1 := by
  rw [emplace]
  split_ifs
  · exact Nat.le_succ _
  · exact length_insertEntry_le _ _ _

theorem size_erase_le (map : OrderedMap K V) (key : K) : (map.erase key).size ≤ map.size :=
  List.length_filter_le _ _

end OrderedMap

/-- A finite set, as the list of its elements in strictly increasing order. -/
structure OrderedSet (K : Type) [LinearOrder K] where
  elements : List K
  ascending : elements.Pairwise (· < ·)

namespace OrderedSet

variable {K : Type} [LinearOrder K]

instance : DecidableEq (OrderedSet K) := fun first second =>
  decidable_of_iff (first.elements = second.elements) (by
    cases first; cases second; simp only [OrderedSet.mk.injEq])

instance : Inhabited (OrderedSet K) := ⟨⟨[], List.Pairwise.nil⟩⟩

/-- The set of one element. -/
def single (element : K) : OrderedSet K := ⟨[element], List.pairwise_singleton _ _⟩

/-- Remove an element. -/
def erase (set : OrderedSet K) (element : K) : OrderedSet K :=
  ⟨set.elements.filter (· ≠ element), set.ascending.filter _⟩

theorem nodup (set : OrderedSet K) : set.elements.Nodup :=
  set.ascending.imp fun less => less.ne

@[simp] theorem mem_erase {set : OrderedSet K} {element other : K} :
    other ∈ (set.erase element).elements ↔ other ∈ set.elements ∧ other ≠ element := by
  simp [erase]

end OrderedSet

/-- The keys of a map as a set. -/
def OrderedMap.keySet {K V : Type} [LinearOrder K] (map : OrderedMap K V) : OrderedSet K :=
  ⟨map.keys, List.pairwise_map.mpr map.ascending⟩

/-- Insertion into a list ordered by key, after the entries with the same key. -/
def insertMulti {K V : Type} [LinearOrder K] (key : K) (value : V) : List (K × V) → List (K × V)
  | [] => [(key, value)]
  | entry :: rest =>
      if key < entry.1 then (key, value) :: entry :: rest
      else entry :: insertMulti key value rest

theorem insertMulti_perm {K V : Type} [LinearOrder K] (key : K) (value : V)
    (entries : List (K × V)) : (insertMulti key value entries).Perm ((key, value) :: entries) := by
  induction entries with
  | nil => exact List.Perm.refl _
  | cons head rest ih =>
      rw [insertMulti]
      split_ifs
      · exact List.Perm.refl _
      · exact (ih.cons head).trans (List.Perm.swap _ _ _)

theorem mem_insertMulti {K V : Type} [LinearOrder K] {key : K} {value : V}
    {entries : List (K × V)} {entry : K × V} :
    entry ∈ insertMulti key value entries ↔ entry = (key, value) ∨ entry ∈ entries := by
  rw [(insertMulti_perm key value entries).mem_iff, List.mem_cons]

/-- A map of the values leaves the place of the new entry. -/
theorem insertMulti_map {K V W : Type} [LinearOrder K] (convert : V → W) (key : K) (value : V)
    (entries : List (K × V)) :
    (insertMulti key value entries).map (Prod.map id convert) =
      insertMulti key (convert value) (entries.map (Prod.map id convert)) := by
  induction entries with
  | nil => rfl
  | cons head rest ih =>
      simp only [insertMulti, List.map_cons, Prod.map_fst, id_eq]
      split_ifs
      · rfl
      · rw [List.map_cons, ih]

/-- Insertion keeps every order of the entries that agrees with their keys and has the new
entry after the ones with its key. -/
theorem insertMulti_pairwise {K V : Type} [LinearOrder K] {precedes : K × V → K × V → Prop}
    {key : K} {value : V} {entries : List (K × V)} (sorted : entries.Pairwise precedes)
    (ascending : ∀ earlier later, precedes earlier later → earlier.1 ≤ later.1)
    (follows : ∀ entry ∈ entries, entry.1 ≤ key → precedes entry (key, value))
    (leads : ∀ entry ∈ entries, key < entry.1 → precedes (key, value) entry) :
    (insertMulti key value entries).Pairwise precedes := by
  induction entries with
  | nil => exact List.pairwise_singleton _ _
  | cons head rest ih =>
      obtain ⟨first, others⟩ := List.pairwise_cons.mp sorted
      rw [insertMulti]
      split_ifs with less
      · refine List.pairwise_cons.mpr ⟨fun entry inside => leads entry inside ?_, sorted⟩
        rcases List.mem_cons.mp inside with rfl | later
        · exact less
        · exact less.trans_le (ascending _ _ (first entry later))
      · refine List.pairwise_cons.mpr ⟨fun entry inside => ?_, ih others
          (fun entry later => follows entry (List.mem_cons_of_mem _ later))
          fun entry later => leads entry (List.mem_cons_of_mem _ later)⟩
        rcases mem_insertMulti.mp inside with rfl | later
        · exact follows head List.mem_cons_self (not_lt.mp less)
        · exact first entry later

end Foundation
