import Mathlib.Data.Finmap
import BleMesh.Foundation.FirstMatch

/-! # Maps with a bound on their size

A finite map that takes a new key only while it holds fewer than `bound` entries. A
list without repeated keys lists the entries of such a map, and an upsert of the list
is an insertion into the map.
-/

namespace Foundation

structure BoundedMap (κ ν : Type) (bound : Nat) where
  entries : Finmap fun _ : κ => ν
  card_le : entries.keys.card ≤ bound

namespace BoundedMap

variable {α κ ν : Type} {bound : Nat}

def empty : BoundedMap κ ν bound where
  entries := ∅
  card_le := by simp

def size (map : BoundedMap κ ν bound) : Nat := map.entries.keys.card

@[simp] theorem size_empty : (empty : BoundedMap κ ν bound).size = 0 := by
  simp [size, empty]

theorem size_le (map : BoundedMap κ ν bound) : map.size ≤ bound := map.card_le

variable [DecidableEq κ]

def lookup (map : BoundedMap κ ν bound) (key : κ) : Option ν := map.entries.lookup key

/-- The map with the new value, unless the key is new and there is no room for it. -/
def insert (map : BoundedMap κ ν bound) (key : κ) (value : ν) :
    Option (BoundedMap κ ν bound) :=
  if bounded : (map.entries.insert key value).keys.card ≤ bound then
    some ⟨map.entries.insert key value, bounded⟩
  else none

@[simp] theorem lookup_empty (key : κ) :
    (empty : BoundedMap κ ν bound).lookup key = none :=
  Finmap.lookup_empty key

theorem lookup_eq_none_iff {map : BoundedMap κ ν bound} {key : κ} :
    map.lookup key = none ↔ key ∉ map.entries.keys := by
  rw [Finmap.mem_keys]
  exact Finmap.lookup_eq_none

theorem keys_insert (entries : Finmap fun _ : κ => ν) (key : κ) (value : ν) :
    (entries.insert key value).keys = Insert.insert key entries.keys := by
  ext other
  rw [Finmap.mem_keys, Finmap.mem_insert, Finset.mem_insert, Finmap.mem_keys]

theorem insert_of_known {map : BoundedMap κ ν bound} {key : κ} (value : ν)
    (known : map.lookup key ≠ none) :
    ∃ after, map.insert key value = some after ∧ after.size = map.size := by
  have member : key ∈ map.entries.keys := not_not.mp (mt lookup_eq_none_iff.mpr known)
  have sameKeys : (map.entries.insert key value).keys = map.entries.keys := by
    rw [keys_insert, Finset.insert_eq_of_mem member]
  have bounded : (map.entries.insert key value).keys.card ≤ bound := by
    rw [sameKeys]
    exact map.card_le
  exact ⟨_, dif_pos bounded, by rw [size, size, sameKeys]⟩

theorem insert_of_room {map : BoundedMap κ ν bound} {key : κ} (value : ν)
    (fresh : map.lookup key = none) (room : map.size < bound) :
    ∃ after, map.insert key value = some after ∧ after.size = map.size + 1 := by
  have absent := lookup_eq_none_iff.mp fresh
  have card : (map.entries.insert key value).keys.card = map.size + 1 := by
    rw [keys_insert, Finset.card_insert_of_notMem absent, size]
  have bounded : (map.entries.insert key value).keys.card ≤ bound := by
    rw [card]
    exact room
  exact ⟨_, dif_pos bounded, card⟩

/-- Only a new key is refused, and only by a full map. -/
theorem insert_eq_none_iff {map : BoundedMap κ ν bound} {key : κ} {value : ν} :
    map.insert key value = none ↔ map.lookup key = none ∧ map.size = bound := by
  constructor
  · intro refused
    by_cases fresh : map.lookup key = none
    · refine ⟨fresh, ?_⟩
      by_contra notFull
      have room : map.size < bound := Nat.lt_of_le_of_ne map.size_le notFull
      rcases insert_of_room value fresh room with ⟨after, inserted, _⟩
      rw [refused] at inserted
      cases inserted
    · rcases insert_of_known value fresh with ⟨after, inserted, _⟩
      rw [refused] at inserted
      cases inserted
  · intro full
    rcases full with ⟨fresh, sizeEq⟩
    apply dif_neg
    rw [keys_insert, Finset.card_insert_of_notMem (lookup_eq_none_iff.mp fresh), not_le]
    exact Nat.lt_succ_of_le (Nat.le_of_eq sizeEq.symm)

theorem lookup_of_insert {map after : BoundedMap κ ν bound} {key : κ} {value : ν}
    (inserted : map.insert key value = some after) (other : κ) :
    after.lookup other = if other = key then some value else map.lookup other := by
  simp only [insert] at inserted
  split at inserted
  · cases inserted
    split
    next same =>
      rw [same]
      exact Finmap.lookup_insert map.entries
    next different => exact Finmap.lookup_insert_of_ne map.entries different
  · cases inserted

/-! ## Lists of the entries -/

/-- The list has one element for each entry of the map. -/
structure Lists (map : BoundedMap κ ν bound) (key : α → κ) (value : α → ν)
    (elements : List α) : Prop where
  lookup_iff : ∀ wanted found, map.lookup wanted = some found ↔
    ∃ element ∈ elements, key element = wanted ∧ value element = found
  size_eq : map.size = elements.length

variable {map after : BoundedMap κ ν bound} {key : α → κ} {value : α → ν}
  {elements : List α} {new : α}

theorem lists_empty (key : α → κ) (value : α → ν) :
    (empty : BoundedMap κ ν bound).Lists key value [] where
  lookup_iff := by simp
  size_eq := size_empty

theorem Lists.lookup_eq_none_iff (lists : map.Lists key value elements) (wanted : κ) :
    map.lookup wanted = none ↔ wanted ∉ elements.map key := by
  simp only [Option.eq_none_iff_forall_ne_some, ne_eq, lists.lookup_iff, List.mem_map]
  constructor
  · intro absent present
    rcases present with ⟨element, member, same⟩
    exact absent (value element) ⟨element, member, same, rfl⟩
  · intro absent found present
    rcases present with ⟨element, member, same, _⟩
    exact absent ⟨element, member, same⟩

/-- Inserting into the map is an upsert of the list. -/
theorem Lists.upsert (lists : map.Lists key value elements)
    (inserted : map.insert (key new) (value new) = some after) :
    after.Lists key value (Foundation.upsert key elements new) where
  lookup_iff := by
    intro wanted found
    simp only [lookup_of_insert inserted, mem_upsert_iff]
    split
    next same =>
      constructor
      · intro equal
        exact ⟨new, Or.inl rfl, same.symm, Option.some.inj equal⟩
      · intro listed
        rcases listed with ⟨element, rfl | ⟨_, different⟩, keyEq, valueEq⟩
        · rw [valueEq]
        · exact absurd (keyEq.trans same) different
    next different =>
      rw [lists.lookup_iff]
      constructor
      · intro listed
        rcases listed with ⟨element, member, rfl, valueEq⟩
        exact ⟨element, Or.inr ⟨member, different⟩, rfl, valueEq⟩
      · intro listed
        rcases listed with ⟨element, rfl | ⟨member, _⟩, keyEq, valueEq⟩
        · exact absurd keyEq.symm different
        · exact ⟨element, member, keyEq, valueEq⟩
  size_eq := by
    by_cases known : key new ∈ elements.map key
    · have present : map.lookup (key new) ≠ none := by
        intro absent
        exact (lists.lookup_eq_none_iff _).mp absent known
      rcases insert_of_known (value new) present with ⟨other, same, size⟩
      rw [inserted] at same
      cases same
      rw [size, lists.size_eq, upsert_of_known known, List.length_map]
    · have fresh := (lists.lookup_eq_none_iff _).mpr known
      have room : map.size < bound := by
        apply Nat.lt_of_le_of_ne map.size_le
        intro full
        rw [insert_eq_none_iff.mpr ⟨fresh, full⟩] at inserted
        cases inserted
      rcases insert_of_room (value new) fresh room with ⟨other, same, size⟩
      rw [inserted] at same
      cases same
      rw [size, lists.size_eq, upsert_of_fresh known, List.length_append, List.length_singleton]

end BoundedMap

end Foundation
