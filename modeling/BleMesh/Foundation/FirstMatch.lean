import Mathlib.Data.List.Basic

/-! # Changing the first entry that matches

The usual loop over an array of records: the first one that matches is changed and
the loop ends. When the records have distinct keys and the match is by key, this is
a change of all matching records.
-/

namespace Foundation

variable {α κ : Type}

/-- `none` when no entry matches. -/
def updateFirst (isMatch : α → Bool) (update : α → α) : List α → Option (List α)
  | [] => none
  | entry :: rest =>
      if isMatch entry then some (update entry :: rest)
      else (updateFirst isMatch update rest).map (entry :: ·)

theorem length_of_updateFirst {isMatch : α → Bool} {update : α → α} {entries after : List α}
    (updated : updateFirst isMatch update entries = some after) :
    after.length = entries.length := by
  induction entries generalizing after with
  | nil => cases updated
  | cons entry rest induction =>
      rw [updateFirst] at updated
      split at updated
      · cases updated
        rfl
      · rcases Option.map_eq_some_iff.mp updated with ⟨tail, tailUpdated, equal⟩
        cases equal
        simp [induction tailUpdated]

/-- Entries that do not match are passed over. -/
theorem updateFirst_append_of_absent {isMatch : α → Bool} (update : α → α) {front : List α}
    (absent : ∀ entry ∈ front, isMatch entry = false) (back : List α) :
    updateFirst isMatch update (front ++ back) =
      (updateFirst isMatch update back).map (front ++ ·) := by
  induction front with
  | nil => simp
  | cons entry front induction =>
      rw [List.forall_mem_cons] at absent
      simp [updateFirst, absent.1, induction absent.2, Function.comp_def]

theorem updateFirst_of_absent {isMatch : α → Bool} (update : α → α) {entries : List α}
    (absent : ∀ entry ∈ entries, isMatch entry = false) :
    updateFirst isMatch update entries = none := by
  have passed := updateFirst_append_of_absent update absent []
  simpa [updateFirst] using passed

/-- The first match is changed where it is. -/
theorem updateFirst_of_findIdx? {isMatch : α → Bool} (update : α → α) {entries : List α}
    {index : Nat} {entry : α} (found : entries.findIdx? isMatch = some index)
    (present : entries[index]? = some entry) :
    updateFirst isMatch update entries = some (entries.set index (update entry)) := by
  induction entries generalizing index with
  | nil => cases present
  | cons first rest induction =>
      cases same : isMatch first with
      | true =>
          rw [List.findIdx?_cons, same, if_pos rfl] at found
          cases found
          cases present
          simp [updateFirst, same]
      | false =>
          rw [List.findIdx?_cons, same, if_neg Bool.false_ne_true] at found
          rcases Option.map_eq_some_iff.mp found with ⟨earlier, restFound, rfl⟩
          simp [updateFirst, same, induction restFound present]

/-- With distinct keys, changing the first entry with a key changes every entry
with that key, and entries behind it are left alone. -/
theorem updateFirst_append_of_key [DecidableEq κ] {key : α → κ} {wanted : κ}
    {entries : List α} (distinct : (entries.map key).Nodup)
    (present : ∃ entry ∈ entries, key entry = wanted) (update : α → α) (back : List α) :
    updateFirst (fun entry => key entry == wanted) update (entries ++ back) =
      some (entries.map (fun entry => if key entry = wanted then update entry else entry) ++
        back) := by
  induction entries with
  | nil => simp at present
  | cons entry rest induction =>
      rw [List.map_cons, List.nodup_cons] at distinct
      by_cases same : key entry = wanted
      · have others : ∀ other ∈ rest, key other ≠ wanted := by
          intro other member equal
          exact distinct.1 (same ▸ equal ▸ List.mem_map_of_mem member)
        have unchanged : rest.map (fun other => if key other = wanted then update other
            else other) = rest := by
          rw [List.map_congr_left fun other member => if_neg (others other member), List.map_id']
        simp [updateFirst, same, unchanged]
      · have later : ∃ other ∈ rest, key other = wanted := by
          rcases present with ⟨other, member, equal⟩
          rcases List.mem_cons.mp member with rfl | member
          · exact absurd equal same
          · exact ⟨other, member, equal⟩
        simp [updateFirst, same, induction distinct.2 later]

/-- Where at most one entry matches, the first match is the match. -/
theorem find?_eq_some_iff_of_unique {isMatch : α → Bool} {entries : List α}
    (unique : ∀ left ∈ entries, ∀ right ∈ entries, isMatch left = true →
      isMatch right = true → left = right) (entry : α) :
    entries.find? isMatch = some entry ↔ entry ∈ entries ∧ isMatch entry = true := by
  constructor
  · intro found
    exact ⟨List.mem_of_find?_eq_some found, List.find?_some found⟩
  · intro both
    rcases both with ⟨member, same⟩
    cases found : entries.find? isMatch with
    | none => exact absurd same (List.find?_eq_none.mp found entry member)
    | some first =>
        rw [unique first (List.mem_of_find?_eq_some found) entry member
          (List.find?_some found) same]

/-- Of entries with distinct keys at most one has a given key. -/
theorem filter_key_eq_find? [DecidableEq κ] {key : α → κ} {entries : List α}
    (distinct : (entries.map key).Nodup) (wanted : κ) :
    entries.filter (fun entry => key entry == wanted) =
      (entries.find? fun entry => key entry == wanted).toList := by
  induction entries with
  | nil => rfl
  | cons entry rest induction =>
      rw [List.map_cons, List.nodup_cons] at distinct
      by_cases same : key entry = wanted
      · have others : ∀ other ∈ rest, ¬ (key other == wanted) = true := by
          intro other member equal
          have sameKey := (beq_iff_eq.mp equal).trans same.symm
          exact distinct.1 (sameKey ▸ List.mem_map_of_mem member)
        have matched : (key entry == wanted) = true := beq_iff_eq.mpr same
        simp [matched, List.filter_eq_nil_iff.mpr others]
      · have missed : (key entry == wanted) = false := beq_false_of_ne same
        simpa [missed] using induction distinct.2

/-! ## Lists as maps -/

/-- Replace the entry with the key of the new one, or append the new one. -/
def upsert [DecidableEq κ] (key : α → κ) (entries : List α) (new : α) : List α :=
  if key new ∈ entries.map key then
    entries.map fun entry => if key entry = key new then new else entry
  else entries ++ [new]

variable [DecidableEq κ] {key : α → κ} {entries : List α} {new : α}

theorem upsert_of_known (known : key new ∈ entries.map key) :
    upsert key entries new =
      entries.map fun entry => if key entry = key new then new else entry :=
  if_pos known

theorem upsert_of_fresh (fresh : key new ∉ entries.map key) :
    upsert key entries new = entries ++ [new] :=
  if_neg fresh

/-- A known key is replaced where it is. -/
theorem upsert_eq_set (distinct : (entries.map key).Nodup) {index : Nat} {old : α}
    (present : entries[index]? = some old) (same : key old = key new) :
    upsert key entries new = entries.set index new := by
  have known : key new ∈ entries.map key := by
    rw [← same]
    exact List.mem_map_of_mem (List.mem_of_getElem? present)
  have inside : index < entries.length := (List.getElem?_eq_some_iff.mp present).1
  rw [upsert_of_known known]
  apply List.ext_getElem?
  intro other
  rw [List.getElem?_map, List.getElem?_set]
  by_cases here : index = other
  · rw [if_pos here, if_pos (here ▸ inside), ← here, present, Option.map_some, if_pos same]
  · rw [if_neg here]
    cases otherPresent : entries[other]? with
    | none => rfl
    | some entry =>
        have different : key entry ≠ key new := by
          intro equal
          apply here
          rw [← List.getElem?_inj (by simpa using inside) distinct, List.getElem?_map,
            List.getElem?_map, present, otherPresent, Option.map_some, Option.map_some, same,
            equal]
        rw [Option.map_some, if_neg different]

theorem mem_upsert_iff (entry : α) :
    entry ∈ upsert key entries new ↔
      entry = new ∨ entry ∈ entries ∧ key entry ≠ key new := by
  by_cases known : key new ∈ entries.map key
  · rw [upsert_of_known known, List.mem_map]
    constructor
    · intro image
      rcases image with ⟨old, member, equal⟩
      split at equal
      · exact Or.inl equal.symm
      next different =>
        cases equal
        exact Or.inr ⟨member, different⟩
    · intro cases
      rcases cases with equal | ⟨member, different⟩
      · rcases List.mem_map.mp known with ⟨old, member, same⟩
        exact ⟨old, member, by rw [if_pos same, equal]⟩
      · exact ⟨entry, member, if_neg different⟩
  · rw [upsert_of_fresh known, List.mem_append, List.mem_singleton, or_comm]
    refine or_congr_right ⟨?_, And.left⟩
    intro member
    exact ⟨member, fun same => known (same ▸ List.mem_map_of_mem member)⟩

/-- An upsert can be made before or after a conversion that keeps the keys. -/
theorem map_upsert {β : Type} {convert : α → β} {otherKey : β → κ}
    (sameKey : ∀ entry, otherKey (convert entry) = key entry) :
    (upsert key entries new).map convert =
      upsert otherKey (entries.map convert) (convert new) := by
  have sameKeys : (entries.map convert).map otherKey = entries.map key := by
    rw [List.map_map]
    exact List.map_congr_left fun entry _ => sameKey entry
  by_cases known : key new ∈ entries.map key
  · rw [upsert_of_known known, upsert_of_known (by rwa [sameKeys, sameKey]), List.map_map,
      List.map_map]
    refine List.map_congr_left fun entry _ => ?_
    simp only [Function.comp_def, sameKey]
    split <;> rfl
  · rw [upsert_of_fresh known, upsert_of_fresh (by rwa [sameKeys, sameKey]), List.map_append,
      List.map_singleton]

theorem distinct_upsert (distinct : (entries.map key).Nodup) :
    ((upsert key entries new).map key).Nodup := by
  by_cases known : key new ∈ entries.map key
  · have sameKeys : (upsert key entries new).map key = entries.map key := by
      rw [upsert_of_known known, List.map_map]
      refine List.map_congr_left fun entry _ => ?_
      by_cases same : key entry = key new <;> simp [same]
    rwa [sameKeys]
  · rw [upsert_of_fresh known, List.map_append, List.nodup_append]
    refine ⟨distinct, by simp, ?_⟩
    intro old member other single equal
    rw [List.map_singleton, List.mem_singleton] at single
    exact known (single ▸ equal ▸ member)

end Foundation
