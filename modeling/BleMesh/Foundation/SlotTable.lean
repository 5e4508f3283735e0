import Mathlib.Data.List.Basic

/-! # Tables of slots

A fixed number of slots, each free or holding one entry. The operations are the
two loops such tables are used with: look for an entry, and look for an entry or
a free slot in one pass.
-/

namespace Foundation

/-- An array of `capacity` slots. -/
structure SlotTable (α : Type) (capacity : Nat) where
  slots : List (Option α)
  slots_length : slots.length = capacity

namespace SlotTable

variable {α κ : Type} {capacity : Nat}

/-- Every slot is free. -/
def empty : SlotTable α capacity where
  slots := List.replicate capacity none
  slots_length := List.length_replicate

/-- The entry in a slot. Outside the table there is none. -/
def get (table : SlotTable α capacity) (index : Nat) : Option α :=
  table.slots[index]?.join

/-- Overwrite one slot. -/
def set (table : SlotTable α capacity) (index : Nat) (value : Option α) :
    SlotTable α capacity where
  slots := table.slots.set index value
  slots_length := by rw [List.length_set, table.slots_length]

@[simp] theorem get_empty (index : Nat) :
    (empty : SlotTable α capacity).get index = none := by
  simp only [get, empty, List.getElem?_replicate]
  split <;> rfl

theorem get_eq_some_iff {table : SlotTable α capacity} {index : Nat} {entry : α} :
    table.get index = some entry ↔ table.slots[index]? = some (some entry) :=
  Option.join_eq_some_iff

theorem index_lt_of_get {table : SlotTable α capacity} {index : Nat} {entry : α}
    (held : table.get index = some entry) : index < capacity := by
  have present := get_eq_some_iff.mp held
  rw [← table.slots_length]
  exact (List.getElem?_eq_some_iff.mp present).1

@[simp] theorem get_set_same (table : SlotTable α capacity) {index : Nat}
    (inside : index < capacity) (value : Option α) :
    (table.set index value).get index = value := by
  rw [← table.slots_length] at inside
  simp [get, set, List.getElem?_set_self inside]

theorem get_set_other (table : SlotTable α capacity) {index other : Nat}
    (different : other ≠ index) (value : Option α) :
    (table.set index value).get other = table.get other := by
  simp [get, set, List.getElem?_set_ne different.symm]

/-- Behind the table there is nothing to overwrite. -/
theorem set_of_le (table : SlotTable α capacity) {index : Nat} (outside : capacity ≤ index)
    (value : Option α) : table.set index value = table := by
  rcases table with ⟨slots, slots_length⟩
  simp only [set, mk.injEq]
  exact List.set_eq_of_length_le (by rwa [slots_length])

/-- Overwriting an entry leaves the table alone exactly if the entry is the same. -/
theorem set_eq_self_iff {table : SlotTable α capacity} {index : Nat} {entry new : α}
    (held : table.get index = some entry) :
    table.set index (some new) = table ↔ new = entry := by
  constructor
  · intro same
    have overwritten := get_set_same table (index_lt_of_get held) (some new)
    rw [same, held] at overwritten
    exact (Option.some.inj overwritten).symm
  · intro same
    have present := get_eq_some_iff.mp held
    rcases List.getElem?_eq_some_iff.mp present with ⟨inside, slotEq⟩
    rcases table with ⟨slots, slots_length⟩
    simp only [set, same, mk.injEq]
    rw [← slotEq, List.set_getElem_self]

/-- What holds of all entries still does after an entry with the property is put in. -/
theorem forall_set_some {Property : α → Prop} {table : SlotTable α capacity}
    (before : ∀ index entry, table.get index = some entry → Property entry) (index : Nat)
    {entry : α} (holds : Property entry) :
    ∀ other stored, (table.set index (some entry)).get other = some stored →
      Property stored := by
  intro other stored held
  by_cases same : other = index
  · subst same
    rw [get_set_same table (index_lt_of_get held)] at held
    cases held
    exact holds
  · rw [get_set_other table same] at held
    exact before other stored held

/-! ## Looking for an entry or a free slot -/

/-- Where a pass over the slots stops. -/
inductive Position
  | held (index : Nat)
  | free (index : Nat)
  | full
  deriving DecidableEq

/-- The same place, seen from one slot earlier. -/
def Position.next : Position → Position
  | .held index => .held (index + 1)
  | .free index => .free (index + 1)
  | .full => .full

/-- One pass that stops at the first free slot, at the first entry that matches,
or past the last slot, whichever comes first. -/
def scanSlots (isMatch : α → Bool) : List (Option α) → Position
  | [] => .full
  | none :: _ => .free 0
  | some entry :: rest =>
      if isMatch entry then .held 0 else (scanSlots isMatch rest).next

def scan (table : SlotTable α capacity) (isMatch : α → Bool) : Position :=
  scanSlots isMatch table.slots

/-- The slots before `limit` hold entries that do not match. -/
def Passed (isMatch : α → Bool) (slots : List (Option α)) (limit : Nat) : Prop :=
  ∀ index < limit, ∃ entry, slots[index]? = some (some entry) ∧ isMatch entry = false

/-- What the place where a pass stops says about the slots. -/
def Position.Describes (isMatch : α → Bool) (slots : List (Option α)) : Position → Prop
  | .held index =>
      (∃ entry, slots[index]? = some (some entry) ∧ isMatch entry = true) ∧
        Passed isMatch slots index
  | .free index => slots[index]? = some none ∧ Passed isMatch slots index
  | .full => Passed isMatch slots slots.length

theorem Passed.cons {isMatch : α → Bool} {slots : List (Option α)} {limit : Nat}
    {entry : α} (differs : isMatch entry = false) (passed : Passed isMatch slots limit) :
    Passed isMatch (some entry :: slots) (limit + 1) := by
  intro index bound
  cases index with
  | zero => exact ⟨entry, rfl, differs⟩
  | succ index => exact passed index (Nat.lt_of_succ_lt_succ bound)

theorem scanSlots_describes (isMatch : α → Bool) (slots : List (Option α)) :
    (scanSlots isMatch slots).Describes isMatch slots := by
  induction slots with
  | nil => exact fun index bound => absurd bound (Nat.not_lt_zero index)
  | cons slot rest induction =>
      cases slot with
      | none => exact ⟨rfl, fun index bound => absurd bound (Nat.not_lt_zero index)⟩
      | some entry =>
          cases differs : isMatch entry with
          | true =>
              simp only [scanSlots, differs, if_true]
              exact ⟨⟨entry, rfl, differs⟩,
                fun index bound => absurd bound (Nat.not_lt_zero index)⟩
          | false =>
              simp only [scanSlots, differs, Bool.false_eq_true, if_false]
              cases stop : scanSlots isMatch rest with
              | held index =>
                  rw [stop] at induction
                  exact ⟨induction.1, induction.2.cons differs⟩
              | free index =>
                  rw [stop] at induction
                  exact ⟨induction.1, induction.2.cons differs⟩
              | full =>
                  rw [stop] at induction
                  exact Passed.cons differs induction

theorem Passed.get {isMatch : α → Bool} {table : SlotTable α capacity} {limit index : Nat}
    (passed : Passed isMatch table.slots limit) (bound : index < limit) :
    ∃ entry, table.get index = some entry ∧ isMatch entry = false := by
  rcases passed index bound with ⟨entry, present, differs⟩
  exact ⟨entry, get_eq_some_iff.mpr present, differs⟩

theorem scan_held {table : SlotTable α capacity} {isMatch : α → Bool} {index : Nat}
    (stop : table.scan isMatch = .held index) :
    (∃ entry, table.get index = some entry ∧ isMatch entry = true) ∧
      ∀ earlier < index, ∃ entry, table.get earlier = some entry ∧ isMatch entry = false := by
  have describes := scanSlots_describes isMatch table.slots
  rw [scan] at stop
  rw [stop] at describes
  rcases describes with ⟨⟨entry, present, same⟩, passed⟩
  exact ⟨⟨entry, get_eq_some_iff.mpr present, same⟩, fun earlier bound => passed.get bound⟩

theorem scan_free {table : SlotTable α capacity} {isMatch : α → Bool} {index : Nat}
    (stop : table.scan isMatch = .free index) :
    index < capacity ∧ table.get index = none ∧
      ∀ earlier < index, ∃ entry, table.get earlier = some entry ∧ isMatch entry = false := by
  have describes := scanSlots_describes isMatch table.slots
  rw [scan] at stop
  rw [stop] at describes
  rcases describes with ⟨present, passed⟩
  refine ⟨?_, by simp [get, present], fun earlier bound => passed.get bound⟩
  rw [← table.slots_length]
  exact (List.getElem?_eq_some_iff.mp present).1

theorem scan_full {table : SlotTable α capacity} {isMatch : α → Bool}
    (stop : table.scan isMatch = .full) :
    ∀ index < capacity, ∃ entry, table.get index = some entry ∧ isMatch entry = false := by
  have describes := scanSlots_describes isMatch table.slots
  rw [scan] at stop
  rw [stop] at describes
  intro index bound
  exact Passed.get describes (table.slots_length.symm ▸ bound)

/-- Some slot is free. -/
def HasRoom (table : SlotTable α capacity) : Prop :=
  ∃ index < capacity, table.get index = none

theorem not_hasRoom_of_scan_full {table : SlotTable α capacity} {isMatch : α → Bool}
    (stop : table.scan isMatch = .full) : ¬ table.HasRoom := by
  intro room
  rcases room with ⟨index, inside, free⟩
  rcases scan_full stop index inside with ⟨entry, held, -⟩
  rw [free] at held
  cases held

/-- A pass that no entry stops finds a free slot if there is one. -/
theorem scan_of_hasRoom {table : SlotTable α capacity} (room : table.HasRoom)
    {isMatch : α → Bool} (never : ∀ entry, isMatch entry = false) :
    ∃ index, table.scan isMatch = .free index := by
  cases stop : table.scan isMatch with
  | held index =>
      rcases (scan_held stop).1 with ⟨entry, -, same⟩
      rw [never] at same
      cases same
  | free index => exact ⟨index, rfl⟩
  | full => exact absurd room (not_hasRoom_of_scan_full stop)

theorem scan_of_not_hasRoom {table : SlotTable α capacity} (noRoom : ¬ table.HasRoom)
    {isMatch : α → Bool} (never : ∀ entry, isMatch entry = false) :
    table.scan isMatch = .full := by
  cases stop : table.scan isMatch with
  | held index =>
      rcases (scan_held stop).1 with ⟨entry, -, same⟩
      rw [never] at same
      cases same
  | free index =>
      rcases scan_free stop with ⟨inside, free, -⟩
      exact absurd ⟨index, inside, free⟩ noRoom
  | full => rfl

/-! ## Whether a table holds an entry -/

/-- Some slot holds an entry with the property. -/
def Holds (table : SlotTable α capacity) (Wanted : α → Prop) : Prop :=
  ∃ index entry, table.get index = some entry ∧ Wanted entry

/-- Such an entry is held before the first free slot. -/
def HoldsFirst (table : SlotTable α capacity) (Wanted : α → Prop) : Prop :=
  ∃ index entry, table.get index = some entry ∧ Wanted entry ∧
    ∀ earlier < index, table.get earlier ≠ none

theorem holds_set_same (table : SlotTable α capacity) {index : Nat} (inside : index < capacity)
    {Wanted : α → Prop} {entry : α} (wanted : Wanted entry) :
    (table.set index (some entry)).Holds Wanted :=
  ⟨index, entry, get_set_same table inside _, wanted⟩

theorem holdsFirst_of_scan_held {table : SlotTable α capacity} {isMatch : α → Bool}
    {index : Nat} (stop : table.scan isMatch = .held index) :
    table.HoldsFirst fun entry => isMatch entry = true := by
  rcases scan_held stop with ⟨⟨entry, held, same⟩, passed⟩
  refine ⟨index, entry, held, same, ?_⟩
  intro earlier before free
  rcases passed earlier before with ⟨other, otherHeld, -⟩
  rw [free] at otherHeld
  cases otherHeld

/-- A pass that stops at a free slot has come to no match. -/
theorem not_holdsFirst_of_scan_free {table : SlotTable α capacity} {isMatch : α → Bool}
    {index : Nat} (stop : table.scan isMatch = .free index) :
    ¬ table.HoldsFirst fun entry => isMatch entry = true := by
  intro first
  rcases first with ⟨position, entry, held, same, noHole⟩
  rcases scan_free stop with ⟨-, free, passed⟩
  rcases Nat.lt_or_ge index position with behind | before
  · exact noHole index behind free
  · have different : position ≠ index := by
      intro equal
      rw [equal, free] at held
      cases held
    rcases passed position (Nat.lt_of_le_of_ne before different) with ⟨other, otherHeld, differs⟩
    rw [held] at otherHeld
    cases otherHeld
    rw [same] at differs
    cases differs

theorem HoldsFirst.holds {table : SlotTable α capacity} {Wanted : α → Prop}
    (first : table.HoldsFirst Wanted) : table.Holds Wanted := by
  rcases first with ⟨index, entry, held, wanted, -⟩
  exact ⟨index, entry, held, wanted⟩

theorem HoldsFirst.mono {table : SlotTable α capacity} {Wanted Weaker : α → Prop}
    (first : table.HoldsFirst Wanted) (weaker : ∀ entry, Wanted entry → Weaker entry) :
    table.HoldsFirst Weaker := by
  rcases first with ⟨index, entry, held, wanted, noHole⟩
  exact ⟨index, entry, held, weaker entry wanted, noHole⟩

/-- In a full table no free slot comes before an entry. -/
theorem Holds.first {table : SlotTable α capacity} {Wanted : α → Prop}
    (holds : table.Holds Wanted) (full : ¬ table.HasRoom) : table.HoldsFirst Wanted := by
  rcases holds with ⟨index, entry, held, wanted⟩
  refine ⟨index, entry, held, wanted, ?_⟩
  intro earlier before free
  exact full ⟨earlier, Nat.lt_trans before (index_lt_of_get held), free⟩

/-! ## Looking for an entry -/

/-- The first entry that matches, with its index. Free slots are passed over. -/
def findSlots (isMatch : α → Bool) : List (Option α) → Option (Nat × α)
  | [] => none
  | none :: rest => (findSlots isMatch rest).map fun found => (found.1 + 1, found.2)
  | some entry :: rest =>
      if isMatch entry then some (0, entry)
      else (findSlots isMatch rest).map fun found => (found.1 + 1, found.2)

def find (table : SlotTable α capacity) (isMatch : α → Bool) : Option (Nat × α) :=
  findSlots isMatch table.slots

theorem findSlots_some {isMatch : α → Bool} {slots : List (Option α)} {index : Nat}
    {entry : α} (found : findSlots isMatch slots = some (index, entry)) :
    slots[index]? = some (some entry) ∧ isMatch entry = true := by
  induction slots generalizing index with
  | nil => simp [findSlots] at found
  | cons slot rest induction =>
      have later : (findSlots isMatch rest).map (fun found => (found.1 + 1, found.2)) =
          some (index, entry) →
          (slot :: rest)[index]? = some (some entry) ∧ isMatch entry = true := by
        intro shifted
        rcases Option.map_eq_some_iff.mp shifted with ⟨⟨position, other⟩, restFound, equal⟩
        cases equal
        exact induction restFound
      cases slot with
      | none => exact later found
      | some first =>
          by_cases same : isMatch first = true
          · simp only [findSlots, same, if_true, Option.some.injEq, Prod.mk.injEq] at found
            rcases found with ⟨rfl, rfl⟩
            exact ⟨rfl, same⟩
          · simp only [findSlots, same, Bool.false_eq_true, if_false] at found
            exact later found

theorem find_some {table : SlotTable α capacity} {isMatch : α → Bool} {index : Nat}
    {entry : α} (found : table.find isMatch = some (index, entry)) :
    table.get index = some entry ∧ isMatch entry = true :=
  ⟨get_eq_some_iff.mpr (findSlots_some found).1, (findSlots_some found).2⟩

/-! ## Tables filled from the front -/

/-- The entries occupy the first slots, in order, and the other slots are free. -/
structure FilledBy (table : SlotTable α capacity) (entries : List α) : Prop where
  slots_eq : table.slots =
    entries.map some ++ List.replicate (capacity - entries.length) none
  length_le : entries.length ≤ capacity

theorem filledBy_empty : (empty : SlotTable α capacity).FilledBy [] :=
  ⟨by simp [empty], Nat.zero_le _⟩

theorem scanSlots_filled {isMatch : α → Bool} (never : ∀ entry, isMatch entry = false)
    (entries : List α) (spare : Nat) :
    scanSlots isMatch (entries.map some ++ List.replicate spare none) =
      if 0 < spare then .free entries.length else .full := by
  induction entries with
  | nil => cases spare <;> simp [scanSlots, List.replicate_succ]
  | cons entry entries induction =>
      simp only [List.map_cons, List.cons_append, scanSlots, never, Bool.false_eq_true,
        if_false, induction]
      split <;> rfl

/-- A pass for a free slot over a table filled from the front stops right after
the entries. -/
theorem FilledBy.scan_eq {table : SlotTable α capacity} {entries : List α}
    (filled : table.FilledBy entries) {isMatch : α → Bool}
    (never : ∀ entry, isMatch entry = false) :
    table.scan isMatch =
      if entries.length < capacity then .free entries.length else .full := by
  rw [scan, filled.slots_eq, scanSlots_filled never]
  simp only [Nat.sub_pos_iff_lt]

/-- Filling the first free slot keeps the table filled from the front. -/
theorem FilledBy.set_append {table : SlotTable α capacity} {entries : List α}
    (filled : table.FilledBy entries) (room : entries.length < capacity) (entry : α) :
    (table.set entries.length (some entry)).FilledBy (entries ++ [entry]) := by
  rcases Nat.exists_eq_add_of_lt room with ⟨spare, capacityEq⟩
  have before : capacity - entries.length = spare + 1 := by omega
  have after : capacity - (entries ++ [entry]).length = spare := by
    rw [List.length_append, List.length_singleton]
    omega
  refine ⟨?_, by simpa using Nat.succ_le_of_lt room⟩
  rw [after]
  simp only [set, filled.slots_eq, before]
  rw [List.set_append_right _ _ (by simp)]
  simp [List.replicate_succ]

/-- Overwriting an entry keeps the table filled from the front. -/
theorem FilledBy.set_held {table : SlotTable α capacity} {entries : List α}
    (filled : table.FilledBy entries) {index : Nat} (inside : index < entries.length)
    (entry : α) : (table.set index (some entry)).FilledBy (entries.set index entry) := by
  refine ⟨?_, by simpa using filled.length_le⟩
  simp only [set, filled.slots_eq]
  rw [List.set_append_left _ _ (by simpa using inside), ← List.map_set, List.length_set]

theorem findSlots_map_some (isMatch : α → Bool) (entries : List α)
    (spare : Nat) :
    (findSlots isMatch (entries.map some ++ List.replicate spare none)).map Prod.snd =
      entries.find? isMatch := by
  induction entries with
  | nil =>
      induction spare with
      | zero => rfl
      | succ spare induction =>
          simpa [findSlots, List.replicate_succ, Function.comp_def] using induction
  | cons entry entries induction =>
      cases same : isMatch entry with
      | true => simp [findSlots, same]
      | false => simpa [findSlots, same, Function.comp_def] using induction

theorem FilledBy.find_eq {table : SlotTable α capacity} {entries : List α}
    (filled : table.FilledBy entries) (isMatch : α → Bool) :
    (table.find isMatch).map Prod.snd = entries.find? isMatch := by
  rw [find, filled.slots_eq, findSlots_map_some]

/-- The entry a pass has stopped at, if it has. -/
def Position.entry (slots : List (Option α)) : Position → Option α
  | .held index => slots[index]?.join
  | .free _ => none
  | .full => none

theorem Position.entry_next (slot : Option α) (slots : List (Option α)) (position : Position) :
    position.next.entry (slot :: slots) = position.entry slots := by
  cases position <;> rfl

theorem scanSlots_entry (isMatch : α → Bool) (entries : List α) (spare : Nat) :
    (scanSlots isMatch (entries.map some ++ List.replicate spare none)).entry
        (entries.map some ++ List.replicate spare none) =
      entries.find? isMatch := by
  induction entries with
  | nil => cases spare <;> rfl
  | cons entry entries induction =>
      rw [List.map_cons, List.cons_append, scanSlots]
      cases same : isMatch entry with
      | true => simp [Position.entry, same]
      | false => simpa [Position.entry_next, same] using induction

/-- A pass over a table filled from the front stops at the first entry that matches. -/
theorem FilledBy.scan_entry {table : SlotTable α capacity} {entries : List α}
    (filled : table.FilledBy entries) (isMatch : α → Bool) :
    (table.scan isMatch).entry table.slots = entries.find? isMatch := by
  rw [scan, filled.slots_eq, scanSlots_entry]

theorem FilledBy.get_eq {table : SlotTable α capacity} {entries : List α}
    (filled : table.FilledBy entries) (index : Nat) : table.get index = entries[index]? := by
  rw [get, filled.slots_eq]
  by_cases bound : index < entries.length
  · simp [List.getElem?_append_left, bound]
  · rw [List.getElem?_append_right (by simpa using bound), List.getElem?_replicate,
      List.getElem?_eq_none (by omega)]
    split <;> rfl

theorem FilledBy.hasRoom_iff {table : SlotTable α capacity} {entries : List α}
    (filled : table.FilledBy entries) : table.HasRoom ↔ entries.length < capacity := by
  constructor
  · intro room
    rcases room with ⟨index, inside, free⟩
    rw [filled.get_eq] at free
    exact Nat.lt_of_le_of_lt (List.getElem?_eq_none_iff.mp free) inside
  · intro room
    refine ⟨entries.length, room, ?_⟩
    rw [filled.get_eq]
    exact List.getElem?_eq_none_iff.mpr (Nat.le_refl _)

/-- In a table filled from the front no free slot comes before an entry. -/
theorem FilledBy.holdsFirst_iff {table : SlotTable α capacity} {entries : List α}
    (filled : table.FilledBy entries) {Wanted : α → Prop} :
    table.HoldsFirst Wanted ↔ table.Holds Wanted := by
  refine ⟨HoldsFirst.holds, ?_⟩
  intro holds
  rcases holds with ⟨index, entry, held, wanted⟩
  refine ⟨index, entry, held, wanted, ?_⟩
  intro earlier before free
  rw [filled.get_eq] at held free
  have inside := (List.getElem?_eq_some_iff.mp held).1
  exact absurd (List.getElem?_eq_none_iff.mp free) (by omega)

/-! ## All entries of a table -/

/-- The entries, in the order of their slots. -/
def entries (table : SlotTable α capacity) : List α := table.slots.filterMap id

/-- The number of free slots. -/
def room (table : SlotTable α capacity) : Nat := table.slots.countP Option.isNone

theorem slots_eq_map_get (table : SlotTable α capacity) :
    table.slots = (List.range capacity).map table.get := by
  apply List.ext_getElem
  · rw [table.slots_length, List.length_map, List.length_range]
  · intro index inside _
    simp [get, List.getElem?_eq_getElem inside]

/-- A loop over all slots that passes over the free ones comes to the entries. -/
theorem filterMap_get (table : SlotTable α capacity) :
    (List.range capacity).filterMap table.get = table.entries := by
  rw [entries, slots_eq_map_get, List.filterMap_map]
  rfl

theorem FilledBy.entries_eq {table : SlotTable α capacity} {entries : List α}
    (filled : table.FilledBy entries) : table.entries = entries := by
  simp [SlotTable.entries, filled.slots_eq, List.filterMap_map]

theorem FilledBy.room_eq {table : SlotTable α capacity} {entries : List α}
    (filled : table.FilledBy entries) : table.room = capacity - entries.length := by
  simp [room, filled.slots_eq, List.countP_map, Function.comp_def, List.countP_replicate]

/-- What is in a slot comes between the entries before and behind it. -/
theorem entries_set (table : SlotTable α capacity) {index : Nat} (inside : index < capacity)
    (value : Option α) :
    (table.set index value).entries =
      (table.slots.take index).filterMap id ++
        (value.toList ++ (table.slots.drop (index + 1)).filterMap id) := by
  have length : index < table.slots.length := table.slots_length.symm ▸ inside
  simp only [entries, set]
  rw [List.set_eq_take_append_cons_drop, if_pos length, List.filterMap_append]
  cases value <;> rfl

/-- A write replaces what was in the slot. -/
theorem entries_set_perm (table : SlotTable α capacity) {index : Nat}
    (inside : index < capacity) (value : Option α) :
    ((table.get index).toList ++ (table.set index value).entries).Perm
      (value.toList ++ table.entries) := by
  have unchanged : table.set index (table.get index) = table := by
    have length : index < table.slots.length := table.slots_length.symm ▸ inside
    have held : table.get index = table.slots[index] := by
      rw [get, List.getElem?_eq_getElem length, Option.join_some]
    rcases table with ⟨slots, slots_length⟩
    simp only [set, mk.injEq]
    rw [held, List.set_getElem_self]
  have before := table.entries_set inside (table.get index)
  rw [unchanged] at before
  rw [table.entries_set inside, before]
  exact (List.perm_append_comm_assoc _ _ _).trans
    (((List.perm_append_comm_assoc _ _ _).append_left _).trans
      (List.perm_append_comm_assoc _ _ _))

/-! ## Tables without repeated keys -/

/-- No two slots hold entries with the same key. -/
def DistinctKeys (key : α → κ) (table : SlotTable α capacity) : Prop :=
  ∀ left right first second, table.get left = some first → table.get right = some second →
    key first = key second → left = right

theorem distinctKeys_empty (key : α → κ) :
    DistinctKeys key (empty : SlotTable α capacity) := by
  intro left right first second held
  simp at held

theorem DistinctKeys.set_none {key : α → κ} {table : SlotTable α capacity}
    (distinct : DistinctKeys key table) (index : Nat) :
    DistinctKeys key (table.set index none) := by
  have unchanged : ∀ other entry, (table.set index none).get other = some entry →
      table.get other = some entry := by
    intro other entry held
    by_cases same : other = index
    · subst same
      have inside := index_lt_of_get held
      simp [inside] at held
    · rwa [get_set_other table same] at held
  intro left right first second leftHeld rightHeld
  exact distinct left right first second (unchanged left first leftHeld)
    (unchanged right second rightHeld)

/-- Filling a free slot keeps the keys distinct exactly if the new key is not in
the table. -/
theorem distinctKeys_set_some_iff {key : α → κ} {table : SlotTable α capacity}
    (distinct : DistinctKeys key table) {index : Nat} (inside : index < capacity)
    (free : table.get index = none) (entry : α) :
    DistinctKeys key (table.set index (some entry)) ↔
      ∀ other stored, table.get other = some stored → key stored ≠ key entry := by
  have placed : (table.set index (some entry)).get index = some entry :=
    get_set_same table inside _
  constructor
  · intro after other stored held equal
    have different : other ≠ index := by
      intro same
      subst same
      rw [free] at held
      cases held
    have kept : (table.set index (some entry)).get other = some stored := by
      rw [get_set_other table different, held]
    exact different (after other index stored entry kept placed equal)
  · intro fresh left right first second leftHeld rightHeld equal
    by_cases leftSame : left = index <;> by_cases rightSame : right = index
    · rw [leftSame, rightSame]
    · subst leftSame
      rw [placed] at leftHeld
      cases leftHeld
      rw [get_set_other table rightSame] at rightHeld
      exact absurd equal.symm (fresh right second rightHeld)
    · subst rightSame
      rw [placed] at rightHeld
      cases rightHeld
      rw [get_set_other table leftSame] at leftHeld
      exact absurd equal (fresh left first leftHeld)
    · rw [get_set_other table leftSame] at leftHeld
      rw [get_set_other table rightSame] at rightHeld
      exact distinct left right first second leftHeld rightHeld equal

end SlotTable

end Foundation
