import BleMesh.Foundation.Execution
import BleMesh.Foundation.SlotTable
import BleMesh.Provisioner.Definitions

/-! # The table of unprovisioned devices

`provisioner_add_unprov_dev_info` looks for the device and for a free slot in one
pass, so a hole left by `remove_unprov_dev` before a device hides the device from
the search. Addresses stay unique exactly as long as that never happens.
-/

namespace BleMesh.Provisioner

open Foundation Foundation.Execution

variable {capacity : Nat}

/-- The answer and the table after the call. `allocated` tells whether the call's
`malloc` succeeds. -/
def provisionerAddUnprovDevInfo (table : SlotTable UnprovDevAdd capacity)
    (unprovDeviceInfo : Option UnprovDevAdd) (allocated : Bool) :
    Int × SlotTable UnprovDevAdd capacity :=
  match unprovDeviceInfo with
  | none => (-1, table)
  | some device =>
      match table.scan fun stored => stored.addr == device.addr with
      | .held _ => (0, table)
      | .free index => if allocated then (0, table.set index (some device)) else (-1, table)
      | .full => (0, table)

def removeUnprovDev (table : SlotTable UnprovDevAdd capacity) (idx : UInt8) :
    SlotTable UnprovDevAdd capacity :=
  if capacity ≤ idx.toNat then table
  else
    match table.get idx.toNat with
    | none => table
    | some _ => table.set idx.toNat none

/-- The calls that change the table. -/
inductive UnprovEvent
  | add (device : UnprovDevAdd) (allocated : Bool)
  | remove (idx : UInt8)

def unprovStep (table : SlotTable UnprovDevAdd capacity) :
    UnprovEvent → Option (SlotTable UnprovDevAdd capacity)
  | .add device allocated =>
      some (provisionerAddUnprovDevInfo table (some device) allocated).2
  | .remove idx => some (removeUnprovDev table idx)

/-- No two occupied slots hold the same Bluetooth device address. -/
def AddressesUnique (table : SlotTable UnprovDevAdd capacity) : Prop :=
  table.DistinctKeys UnprovDevAdd.addr

/-- No slot before the one that holds the address is free. -/
def NoHoleBefore (table : SlotTable UnprovDevAdd capacity) (addr : BdAddr) : Prop :=
  ∀ index stored, table.get index = some stored → stored.addr = addr →
    ∀ earlier < index, table.get earlier ≠ none

/-- An addition that gets its memory finds no hole before the device. -/
def AddsBehindNoHole (table : SlotTable UnprovDevAdd capacity) : UnprovEvent → Prop
  | .add device allocated => allocated = true → NoHoleBefore table device.addr
  | .remove _ => True

/-- When the pass stops at a free slot, the device is absent exactly if no hole
comes before it. -/
theorem noHoleBefore_iff_of_scan_free {table : SlotTable UnprovDevAdd capacity}
    {addr : BdAddr} {index : Nat}
    (stop : table.scan (fun stored => stored.addr == addr) = .free index) :
    NoHoleBefore table addr ↔
      ∀ other stored, table.get other = some stored → stored.addr ≠ addr := by
  rcases SlotTable.scan_free stop with ⟨-, free, passed⟩
  constructor
  · intro noHole other stored held equal
    rcases Nat.lt_trichotomy other index with before | same | behind
    · rcases passed other before with ⟨entry, entryHeld, differs⟩
      rw [held] at entryHeld
      cases entryHeld
      simp [equal] at differs
    · rw [same, free] at held
      cases held
    · exact noHole other stored held equal index behind free
  · intro absent other stored held equal
    exact absurd equal (absent other stored held)

theorem addressesUnique_add_iff {table : SlotTable UnprovDevAdd capacity}
    (unique : AddressesUnique table) (device : UnprovDevAdd) (allocated : Bool) :
    AddressesUnique (provisionerAddUnprovDevInfo table (some device) allocated).2 ↔
      (allocated = true → NoHoleBefore table device.addr) := by
  simp only [provisionerAddUnprovDevInfo]
  cases stop : table.scan fun stored => stored.addr == device.addr with
  | held index =>
      rcases SlotTable.scan_held stop with ⟨⟨entry, entryHeld, same⟩, passed⟩
      refine iff_of_true unique ?_
      intro _ other stored held equal earlier before
      have position : other = index := unique other index stored entry held entryHeld
        (equal.trans (eq_of_beq same).symm)
      rcases passed earlier (position ▸ before) with ⟨present, presentHeld, -⟩
      simp [presentHeld]
  | free index =>
      rcases SlotTable.scan_free stop with ⟨inside, free, -⟩
      cases allocated with
      | false => simpa using unique
      | true =>
          have placed := SlotTable.distinctKeys_set_some_iff unique inside free device
          simpa [AddressesUnique, noHoleBefore_iff_of_scan_free stop] using placed
  | full =>
      have occupied := SlotTable.scan_full stop
      refine iff_of_true unique ?_
      intro _ other stored held equal earlier before
      rcases occupied earlier (Nat.lt_trans before (SlotTable.index_lt_of_get held)) with
        ⟨present, presentHeld, -⟩
      simp [presentHeld]

theorem addressesUnique_remove {table : SlotTable UnprovDevAdd capacity}
    (unique : AddressesUnique table) (idx : UInt8) :
    AddressesUnique (removeUnprovDev table idx) := by
  rw [removeUnprovDev]
  split
  · exact unique
  · split
    · exact unique
    · exact SlotTable.DistinctKeys.set_none unique _

/-- Along every run from the empty table the addresses are unique in every state
exactly if no addition stores a device in a hole before its own slot. -/
theorem addressesUnique_throughout_iff (events : List UnprovEvent) :
    (∀ table ∈ visited unprovStep (SlotTable.empty : SlotTable UnprovDevAdd capacity) events,
        AddressesUnique table) ↔
      ∀ performed ∈ taken unprovStep (SlotTable.empty : SlotTable UnprovDevAdd capacity) events,
        AddsBehindNoHole performed.1 performed.2 := by
  refine forall_visited_iff_forall_taken (fun _ => True)
    (fun _ _ _ _ _ => trivial) ?_ events trivial (SlotTable.distinctKeys_empty _)
  intro table event next _ unique happens
  cases event with
  | add device allocated =>
      cases happens
      exact addressesUnique_add_iff unique device allocated
  | remove idx =>
      cases happens
      exact iff_of_true (addressesUnique_remove unique idx) trivial

def firstSeen : UnprovDevAdd where
  addr := 0xA
  addrType := 0
  uuid := 1
  oobInfo := 0
  bearer := 1

def seenAgain : UnprovDevAdd where
  addr := 0xB
  addrType := 0
  uuid := 2
  oobInfo := 0
  bearer := 1

/-- Two devices are seen, the first is removed and the second is seen again. -/
def seenAgainEvents : List UnprovEvent :=
  [.add firstSeen true, .add seenAgain true, .remove 0, .add seenAgain true]

/-- The second sighting fills the hole in slot 0 although slot 1 holds the device. -/
theorem addressesUnique_fails_after_removal :
    ¬ ∀ events, ∀ table ∈ visited unprovStep
        (SlotTable.empty : SlotTable UnprovDevAdd provMaxUnprovDevCnt) events,
      AddressesUnique table := by
  intro always
  let final : SlotTable UnprovDevAdd provMaxUnprovDevCnt :=
    ((SlotTable.empty.set 0 (some firstSeen)).set 1 (some seenAgain)).set 0 none
      |>.set 0 (some seenAgain)
  have runs : run unprovStep SlotTable.empty seenAgainEvents = some final := rfl
  have unique := always seenAgainEvents final (mem_visited_of_run runs)
  have same : (0 : Nat) = 1 := unique 0 1 seenAgain seenAgain rfl rfl rfl
  cases same

end BleMesh.Provisioner
