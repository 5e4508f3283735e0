import BleMesh.Foundation.SlotTable
import BleMesh.Provisioner.Definitions

/-! # The table of provisioned devices

`provisioner_add_prov_dev_info` takes the first free slot of `prov_node_info` and never
looks at the records that are there. Nothing is ever removed, so the table stays
filled from the front.
-/

namespace BleMesh.Provisioner

open Foundation

variable {capacity : Nat}

/-- The record of a device as it is stored in slot `index`. The rest of the record
is zeroed. -/
def ProvNodeInfo.new (index : Nat) (uuid : Uuid) (unicast : UInt16) (elemNum : UInt8) :
    ProvNodeInfo where
  name := "Node-" ++ toString index
  uuid := uuid
  cid := 0
  pid := 0
  vid := 0
  crpl := 0
  features := 0
  unicastAddress := unicast
  elementNum := elemNum.toNat
  elements := none

/-- The answer and the table after the call. `allocated` tells whether the call's
`malloc` succeeds. No record ends the search for a free slot. -/
def provisionerAddProvDevInfo (table : SlotTable ProvNodeInfo capacity) (uuid : Option Uuid)
    (unicast : UInt16) (elemNum : UInt8) (allocated : Bool) :
    Int × SlotTable ProvNodeInfo capacity :=
  match uuid with
  | none => (-1, table)
  | some uuid =>
      if espBleMeshAddrIsUnicast unicast = false then (-1, table)
      else
        match table.scan fun _ => false with
        | .held _ => (0, table)
        | .free index =>
            if allocated then
              (0, table.set index (some (ProvNodeInfo.new index uuid unicast elemNum)))
            else (-1, table)
        | .full => (0, table)

/-- The call stores a record. -/
structure Records (table : SlotTable ProvNodeInfo capacity) (unicast : UInt16)
    (allocated : Bool) : Prop where
  isUnicast : espBleMeshAddrIsUnicast unicast = true
  room : table.HasRoom
  memory : allocated = true

theorem provisionerAddProvDevInfo_of_records {table : SlotTable ProvNodeInfo capacity}
    {unicast : UInt16} {allocated : Bool} (records : Records table unicast allocated)
    (uuid : Uuid) (elemNum : UInt8) :
    ∃ index < capacity, table.get index = none ∧
      (provisionerAddProvDevInfo table (some uuid) unicast elemNum allocated).2 =
        table.set index (some (ProvNodeInfo.new index uuid unicast elemNum)) := by
  rcases SlotTable.scan_of_hasRoom records.room fun _ => rfl with ⟨index, stop⟩
  rcases SlotTable.scan_free stop with ⟨inside, free, -⟩
  refine ⟨index, inside, free, ?_⟩
  simp [provisionerAddProvDevInfo, records.isUnicast, records.memory, stop]

theorem provisionerAddProvDevInfo_of_not_records {table : SlotTable ProvNodeInfo capacity}
    {unicast : UInt16} {allocated : Bool} (skips : ¬ Records table unicast allocated)
    (uuid : Uuid) (elemNum : UInt8) :
    (provisionerAddProvDevInfo table (some uuid) unicast elemNum allocated).2 = table := by
  simp only [provisionerAddProvDevInfo]
  split
  · rfl
  next isUnicast =>
    by_cases room : table.HasRoom
    · have failed : allocated = false := by
        by_contra memory
        exact skips ⟨by simpa using isUnicast, room, by simpa using memory⟩
      rcases SlotTable.scan_of_hasRoom room fun _ => rfl with ⟨index, stop⟩
      simp [stop, failed]
    · rw [SlotTable.scan_of_not_hasRoom room fun _ => rfl]

/-- A new record goes behind the records that are there. -/
theorem filledBy_of_records {table : SlotTable ProvNodeInfo capacity}
    {records : List ProvNodeInfo} (filled : table.FilledBy records) {unicast : UInt16}
    {allocated : Bool} (stores : Records table unicast allocated) (uuid : Uuid)
    (elemNum : UInt8) :
    (provisionerAddProvDevInfo table (some uuid) unicast elemNum allocated).2.FilledBy
      (records ++ [ProvNodeInfo.new records.length uuid unicast elemNum]) := by
  have room := filled.hasRoom_iff.mp stores.room
  have never : ∀ record : ProvNodeInfo, (fun _ => false : ProvNodeInfo → Bool) record = false :=
    fun _ => rfl
  have stop := filled.scan_eq never
  rw [if_pos room] at stop
  simp only [provisionerAddProvDevInfo, stores.isUnicast, stores.memory, stop, if_true,
    Bool.true_eq_false, if_false]
  exact filled.set_append room _

end BleMesh.Provisioner
