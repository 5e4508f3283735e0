import BleMesh.Provisioner.UnprovTable

/-! # Provisioning a listed device

The devices that have advertised themselves are listed under their index in the table,
and a device is provisioned by its index. Between the two the table goes on filling up
with what is received.
-/

namespace BleMesh.Provisioner

open Foundation Foundation.Execution

variable {capacity : Nat}

/-- The flags of `esp_ble_mesh_dev_add_flag_t`. -/
inductive DevAddFlag
  | rmAfterProv
  | startProvNow
  | flushableDev
  deriving DecidableEq

/-- The answer of the stack to `esp_ble_mesh_provisioner_add_unprov_dev`. -/
abbrev AddUnprovDev := UnprovDevAdd → List DevAddFlag → Int

def espBleMeshProvAdv : UInt8 := 1

def getUnprovDev (table : SlotTable UnprovDevAdd capacity) (idx : UInt8) :
    Option UnprovDevAdd :=
  if capacity ≤ idx.toNat then none else table.get idx.toNat

/-- What `provisioner_add_dev_to_node` returns and leaves behind, and the device it has
handed to the stack. -/
structure AddDevToNode (capacity : Nat) where
  answer : Int
  table : SlotTable UnprovDevAdd capacity
  handed : Option UnprovDevAdd

def provisionerAddDevToNode (table : SlotTable UnprovDevAdd capacity) (idx : UInt8)
    (addUnprovDev : AddUnprovDev) : AddDevToNode capacity :=
  if capacity ≤ idx.toNat then { answer := -1, table, handed := none }
  else
    match getUnprovDev table idx with
    | none => { answer := -1, table, handed := none }
    | some deviceToAdd =>
        if addUnprovDev deviceToAdd [.rmAfterProv, .startProvNow, .flushableDev] ≠ 0 then
          { answer := -1, table, handed := some deviceToAdd }
        else
          { answer := 0, table := removeUnprovDev table idx, handed := some deviceToAdd }

/-- What is printed for a device. -/
structure UnprovListing where
  deviceId : Nat
  device : UnprovDevAdd
  bearer : String
  deriving DecidableEq

def provisionerLogUnprovDevInfo (table : SlotTable UnprovDevAdd capacity) :
    List UnprovListing :=
  (List.range capacity).filterMap fun deviceId =>
    (table.get deviceId).map fun device =>
      { deviceId, device,
        bearer := if device.bearer &&& espBleMeshProvAdv ≠ 0 then "PB-ADV" else "PB-GATT" }

/-- What `recv_unprov_adv_pkt` is told of an advertisement and stores. -/
structure UnprovAdvPkt where
  devUuid : Uuid
  addr : BdAddr
  addrType : UInt8
  oobInfo : UInt16
  bearer : UInt8

/-- The answer of `provisioner_add_unprov_dev_info` is not looked at. -/
def recvUnprovAdvPkt (table : SlotTable UnprovDevAdd capacity) (packet : UnprovAdvPkt)
    (allocated : Bool) : SlotTable UnprovDevAdd capacity :=
  let addDev : UnprovDevAdd :=
    { addr := packet.addr, addrType := packet.addrType, uuid := packet.devUuid,
      oobInfo := packet.oobInfo, bearer := packet.bearer }
  (provisionerAddUnprovDevInfo table (some addDev) allocated).2

/-- What happens to the table: an advertisement is received, or a UART command lists the
devices or names one. -/
inductive DeviceEvent
  | recvUnprovAdvPkt (packet : UnprovAdvPkt) (allocated : Bool)
  | listUnprovNodes
  | addNodeIdx (idx : UInt8) (addUnprovDev : AddUnprovDev)

def deviceStep (table : SlotTable UnprovDevAdd capacity) :
    DeviceEvent → Option (SlotTable UnprovDevAdd capacity)
  | .recvUnprovAdvPkt packet allocated => some (recvUnprovAdvPkt table packet allocated)
  | .listUnprovNodes => some table
  | .addNodeIdx idx addUnprovDev =>
      some (provisionerAddDevToNode table idx addUnprovDev).table

/-- The device at the index is added with success. -/
def AddsNode (table : SlotTable UnprovDevAdd capacity) (index : Nat) : DeviceEvent → Prop
  | .addNodeIdx idx addUnprovDev =>
      idx.toNat = index ∧ (provisionerAddDevToNode table idx addUnprovDev).answer = 0
  | _ => False

/-- No step of the run adds the device at the index with success. -/
def NeverAdded (table : SlotTable UnprovDevAdd capacity) (events : List DeviceEvent)
    (index : Nat) : Prop :=
  ∀ performed ∈ taken deviceStep table events, ¬ AddsNode performed.1 index performed.2

/-! ## What a call leaves alone -/

theorem get_removeUnprovDev_other (table : SlotTable UnprovDevAdd capacity) {idx : UInt8}
    {index : Nat} (different : index ≠ idx.toNat) :
    (removeUnprovDev table idx).get index = table.get index := by
  rw [removeUnprovDev]
  split
  · rfl
  · split
    · rfl
    · exact SlotTable.get_set_other table different none

/-- An advertisement fills a free slot or none. -/
theorem get_recvUnprovAdvPkt {table : SlotTable UnprovDevAdd capacity} {index : Nat}
    {device : UnprovDevAdd} (held : table.get index = some device) (packet : UnprovAdvPkt)
    (allocated : Bool) : (recvUnprovAdvPkt table packet allocated).get index = some device := by
  simp only [recvUnprovAdvPkt, provisionerAddUnprovDevInfo]
  cases stop : table.scan fun stored => stored.addr == packet.addr with
  | held _ => exact held
  | full => exact held
  | free other =>
      rcases SlotTable.scan_free stop with ⟨_, free, _⟩
      cases allocated with
      | false => exact held
      | true =>
          have different : index ≠ other := by
            intro same
            rw [same, free] at held
            cases held
          exact (SlotTable.get_set_other table different _).trans held

/-- The ways an addition can go. -/
theorem addDevToNode_cases (table : SlotTable UnprovDevAdd capacity) (idx : UInt8)
    (addUnprovDev : AddUnprovDev) :
    ((provisionerAddDevToNode table idx addUnprovDev).answer = -1 ∧
        (provisionerAddDevToNode table idx addUnprovDev).table = table) ∨
      ((provisionerAddDevToNode table idx addUnprovDev).answer = 0 ∧
        (provisionerAddDevToNode table idx addUnprovDev).table = removeUnprovDev table idx) := by
  rw [provisionerAddDevToNode]
  split
  · exact Or.inl ⟨rfl, rfl⟩
  · split
    · exact Or.inl ⟨rfl, rfl⟩
    · split
      · exact Or.inl ⟨rfl, rfl⟩
      · exact Or.inr ⟨rfl, rfl⟩

/-- The stack is handed what is in the slot. -/
theorem handed_eq (table : SlotTable UnprovDevAdd capacity) (idx : UInt8)
    (addUnprovDev : AddUnprovDev) :
    (provisionerAddDevToNode table idx addUnprovDev).handed = table.get idx.toNat := by
  rw [provisionerAddDevToNode, getUnprovDev]
  split
  next outside =>
    cases held : table.get idx.toNat with
    | none => rfl
    | some device => exact absurd (SlotTable.index_lt_of_get held) (Nat.not_lt.mpr outside)
  next inside =>
    cases held : table.get idx.toNat with
    | none => rfl
    | some device =>
        dsimp only
        split <;> rfl

/-- A device stays in its slot until it is added with success. -/
theorem get_of_deviceStep {table next : SlotTable UnprovDevAdd capacity} {event : DeviceEvent}
    {index : Nat} {device : UnprovDevAdd} (held : table.get index = some device)
    (notAdded : ¬ AddsNode table index event) (happens : deviceStep table event = some next) :
    next.get index = some device := by
  cases event with
  | recvUnprovAdvPkt packet allocated =>
      cases happens
      exact get_recvUnprovAdvPkt held packet allocated
  | listUnprovNodes =>
      cases happens
      exact held
  | addNodeIdx idx addUnprovDev =>
      cases happens
      rcases addDevToNode_cases table idx addUnprovDev with
        ⟨_, unchanged⟩ | ⟨succeeded, removed⟩
      · rw [unchanged]
        exact held
      · have different : index ≠ idx.toNat := by
          intro same
          exact notAdded ⟨same.symm, succeeded⟩
        rw [removed, get_removeUnprovDev_other table different]
        exact held

/-- The list shows exactly the occupied slots, each with its device. -/
theorem listed_iff (table : SlotTable UnprovDevAdd capacity) (index : Nat)
    (device : UnprovDevAdd) :
    (∃ listed ∈ provisionerLogUnprovDevInfo table,
        listed.deviceId = index ∧ listed.device = device) ↔
      table.get index = some device := by
  constructor
  · intro shown
    rcases shown with ⟨listed, shown, rfl, rfl⟩
    rcases List.mem_filterMap.mp shown with ⟨deviceId, _, printed⟩
    rcases Option.map_eq_some_iff.mp printed with ⟨device, held, rfl⟩
    exact held
  · intro held
    have inside : index ∈ List.range capacity :=
      List.mem_range.mpr (SlotTable.index_lt_of_get held)
    let listed : UnprovListing :=
      { deviceId := index, device
        bearer := if device.bearer &&& espBleMeshProvAdv ≠ 0 then "PB-ADV" else "PB-GATT" }
    have printed : listed ∈ provisionerLogUnprovDevInfo table := by
      apply List.mem_filterMap.mpr
      refine ⟨index, inside, ?_⟩
      rw [held]
      rfl
    exact ⟨listed, printed, rfl, rfl⟩

/-- From a table that has been listed, and after anything that may happen then: a device
is still in the slot in which it was unless it has been added with success, an addition
hands the device that the list showed to the stack, and a failed one changes nothing. -/
theorem listed_index_stays_valid {listedTable table : SlotTable UnprovDevAdd capacity}
    {events : List DeviceEvent} (runs : run deviceStep listedTable events = some table) :
    (∀ index device, listedTable.get index = some device →
      NeverAdded listedTable events index → table.get index = some device) ∧
    ∀ idx addUnprovDev,
      (∀ listed ∈ provisionerLogUnprovDevInfo listedTable, listed.deviceId = idx.toNat →
        NeverAdded listedTable events idx.toNat →
        (provisionerAddDevToNode table idx addUnprovDev).handed = some listed.device) ∧
      ((provisionerAddDevToNode table idx addUnprovDev).answer = -1 →
        (provisionerAddDevToNode table idx addUnprovDev).table = table) := by
  have stays : ∀ index device, listedTable.get index = some device →
      NeverAdded listedTable events index → table.get index = some device := by
    intro index device held never
    exact invariant_of_run_taken (fun _ _ _ => get_of_deviceStep) held never runs
  refine ⟨stays, ?_⟩
  intro idx addUnprovDev
  refine ⟨?_, ?_⟩
  · intro listed shown named never
    rw [handed_eq, ← named]
    rw [← named] at never
    have held : listedTable.get listed.deviceId = some listed.device :=
      (listed_iff listedTable _ _).mp ⟨listed, shown, rfl, rfl⟩
    exact stays listed.deviceId listed.device held never
  · intro failed
    rcases addDevToNode_cases table idx addUnprovDev with ⟨_, unchanged⟩ | ⟨succeeded, _⟩
    · exact unchanged
    · rw [failed] at succeeded
      cases succeeded

/-- One device is listed. -/
def oneListed : SlotTable UnprovDevAdd provMaxUnprovDevCnt :=
  SlotTable.empty.set 0 (some firstSeen)

/-- The stack refuses the device, and another device advertises itself. -/
def refusedEvents : List DeviceEvent :=
  [.addNodeIdx 0 (fun _ _ => 1),
    .recvUnprovAdvPkt { devUuid := 2, addr := 0xB, addrType := 0, oobInfo := 0, bearer := 1 }
      true]

/-- A second attempt hands over the same device. -/
theorem listed_index_stays_valid_refused :
    (provisionerAddDevToNode (oneListed.set 1 (some seenAgain)) 0 fun _ _ => 0).handed =
      some firstSeen := by
  have never : NeverAdded oneListed refusedEvents 0 := by
    intro performed member
    have steps : taken deviceStep oneListed refusedEvents =
        refusedEvents.map fun event => (oneListed, event) := rfl
    rw [steps] at member
    rcases List.mem_map.mp member with ⟨event, eventMember, rfl⟩
    rcases List.mem_cons.mp eventMember with rfl | eventMember
    · intro added
      cases added.2
    · rw [List.mem_singleton.mp eventMember]
      exact id
  have runs : run deviceStep oneListed refusedEvents =
      some (oneListed.set 1 (some seenAgain)) := rfl
  exact ((listed_index_stays_valid runs).2 0 _).1
    { deviceId := 0, device := firstSeen, bearer := "PB-ADV" } (by decide) rfl never

end BleMesh.Provisioner
