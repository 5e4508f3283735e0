import Mathlib.Data.List.Nodup
import BleMesh.Foundation.Execution
import BleMesh.Provisioner.Callbacks

/-! # The two node tables

`prov_complete` stores a device in `prov_node_info` and in `nodes`. Storing in `nodes`
is an upsert by UUID, storing in `prov_node_info` always appends, so the tables
part as soon as a known device is appended again.
-/

namespace BleMesh.Provisioner

open Foundation Foundation.Execution

variable {capacity : Nat}

/-- What both tables hold of a device. -/
structure Device where
  uuid : Uuid
  unicast : UInt16
  elemNum : Nat
  deriving DecidableEq

def NodeInfo.device (node : NodeInfo) : Device where
  uuid := node.uuid
  unicast := node.unicast
  elemNum := node.elemNum.toNat

def ProvNodeInfo.device (node : ProvNodeInfo) : Device where
  uuid := node.uuid
  unicast := node.unicastAddress
  elemNum := node.elementNum

def ProvCompleteParam.device (param : ProvCompleteParam) : Device := param.node.device

/-- The devices in the records of `nodes` that are in use. -/
def Nodes.devices (nodes : Nodes capacity) : List Device :=
  (nodes.entries.filter fun node => node.unicast != espBleMeshAddrUnassigned).map NodeInfo.device

/-- The devices in the occupied slots of `prov_node_info`. -/
def provDevices (table : SlotTable ProvNodeInfo capacity) : List Device :=
  table.slots.filterMap fun slot => slot.map ProvNodeInfo.device

/-! ## Lists of devices -/

/-- The lists hold the same devices, each UUID at most once. -/
structure SameDevices (left right : List Device) : Prop where
  same : ∀ device, device ∈ left ↔ device ∈ right
  leftDistinct : (left.map Device.uuid).Nodup
  rightDistinct : (right.map Device.uuid).Nodup

namespace SameDevices

variable {left right : List Device} {device : Device}

theorem uuid_mem_iff (same : SameDevices left right) (uuid : Uuid) :
    uuid ∈ left.map Device.uuid ↔ uuid ∈ right.map Device.uuid := by
  simp only [List.mem_map, same.same]

theorem length_eq (same : SameDevices left right) : left.length = right.length :=
  ((List.perm_ext_iff_of_nodup (List.Nodup.of_map _ same.leftDistinct)
    (List.Nodup.of_map _ same.rightDistinct)).mpr same.same).length_eq

/-- A new device goes into both lists. -/
theorem append_both (same : SameDevices left right)
    (fresh : device.uuid ∉ left.map Device.uuid) :
    SameDevices (left ++ [device]) (right ++ [device]) := by
  have distinct : ∀ devices : List Device, (devices.map Device.uuid).Nodup →
      device.uuid ∉ devices.map Device.uuid →
      ((devices ++ [device]).map Device.uuid).Nodup := by
    intro devices nodup absent
    rw [← upsert_of_fresh absent]
    exact distinct_upsert nodup
  refine ⟨?_, distinct left same.leftDistinct fresh,
    distinct right same.rightDistinct ((same.uuid_mem_iff _).not.mp fresh)⟩
  intro other
  rw [List.mem_append, List.mem_append, same.same]

/-- A device that only the left list is told about must be there already, unchanged. -/
theorem upsert_left_iff (same : SameDevices left right) :
    SameDevices (upsert Device.uuid left device) right ↔ device ∈ left := by
  constructor
  · intro after
    rw [same.same, ← after.same, mem_upsert_iff]
    exact Or.inl rfl
  · intro unchanged
    refine ⟨?_, distinct_upsert same.leftDistinct, same.rightDistinct⟩
    intro other
    rw [mem_upsert_iff, ← same.same]
    constructor
    · intro cases
      rcases cases with rfl | ⟨member, -⟩
      · exact unchanged
      · exact member
    · intro member
      by_cases sameUuid : other.uuid = device.uuid
      · left
        exact List.inj_on_of_nodup_map same.leftDistinct member unchanged sameUuid
      · exact Or.inr ⟨member, sameUuid⟩

/-- A device that goes into the left list and is appended to the right one must be new. -/
theorem upsert_append_iff (same : SameDevices left right) :
    SameDevices (upsert Device.uuid left device) (right ++ [device]) ↔
      device.uuid ∉ left.map Device.uuid := by
  constructor
  · intro after known
    have distinct := after.rightDistinct
    rw [List.map_append, List.nodup_append] at distinct
    exact distinct.2.2 _ ((same.uuid_mem_iff _).mp known) _ (by simp) rfl
  · intro fresh
    rw [upsert_of_fresh fresh]
    exact same.append_both fresh

end SameDevices

/-! ## Successful provisionings -/

/-- A provisioning-complete event with the answers `prov_complete` gets on it. -/
structure Provisioning where
  param : ProvCompleteParam
  answers : ProvCompleteAnswers

/-- Only events for which `prov_complete` returns ESP_OK are steps. -/
def provisionStep (provisioner : ProvisionerState capacity) (event : Provisioning) :
    Option (ProvisionerState capacity) :=
  let outcome := provComplete provisioner event.param event.answers
  if outcome.returned = espOk then some outcome.after else none

/-- The tables hold the same devices, each UUID at most once. -/
def Agree (provisioner : ProvisionerState capacity) : Prop :=
  SameDevices provisioner.nodes.devices (provDevices provisioner.provNodeInfo)

/-- A known device is not appended again and has not changed; a new one gets its
memory. -/
structure KeepsAgreement (provisioner : ProvisionerState capacity) (event : Provisioning) :
    Prop where
  known : event.param.uuid ∈ provisioner.nodes.devices.map Device.uuid →
    ¬ Records provisioner.provNodeInfo event.param.unicast event.answers.allocated ∧
      event.param.device ∈ provisioner.nodes.devices
  fresh : event.param.uuid ∉ provisioner.nodes.devices.map Device.uuid →
    event.answers.allocated = true

/-- The tables as lists. -/
structure Tables (provisioner : ProvisionerState capacity) (stored : List NodeInfo)
    (records : List ProvNodeInfo) : Prop where
  hold : provisioner.nodes.Hold stored
  filled : provisioner.provNodeInfo.FilledBy records

theorem Nodes.Hold.devices_eq {nodes : Nodes capacity} {stored : List NodeInfo}
    (hold : nodes.Hold stored) : nodes.devices = stored.map NodeInfo.device := by
  have spare : ∀ count, (List.replicate count NodeInfo.zero).filter
      (fun node => node.unicast != espBleMeshAddrUnassigned) = [] := by
    intro count
    rw [List.filter_eq_nil_iff]
    intro node member
    rw [List.eq_of_mem_replicate member]
    decide
  have inUse : stored.filter (fun node => node.unicast != espBleMeshAddrUnassigned) = stored := by
    rw [List.filter_eq_self]
    intro node member
    simpa using hold.assigned node member
  rw [Nodes.devices, hold.entries_eq, List.filter_append, inUse, spare, List.append_nil]

theorem provDevices_eq {table : SlotTable ProvNodeInfo capacity} {records : List ProvNodeInfo}
    (filled : table.FilledBy records) : provDevices table = records.map ProvNodeInfo.device := by
  simp [provDevices, filled.slots_eq, List.filterMap_append, List.filterMap_map]

theorem tables_initial : Tables (ProvisionerState.initial : ProvisionerState capacity) [] [] :=
  ⟨Nodes.hold_zeroed, SlotTable.filledBy_empty⟩

/-- What a successful provisioning does to the tables. -/
structure Provisioned (provisioner next : ProvisionerState capacity) (event : Provisioning)
    (stored : List NodeInfo) (records : List ProvNodeInfo) : Prop where
  isUnicast : espBleMeshAddrIsUnicast event.param.unicast = true
  hold : next.nodes.Hold (upsert NodeInfo.uuid stored event.param.node)
  recorded : Records provisioner.provNodeInfo event.param.unicast event.answers.allocated →
    next.provNodeInfo.FilledBy (records ++ [ProvNodeInfo.new records.length event.param.uuid
      event.param.unicast event.param.elemNum])
  skipped : ¬ Records provisioner.provNodeInfo event.param.unicast event.answers.allocated →
    next.provNodeInfo = provisioner.provNodeInfo

theorem provisioned_of_step {provisioner next : ProvisionerState capacity}
    {event : Provisioning} (happens : provisionStep provisioner event = some next)
    {stored : List NodeInfo} {records : List ProvNodeInfo}
    (tables : Tables provisioner stored records) :
    Provisioned provisioner next event stored records := by
  simp only [provisionStep] at happens
  split at happens
  next returned =>
    rcases completes_of_ok returned with ⟨nodes, completes⟩
    have storedNode := store_of_ok tables.hold completes.stores
    cases happens
    rw [completes.after]
    refine ⟨storedNode.1, storedNode.2, ?_, ?_⟩
    · intro recorded
      exact filledBy_of_records tables.filled recorded _ _
    · intro skipped
      exact provisionerAddProvDevInfo_of_not_records skipped _ _
  · cases happens

theorem Provisioned.exists_tables {provisioner next : ProvisionerState capacity}
    {event : Provisioning} {stored : List NodeInfo} {records : List ProvNodeInfo}
    (provisioned : Provisioned provisioner next event stored records)
    (tables : Tables provisioner stored records) :
    ∃ nextStored nextRecords, Tables next nextStored nextRecords := by
  by_cases recorded : Records provisioner.provNodeInfo event.param.unicast
      event.answers.allocated
  · exact ⟨_, _, provisioned.hold, provisioned.recorded recorded⟩
  · exact ⟨_, records, provisioned.hold, (provisioned.skipped recorded) ▸ tables.filled⟩

/-- A new device found room in `nodes`, so while the tables agree there is room for it in
the other one too. -/
theorem Provisioned.hasRoom {provisioner next : ProvisionerState capacity}
    {event : Provisioning} {stored : List NodeInfo} {records : List ProvNodeInfo}
    (provisioned : Provisioned provisioner next event stored records)
    (tables : Tables provisioner stored records)
    (agree : SameDevices (stored.map NodeInfo.device) (records.map ProvNodeInfo.device))
    (fresh : event.param.uuid ∉ stored.map NodeInfo.uuid) :
    provisioner.provNodeInfo.HasRoom := by
  have sameLength := agree.length_eq
  have bound := provisioned.hold.length_le
  have extended : upsert NodeInfo.uuid stored event.param.node = stored ++ [event.param.node] :=
    upsert_of_fresh fresh
  rw [extended, List.length_append, List.length_singleton] at bound
  rw [List.length_map, List.length_map] at sameLength
  rw [tables.filled.hasRoom_iff]
  omega

/-! ## The law -/

/-- A step from tables that agree leads to tables that agree exactly if it meets the
condition. -/
theorem agree_iff_of_step {provisioner next : ProvisionerState capacity} {event : Provisioning}
    (happens : provisionStep provisioner event = some next) {stored : List NodeInfo}
    {records : List ProvNodeInfo} (tables : Tables provisioner stored records)
    (agree : Agree provisioner) : Agree next ↔ KeepsAgreement provisioner event := by
  have provisioned := provisioned_of_step happens tables
  rw [Agree, tables.hold.devices_eq, provDevices_eq tables.filled] at agree
  have devices : next.nodes.devices =
      upsert Device.uuid (stored.map NodeInfo.device) event.param.device := by
    rw [provisioned.hold.devices_eq]
    exact map_upsert fun _ => rfl
  have keepsIff : KeepsAgreement provisioner event ↔
      (event.param.uuid ∈ (stored.map NodeInfo.device).map Device.uuid →
        ¬ Records provisioner.provNodeInfo event.param.unicast event.answers.allocated ∧
          event.param.device ∈ stored.map NodeInfo.device) ∧
      (event.param.uuid ∉ (stored.map NodeInfo.device).map Device.uuid →
        event.answers.allocated = true) := by
    rw [← tables.hold.devices_eq]
    exact ⟨fun keeps => ⟨keeps.known, keeps.fresh⟩, fun both => ⟨both.1, both.2⟩⟩
  have uuids : (stored.map NodeInfo.device).map Device.uuid = stored.map NodeInfo.uuid := by
    rw [List.map_map]
    rfl
  rw [Agree, devices, keepsIff]
  by_cases recorded : Records provisioner.provNodeInfo event.param.unicast
      event.answers.allocated
  · have newDevice : (ProvNodeInfo.new records.length event.param.uuid event.param.unicast
        event.param.elemNum).device = event.param.device := rfl
    rw [provDevices_eq (provisioned.recorded recorded), List.map_append, List.map_singleton,
      newDevice, agree.upsert_append_iff]
    constructor
    · intro fresh
      exact ⟨fun known => absurd known fresh, fun _ => recorded.memory⟩
    · intro keeps known
      exact (keeps.1 known).1 recorded
  · rw [provisioned.skipped recorded, provDevices_eq tables.filled, agree.upsert_left_iff]
    constructor
    · intro unchanged
      refine ⟨fun _ => ⟨recorded, unchanged⟩, ?_⟩
      intro fresh
      exact absurd (List.mem_map_of_mem unchanged) fresh
    · intro keeps
      by_cases known : event.param.uuid ∈ (stored.map NodeInfo.device).map Device.uuid
      · exact (keeps.1 known).2
      · have room := provisioned.hasRoom tables agree (uuids ▸ known)
        exact absurd ⟨provisioned.isUnicast, room, keeps.2 known⟩ recorded

/-- Along every run of successful provisionings the tables agree in every state
exactly if each step meets the condition. -/
theorem agree_throughout_iff (events : List Provisioning) :
    (∀ provisioner ∈ visited provisionStep
          (ProvisionerState.initial : ProvisionerState capacity) events, Agree provisioner) ↔
      ∀ performed ∈ taken provisionStep
          (ProvisionerState.initial : ProvisionerState capacity) events,
        KeepsAgreement performed.1 performed.2 := by
  apply forall_visited_iff_forall_taken
    (fun provisioner => ∃ stored records, Tables provisioner stored records)
  · intro provisioner event next tables happens
    rcases tables with ⟨stored, records, tables⟩
    exact (provisioned_of_step happens tables).exists_tables tables
  · intro provisioner event next tables agree happens
    rcases tables with ⟨stored, records, tables⟩
    exact agree_iff_of_step happens tables agree
  · exact ⟨[], [], tables_initial⟩
  · have tables : Tables (ProvisionerState.initial : ProvisionerState capacity) [] [] :=
      tables_initial
    rw [Agree, tables.hold.devices_eq, provDevices_eq tables.filled]
    exact ⟨by simp, by simp, by simp⟩

/-- A device is provisioned, and provisioned again to another address. -/
def reprovisioning : List Provisioning :=
  [{ param := { nodeIdx := 0, uuid := 1, unicast := 5, elemNum := 1 }
     answers := { allocated := true, setNodeName := 0, configClientGetState := 0 } },
   { param := { nodeIdx := 0, uuid := 1, unicast := 6, elemNum := 1 }
     answers := { allocated := true, setNodeName := 0, configClientGetState := 0 } }]

/-- The second provisioning leaves two records of the device in `prov_node_info`. -/
theorem agree_fails_after_reprovisioning :
    ¬ ∀ events, ∀ provisioner ∈ visited provisionStep
        (ProvisionerState.initial : ProvisionerState provMaxProvDevCnt) events,
      Agree provisioner := by
  intro always
  have ends : (run provisionStep (ProvisionerState.initial : ProvisionerState provMaxProvDevCnt)
      reprovisioning).map (fun provisioner =>
        (provDevices provisioner.provNodeInfo).map Device.uuid) = some [1, 1] := by decide
  rcases Option.map_eq_some_iff.mp ends with ⟨final, runs, uuids⟩
  have distinct := (always reprovisioning final (mem_visited_of_run runs)).rightDistinct
  rw [uuids] at distinct
  exact absurd distinct (by decide)

end BleMesh.Provisioner
