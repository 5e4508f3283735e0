import BleMesh.Provisioner.Agreement

/-! # Whose record a composition reply fills

The callback finds the sender of a reply by address range in `nodes`; the parser
finds it again as the first record in `prov_node_info` with the address. The first
lookup is right whenever the stack keeps the ranges of the devices disjoint. The second
is right only as long as no older record has the address.
-/

namespace BleMesh.Provisioner

open Foundation Foundation.Execution

variable {capacity : Nat}

/-! ## Address ranges -/

namespace Device

/-- The address is one of the device's elements. -/
def Covers (device : Device) (address : Nat) : Prop :=
  device.unicast.toNat ≤ address ∧ address < device.unicast.toNat + device.elemNum

def Disjoint (left right : Device) : Prop :=
  left.elemNum = 0 ∨ right.elemNum = 0 ∨
    left.unicast.toNat + left.elemNum ≤ right.unicast.toNat ∨
    right.unicast.toNat + right.elemNum ≤ left.unicast.toNat

instance (left right : Device) : Decidable (Disjoint left right) :=
  inferInstanceAs (Decidable (_ ∨ _ ∨ _ ∨ _))

theorem disjoint_iff (left right : Device) :
    left.Disjoint right ↔ ∀ address, ¬ (left.Covers address ∧ right.Covers address) := by
  constructor
  · intro disjoint address both
    simp only [Disjoint, Covers] at disjoint both
    omega
  · intro apart
    have lower := apart left.unicast.toNat
    have upper := apart right.unicast.toNat
    simp only [Disjoint, Covers] at lower upper ⊢
    omega

theorem Disjoint.symm {left right : Device} (disjoint : left.Disjoint right) :
    right.Disjoint left := by
  simp only [Disjoint] at disjoint ⊢
  omega

theorem covers_unicast_iff (device : Device) :
    device.Covers device.unicast.toNat ↔ device.elemNum ≠ 0 := by
  simp only [Covers]
  omega

end Device

theorem covers_iff (node : NodeInfo) (unicast : UInt16) :
    node.covers unicast = true ↔ node.device.Covers unicast.toNat := by
  simp [NodeInfo.covers, Device.Covers, NodeInfo.device, UInt16.le_iff_toNat_le]

/-! ## Histories -/

/-- The provisioner together with the latest provisioning of each device. -/
structure History (capacity : Nat) where
  provisioner : ProvisionerState capacity
  current : List Device

def History.initial : History capacity where
  provisioner := ProvisionerState.initial
  current := []

/-- The stack keeps the address ranges of distinct devices disjoint. -/
def rangeIsFree (current : List Device) (device : Device) : Bool :=
  current.all fun other => other.uuid == device.uuid || decide (other.Disjoint device)

def historyStep (history : History capacity) (event : Provisioning) :
    Option (History capacity) :=
  if rangeIsFree history.current event.param.device then
    (provisionStep history.provisioner event).map fun provisioner =>
      { provisioner, current := upsert Device.uuid history.current event.param.device }
  else none

/-- The record the parser selects for the device's address is the device's. -/
def SelectsRecord (table : SlotTable ProvNodeInfo capacity) (device : Device) : Prop :=
  ∃ index record, findProvNode table device.unicast = some (index, record) ∧
    record.uuid = device.uuid ∧ record.elementNum = device.elemNum

/-- Whatever a reply from the device's address is, parsing it changes no record but
the one selected, which stays the device's. -/
def FillsOwnRecord (table : SlotTable ProvNodeInfo capacity) (device : Device) : Prop :=
  ∀ malloc reply code after, (parseCompositionData table malloc reply device.unicast).returned =
      some (code, after) →
    ∃ index record, findProvNode table device.unicast = some (index, record) ∧
      (∃ filled, after.get index = some filled ∧ filled.uuid = device.uuid ∧
        filled.elementNum = device.elemNum) ∧
      ∀ other, other ≠ index → after.get other = table.get other

/-- A reply from the primary address of the device is attributed to the device by the
callback and by the parser. -/
structure Attributed (provisioner : ProvisionerState capacity) (device : Device) : Prop where
  node : ∃ node, exampleBleMeshGetNodeInfo provisioner.nodes device.unicast = some node ∧
    node.uuid = device.uuid
  selects : SelectsRecord provisioner.provNodeInfo device
  fills : FillsOwnRecord provisioner.provNodeInfo device

def RepliesAttributed (history : History capacity) : Prop :=
  ∀ device ∈ history.current, Attributed history.provisioner device

/-- The device has elements, and the first record with its address is its own: one
that is there already, or else the one that is stored now. -/
structure KeepsAttribution (history : History capacity) (event : Provisioning) : Prop where
  elements : event.param.elemNum ≠ 0
  present : ∀ index record,
    findProvNode history.provisioner.provNodeInfo event.param.unicast = some (index, record) →
      record.uuid = event.param.uuid ∧ record.elementNum = event.param.elemNum.toNat
  absent : findProvNode history.provisioner.provNodeInfo event.param.unicast = none →
    Records history.provisioner.provNodeInfo event.param.unicast event.answers.allocated

/-! ## The parser's lookup -/

theorem fillsOwnRecord_of_selects {table : SlotTable ProvNodeInfo capacity} {device : Device}
    (selects : SelectsRecord table device) : FillsOwnRecord table device := by
  rcases selects with ⟨index, record, found, uuid, elementNum⟩
  intro malloc reply code after returned
  refine ⟨index, record, found, ?_⟩
  have held := (SlotTable.find_some found).1
  have inside := SlotTable.index_lt_of_get held
  cases parseCompositionData_effect returned with
  | rejected => exact ⟨⟨record, held, uuid, elementNum⟩, fun _ _ => rfl⟩
  | noMemory header foundAgain =>
      rw [found] at foundAgain
      cases foundAgain
      refine ⟨⟨_, SlotTable.get_set_same table inside _, uuid, elementNum⟩, ?_⟩
      intro other different
      exact SlotTable.get_set_other table different _
  | stored header foundAgain length models =>
      rw [found] at foundAgain
      cases foundAgain
      refine ⟨⟨_, SlotTable.get_set_same table inside _, uuid, elementNum⟩, ?_⟩
      intro other different
      exact SlotTable.get_set_other table different _

/-- The selected record in a table that is filled from the front. -/
theorem selectsRecord_iff {table : SlotTable ProvNodeInfo capacity}
    {records : List ProvNodeInfo} (filled : table.FilledBy records) (device : Device) :
    SelectsRecord table device ↔
      ∃ record, records.find? (fun record => record.unicastAddress == device.unicast) =
        some record ∧ record.uuid = device.uuid ∧ record.elementNum = device.elemNum := by
  rw [← filled.find_eq]
  simp only [SelectsRecord, findProvNode, Option.map_eq_some_iff, Prod.exists]
  constructor
  · intro owner
    rcases owner with ⟨index, record, found, owned⟩
    exact ⟨record, ⟨index, record, found, rfl⟩, owned⟩
  · intro owner
    rcases owner with ⟨record, ⟨index, _, found, rfl⟩, owned⟩
    exact ⟨index, _, found, owned⟩

/-! ## The callback's lookup -/

/-- What holds along every history: `nodes` is the list of latest provisionings, and
their ranges are disjoint. -/
structure Consistent (history : History capacity) (stored : List NodeInfo)
    (records : List ProvNodeInfo) : Prop where
  tables : Tables history.provisioner stored records
  current : history.current = stored.map NodeInfo.device
  isUnicast : ∀ device ∈ history.current, espBleMeshAddrIsUnicast device.unicast = true
  apart : ∀ device ∈ history.current, ∀ other ∈ history.current,
    other.uuid ≠ device.uuid → other.Disjoint device

theorem Consistent.distinct {history : History capacity} {stored : List NodeInfo}
    {records : List ProvNodeInfo} (consistent : Consistent history stored records) :
    (history.current.map Device.uuid).Nodup := by
  rw [consistent.current, List.map_map]
  exact consistent.tables.hold.distinct

theorem Consistent.eq_of_uuid {history : History capacity} {stored : List NodeInfo}
    {records : List ProvNodeInfo} (consistent : Consistent history stored records)
    {device other : Device} (member : device ∈ history.current)
    (otherMember : other ∈ history.current) (sameUuid : other.uuid = device.uuid) :
    other = device :=
  List.inj_on_of_nodup_map consistent.distinct otherMember member sameUuid

/-- The callback finds the sender itself, unless it has no elements. -/
theorem Consistent.finds_node_iff {history : History capacity} {stored : List NodeInfo}
    {records : List ProvNodeInfo} (consistent : Consistent history stored records)
    {device : Device} (member : device ∈ history.current) :
    (∃ node, exampleBleMeshGetNodeInfo history.provisioner.nodes device.unicast = some node ∧
        node.uuid = device.uuid) ↔ device.elemNum ≠ 0 := by
  rw [getNodeInfo_eq consistent.tables.hold (consistent.isUnicast device member)]
  have deviceOf : ∀ node ∈ stored, node.device ∈ history.current := by
    intro node nodeMember
    rw [consistent.current]
    exact List.mem_map_of_mem nodeMember
  constructor
  · intro finds
    rcases finds with ⟨node, found, sameUuid⟩
    have covers := List.find?_some found
    rw [covers_iff, consistent.eq_of_uuid member (deviceOf node (List.mem_of_find?_eq_some found))
      sameUuid] at covers
    exact device.covers_unicast_iff.mp covers
  · intro elements
    have ownCovers := device.covers_unicast_iff.mpr elements
    have ownNode := member
    rw [consistent.current, List.mem_map] at ownNode
    rcases ownNode with ⟨own, ownMember, ownDevice⟩
    cases found : stored.find? fun node => node.covers device.unicast with
    | none =>
        have misses := List.find?_eq_none.mp found own ownMember
        rw [covers_iff, ownDevice] at misses
        exact absurd ownCovers misses
    | some node =>
        refine ⟨node, rfl, ?_⟩
        by_contra otherUuid
        have covers := List.find?_some found
        rw [covers_iff] at covers
        have apart := consistent.apart device member node.device
          (deviceOf node (List.mem_of_find?_eq_some found)) otherUuid
        exact (Device.disjoint_iff _ _).mp apart device.unicast.toNat ⟨covers, ownCovers⟩

theorem attributed_iff {history : History capacity} {stored : List NodeInfo}
    {records : List ProvNodeInfo} (consistent : Consistent history stored records)
    {device : Device} (member : device ∈ history.current) :
    Attributed history.provisioner device ↔
      device.elemNum ≠ 0 ∧ SelectsRecord history.provisioner.provNodeInfo device := by
  rw [← consistent.finds_node_iff member]
  constructor
  · intro attributed
    exact ⟨attributed.node, attributed.selects⟩
  · intro selectsOne
    rcases selectsOne with ⟨node, selects⟩
    exact ⟨node, selects, fillsOwnRecord_of_selects selects⟩

/-! ## Steps -/

theorem provisionStep_of_historyStep {history next : History capacity} {event : Provisioning}
    (happens : historyStep history event = some next) :
    rangeIsFree history.current event.param.device = true ∧
      provisionStep history.provisioner event = some next.provisioner ∧
      next.current = upsert Device.uuid history.current event.param.device := by
  simp only [historyStep] at happens
  split at happens
  next free =>
    rcases Option.map_eq_some_iff.mp happens with ⟨provisioner, provisioned, equal⟩
    cases equal
    exact ⟨free, provisioned, rfl⟩
  · cases happens

theorem disjoint_of_rangeIsFree {current : List Device} {device other : Device}
    (free : rangeIsFree current device = true) (member : other ∈ current)
    (different : other.uuid ≠ device.uuid) : other.Disjoint device := by
  have checked := List.all_eq_true.mp free other member
  simpa [different] using checked

theorem consistent_of_step {history next : History capacity} {event : Provisioning}
    (happens : historyStep history event = some next) {stored : List NodeInfo}
    {records : List ProvNodeInfo} (consistent : Consistent history stored records)
    {nextRecords : List ProvNodeInfo}
    (filled : next.provisioner.provNodeInfo.FilledBy nextRecords) :
    Consistent next (upsert NodeInfo.uuid stored event.param.node) nextRecords := by
  rcases provisionStep_of_historyStep happens with ⟨free, provisioned, current⟩
  have effect := provisioned_of_step provisioned consistent.tables
  refine ⟨⟨effect.hold, filled⟩, ?_, ?_, ?_⟩
  · rw [current, consistent.current]
    exact (map_upsert fun _ => rfl).symm
  · intro device member
    rw [current, mem_upsert_iff] at member
    rcases member with rfl | ⟨member, -⟩
    · exact effect.isUnicast
    · exact consistent.isUnicast device member
  · intro device member other otherMember different
    rw [current, mem_upsert_iff] at member otherMember
    rcases member with rfl | ⟨member, -⟩ <;> rcases otherMember with rfl | ⟨otherMember, -⟩
    · exact absurd rfl different
    · exact disjoint_of_rangeIsFree free otherMember different
    · exact (disjoint_of_rangeIsFree free member different.symm).symm
    · exact consistent.apart device member other otherMember different

/-- The first of the records with an address. -/
def firstRecord (records : List ProvNodeInfo) (unicast : UInt16) : Option ProvNodeInfo :=
  records.find? fun record => record.unicastAddress == unicast

theorem findProvNode_eq {table : SlotTable ProvNodeInfo capacity} {records : List ProvNodeInfo}
    (filled : table.FilledBy records) (unicast : UInt16) :
    (findProvNode table unicast).map Prod.snd = firstRecord records unicast :=
  filled.find_eq _

/-- The records behind a provisioning, as the lookup sees them. -/
theorem firstRecord_append_new (records : List ProvNodeInfo) (event : Provisioning)
    (unicast : UInt16) :
    firstRecord (records ++ [ProvNodeInfo.new records.length event.param.uuid
        event.param.unicast event.param.elemNum]) unicast =
      (firstRecord records unicast).or
        (if event.param.unicast = unicast then some (ProvNodeInfo.new records.length
          event.param.uuid event.param.unicast event.param.elemNum) else none) := by
  rw [firstRecord, List.find?_append, List.find?_singleton]
  simp [firstRecord, ProvNodeInfo.new]

/-- A provisioning at another address leaves the lookup of a device alone. -/
theorem selectsRecord_other_iff {provisioner next : ProvisionerState capacity}
    {event : Provisioning} {stored : List NodeInfo} {records : List ProvNodeInfo}
    (provisioned : Provisioned provisioner next event stored records)
    (filled : provisioner.provNodeInfo.FilledBy records) {device : Device}
    (elsewhere : event.param.unicast ≠ device.unicast) :
    SelectsRecord next.provNodeInfo device ↔ SelectsRecord provisioner.provNodeInfo device := by
  by_cases recorded : Records provisioner.provNodeInfo event.param.unicast
      event.answers.allocated
  · rw [selectsRecord_iff (provisioned.recorded recorded), selectsRecord_iff filled,
      ← firstRecord, firstRecord_append_new, if_neg elsewhere, Option.or_none]
    rfl
  · rw [provisioned.skipped recorded]

/-- The lookup of the device that has just been provisioned. -/
theorem selectsRecord_own_iff {provisioner next : ProvisionerState capacity}
    {event : Provisioning} {stored : List NodeInfo} {records : List ProvNodeInfo}
    (provisioned : Provisioned provisioner next event stored records)
    (filled : provisioner.provNodeInfo.FilledBy records) :
    SelectsRecord next.provNodeInfo event.param.device ↔
      (∀ index record,
        findProvNode provisioner.provNodeInfo event.param.unicast = some (index, record) →
          record.uuid = event.param.uuid ∧ record.elementNum = event.param.elemNum.toNat) ∧
      (findProvNode provisioner.provNodeInfo event.param.unicast = none →
        Records provisioner.provNodeInfo event.param.unicast event.answers.allocated) := by
  have lookup := findProvNode_eq filled event.param.unicast
  have unicast : event.param.device.unicast = event.param.unicast := rfl
  have uuid : event.param.device.uuid = event.param.uuid := rfl
  have elemNum : event.param.device.elemNum = event.param.elemNum.toNat := rfl
  by_cases recorded : Records provisioner.provNodeInfo event.param.unicast
      event.answers.allocated
  · rw [selectsRecord_iff (provisioned.recorded recorded), ← firstRecord,
      firstRecord_append_new, unicast, if_pos rfl, ← lookup, uuid, elemNum]
    cases findProvNode provisioner.provNodeInfo event.param.unicast with
    | none => simp [recorded, ProvNodeInfo.new]
    | some selected =>
        rcases selected with ⟨index, record⟩
        simp [recorded]
  · rw [provisioned.skipped recorded, SelectsRecord, unicast, uuid, elemNum]
    cases findProvNode provisioner.provNodeInfo event.param.unicast with
    | none => simp [recorded]
    | some selected =>
        rcases selected with ⟨index, record⟩
        simp [recorded]

/-- A step from a state in which replies are attributed leads to such a state exactly
if it meets the condition. -/
theorem repliesAttributed_iff_of_step {history next : History capacity} {event : Provisioning}
    (happens : historyStep history event = some next) {stored : List NodeInfo}
    {records : List ProvNodeInfo} (consistent : Consistent history stored records)
    (attributed : RepliesAttributed history) :
    RepliesAttributed next ↔ KeepsAttribution history event := by
  rcases provisionStep_of_historyStep happens with ⟨free, provisioned, current⟩
  have effect := provisioned_of_step provisioned consistent.tables
  rcases effect.exists_tables consistent.tables with ⟨_, nextRecords, nextTables⟩
  have nextConsistent := consistent_of_step happens consistent nextTables.filled
  have filled := consistent.tables.filled
  have ownMember : event.param.device ∈ next.current := by
    rw [current, mem_upsert_iff]
    exact Or.inl rfl
  have own := attributed_iff nextConsistent ownMember
  rw [selectsRecord_own_iff effect filled] at own
  have ownElements : event.param.device.elemNum ≠ 0 ↔ event.param.elemNum ≠ 0 := by
    refine not_congr ?_
    exact UInt8.toNat_inj (b := 0)
  constructor
  · intro nextAttributed
    rcases own.mp (nextAttributed _ ownMember) with ⟨elements, present, absent⟩
    exact ⟨ownElements.mp elements, present, absent⟩
  · intro keeps device member
    have device_mem := member
    rw [current, mem_upsert_iff] at member
    rcases member with rfl | ⟨member, different⟩
    · exact own.mpr ⟨ownElements.mpr keeps.elements, keeps.present, keeps.absent⟩
    · have before := (attributed_iff consistent member).mp (attributed device member)
      refine (attributed_iff nextConsistent device_mem).mpr ⟨before.1, ?_⟩
      rw [selectsRecord_other_iff effect filled]
      · exact before.2
      -- Two ranges with the same first address are not disjoint.
      · intro sameAddress
        have apart := disjoint_of_rangeIsFree free member different
        have covers := device.covers_unicast_iff.mpr before.1
        have ownCovers := event.param.device.covers_unicast_iff.mpr
          (ownElements.mpr keeps.elements)
        have sameStart : event.param.device.unicast = device.unicast := sameAddress
        rw [sameStart] at ownCovers
        exact (Device.disjoint_iff _ _).mp apart _ ⟨covers, ownCovers⟩

/-- Along every history the replies of all devices are attributed in every state
exactly if each step meets the condition. -/
theorem repliesAttributed_throughout_iff (events : List Provisioning) :
    (∀ history ∈ visited historyStep (History.initial : History capacity) events,
        RepliesAttributed history) ↔
      ∀ performed ∈ taken historyStep (History.initial : History capacity) events,
        KeepsAttribution performed.1 performed.2 := by
  apply forall_visited_iff_forall_taken
    (fun history => ∃ stored records, Consistent history stored records)
  · intro history event next consistent happens
    rcases consistent with ⟨stored, records, consistent⟩
    rcases provisionStep_of_historyStep happens with ⟨-, provisioned, -⟩
    rcases (provisioned_of_step provisioned consistent.tables).exists_tables
      consistent.tables with ⟨_, nextRecords, nextTables⟩
    exact ⟨_, nextRecords, consistent_of_step happens consistent nextTables.filled⟩
  · intro history event next consistent attributed happens
    rcases consistent with ⟨stored, records, consistent⟩
    exact repliesAttributed_iff_of_step happens consistent attributed
  · refine ⟨[], [], tables_initial, rfl, ?_, ?_⟩ <;> intro device member <;> cases member
  · intro device member
    cases member

/-- A device moves to another address, and the address it leaves is given to a
second device. -/
def addressReused : List Provisioning :=
  [{ param := { nodeIdx := 0, uuid := 1, unicast := 5, elemNum := 1 }
     answers := { allocated := true, setNodeName := 0, configClientGetState := 0 } },
   { param := { nodeIdx := 0, uuid := 1, unicast := 6, elemNum := 1 }
     answers := { allocated := true, setNodeName := 0, configClientGetState := 0 } },
   { param := { nodeIdx := 1, uuid := 2, unicast := 5, elemNum := 1 }
     answers := { allocated := true, setNodeName := 0, configClientGetState := 0 } }]

/-- A reply of the second device fills the stale record of the first. -/
theorem repliesAttributed_fails_after_reuse :
    ¬ ∀ events, ∀ history ∈ visited historyStep
        (History.initial : History provMaxProvDevCnt) events, RepliesAttributed history := by
  intro always
  have ends : (run historyStep (History.initial : History provMaxProvDevCnt)
      addressReused).map (fun history => (history.current,
        (findProvNode history.provisioner.provNodeInfo 5).map fun found => found.2.uuid)) =
      some ([⟨1, 6, 1⟩, ⟨2, 5, 1⟩], some 1) := by decide
  rcases Option.map_eq_some_iff.mp ends with ⟨final, runs, values⟩
  have member : (⟨2, 5, 1⟩ : Device) ∈ final.current := by
    have current : final.current = [⟨1, 6, 1⟩, ⟨2, 5, 1⟩] := congrArg Prod.fst values
    rw [current]
    decide
  rcases (always addressReused final (mem_visited_of_run runs) _ member).selects with
    ⟨index, record, found, uuid, -⟩
  have stale := congrArg Prod.snd values
  simp only [found, Option.map_some, uuid] at stale
  exact absurd stale (by decide)

end BleMesh.Provisioner
