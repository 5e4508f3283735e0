import BleMesh.Foundation.Execution
import BleMesh.Provisioner.CompositionParser
import BleMesh.Provisioner.ProvTable
import BleMesh.Provisioner.UnprovTable

/-! # What the additions report

Both functions that add a device to a table answer 0 when their loop ends, whether it
stored the device, found it or ran out of slots. The answer tells what the table holds
exactly if there was room for the device or it was held already, and no allocation
failed for a device that is held further on.
-/

namespace BleMesh.Provisioner

open Foundation Foundation.Execution

variable {unprovCapacity provCapacity capacity : Nat}

/-- The static record of `provisioner_info.c` with both device tables. -/
structure ProvisionerNodeInfo (unprovCapacity provCapacity : Nat) where
  unprovDevInfo : SlotTable UnprovDevAdd unprovCapacity
  provNodeInfo : SlotTable ProvNodeInfo provCapacity

def ProvisionerNodeInfo.initial : ProvisionerNodeInfo unprovCapacity provCapacity where
  unprovDevInfo := SlotTable.empty
  provNodeInfo := SlotTable.empty

/-- The calls that change one of the tables. -/
inductive InfoCall
  | addUnprovDevInfo (unprovDeviceInfo : Option UnprovDevAdd) (allocated : Bool)
  | addProvDevInfo (uuid : Option Uuid) (unicast : UInt16) (elemNum : UInt8) (allocated : Bool)
  | removeUnprovDev (idx : UInt8)
  | parseCompositionData (malloc : Nat → Bool) (compositionBuffer : Option NetBufSimple)
      (unicast : UInt16)

/-- A failed assertion of the parser ends the program. -/
def infoStep (info : ProvisionerNodeInfo unprovCapacity provCapacity) :
    InfoCall → Option (ProvisionerNodeInfo unprovCapacity provCapacity)
  | .addUnprovDevInfo unprovDeviceInfo allocated =>
      some { info with
        unprovDevInfo :=
          (provisionerAddUnprovDevInfo info.unprovDevInfo unprovDeviceInfo allocated).2 }
  | .addProvDevInfo uuid unicast elemNum allocated =>
      some { info with
        provNodeInfo :=
          (provisionerAddProvDevInfo info.provNodeInfo uuid unicast elemNum allocated).2 }
  | .removeUnprovDev idx =>
      some { info with unprovDevInfo := removeUnprovDev info.unprovDevInfo idx }
  | .parseCompositionData malloc compositionBuffer unicast =>
      (parseCompositionData info.provNodeInfo malloc compositionBuffer unicast).returned.map
        fun result => { info with provNodeInfo := result.2 }

/-! ## Truthful answers -/

/-- The answer is 0 exactly if the table then holds the wanted entry, and after -1 the
table is as it was. -/
structure AnswersTruly {α : Type} (Wanted : α → Prop) (before : SlotTable α capacity)
    (result : Int × SlotTable α capacity) : Prop where
  zero_iff : result.1 = 0 ↔ result.2.Holds Wanted
  unchanged : result.1 = -1 → result.2 = before

theorem answersTruly_zero_iff {α : Type} {Wanted : α → Prop}
    {before after : SlotTable α capacity} :
    AnswersTruly Wanted before (0, after) ↔ after.Holds Wanted := by
  constructor
  · intro truly
    exact truly.zero_iff.mp rfl
  · intro holds
    refine ⟨iff_of_true rfl holds, ?_⟩
    intro failed
    cases failed

theorem answersTruly_failed_iff {α : Type} {Wanted : α → Prop}
    {before : SlotTable α capacity} :
    AnswersTruly Wanted before (-1, before) ↔ ¬ before.Holds Wanted := by
  constructor
  · intro truly holds
    cases truly.zero_iff.mpr holds
  · intro absent
    refine ⟨iff_of_false ?_ absent, fun _ => rfl⟩
    intro stored
    cases stored

/-- The record has the address of the device. There is none for a NULL pointer. -/
def IsOfDevice (unprovDeviceInfo : Option UnprovDevAdd) (stored : UnprovDevAdd) : Prop :=
  ∃ device, unprovDeviceInfo = some device ∧ stored.addr = device.addr

/-- The record has the UUID, the unicast address and the element count. -/
def IsOfNode (uuid : Option Uuid) (unicast : UInt16) (elemNum : UInt8)
    (record : ProvNodeInfo) : Prop :=
  uuid = some record.uuid ∧ record.unicastAddress = unicast ∧ record.elementNum = elemNum.toNat

/-- The additions tell by their answer what the table then holds. -/
def TellsTruth (info : ProvisionerNodeInfo unprovCapacity provCapacity) : InfoCall → Prop
  | .addUnprovDevInfo unprovDeviceInfo allocated =>
      AnswersTruly (IsOfDevice unprovDeviceInfo) info.unprovDevInfo
        (provisionerAddUnprovDevInfo info.unprovDevInfo unprovDeviceInfo allocated)
  | .addProvDevInfo uuid unicast elemNum allocated =>
      AnswersTruly (IsOfNode uuid unicast elemNum) info.provNodeInfo
        (provisionerAddProvDevInfo info.provNodeInfo uuid unicast elemNum allocated)
  | .removeUnprovDev _ => True
  | .parseCompositionData _ _ _ => True

/-- There is room for the device unless it is held, and memory for it unless it is not
held or comes before every free slot. -/
structure FitsUnprov (table : SlotTable UnprovDevAdd capacity) (device : UnprovDevAdd)
    (allocated : Bool) : Prop where
  room : table.HasRoom ∨ table.Holds fun stored => stored.addr = device.addr
  memory : (table.Holds fun stored => stored.addr = device.addr) →
    allocated = true ∨ table.HoldsFirst fun stored => stored.addr = device.addr

/-- There is room for the record unless it is held, and memory for it unless it is not
held or there is no room. -/
structure FitsProv (table : SlotTable ProvNodeInfo capacity) (uuid : Uuid) (unicast : UInt16)
    (elemNum : UInt8) (allocated : Bool) : Prop where
  room : table.HasRoom ∨ table.Holds (IsOfNode (some uuid) unicast elemNum)
  memory : table.Holds (IsOfNode (some uuid) unicast elemNum) →
    allocated = true ∨ ¬ table.HasRoom

/-- What is added fits. A call that its first test refuses adds nothing. -/
def AddsWhatFits (info : ProvisionerNodeInfo unprovCapacity provCapacity) : InfoCall → Prop
  | .addUnprovDevInfo unprovDeviceInfo allocated =>
      ∀ device, unprovDeviceInfo = some device → FitsUnprov info.unprovDevInfo device allocated
  | .addProvDevInfo uuid unicast elemNum allocated =>
      ∀ id, uuid = some id → espBleMeshAddrIsUnicast unicast = true →
        FitsProv info.provNodeInfo id unicast elemNum allocated
  | .removeUnprovDev _ => True
  | .parseCompositionData _ _ _ => True

/-! ## One call -/

theorem not_holds_of_null {table : SlotTable UnprovDevAdd capacity} :
    ¬ table.Holds (IsOfDevice none) := by
  intro holds
  rcases holds with ⟨index, stored, -, device, present, -⟩
  cases present

/-- One pass over a table that ends at a match or at the first free slot, where it puts
an entry if there is memory for it. -/
def addInPass {α : Type} (table : SlotTable α capacity) (isMatch : α → Bool) (entry : Nat → α)
    (allocated : Bool) : Int × SlotTable α capacity :=
  match table.scan isMatch with
  | .held _ => (0, table)
  | .free index => if allocated then (0, table.set index (some (entry index))) else (-1, table)
  | .full => (0, table)

theorem addUnprovDevInfo_eq_addInPass (table : SlotTable UnprovDevAdd capacity)
    (device : UnprovDevAdd) (allocated : Bool) :
    provisionerAddUnprovDevInfo table (some device) allocated =
      addInPass table (fun stored => stored.addr == device.addr) (fun _ => device) allocated := by
  cases stop : table.scan fun stored => stored.addr == device.addr <;>
    simp only [provisionerAddUnprovDevInfo, addInPass, stop]

theorem addProvDevInfo_eq_addInPass (table : SlotTable ProvNodeInfo capacity) (uuid : Uuid)
    {unicast : UInt16} (isUnicast : espBleMeshAddrIsUnicast unicast = true) (elemNum : UInt8)
    (allocated : Bool) :
    provisionerAddProvDevInfo table (some uuid) unicast elemNum allocated =
      addInPass table (fun _ => false)
        (fun index => ProvNodeInfo.new index uuid unicast elemNum) allocated := by
  cases stop : table.scan fun _ => false <;>
    simp only [provisionerAddProvDevInfo, isUnicast, Bool.true_eq_false, if_false, addInPass, stop]

/-- The answer of a pass is true exactly if there is room for a wanted entry that is not
held, and memory for one that is held behind the first free slot. -/
theorem answersTruly_addInPass_iff {α : Type} {Wanted : α → Prop}
    (table : SlotTable α capacity) {isMatch : α → Bool} {entry : Nat → α}
    (matchWanted : ∀ stored, isMatch stored = true → Wanted stored)
    (entryWanted : ∀ index, Wanted (entry index)) (allocated : Bool) :
    AnswersTruly Wanted table (addInPass table isMatch entry allocated) ↔
      (table.HasRoom ∨ table.Holds Wanted) ∧
        (table.Holds Wanted → allocated = true ∨ ¬ table.HasRoom ∨
          table.HoldsFirst fun stored => isMatch stored = true) := by
  rw [addInPass]
  cases stop : table.scan isMatch with
  | held index =>
      have first := SlotTable.holdsFirst_of_scan_held stop
      have holds := (first.mono matchWanted).holds
      rw [answersTruly_zero_iff]
      exact iff_of_true holds ⟨Or.inr holds, fun _ => Or.inr (Or.inr first)⟩
  | free index =>
      have notFirst := SlotTable.not_holdsFirst_of_scan_free stop
      rcases SlotTable.scan_free stop with ⟨inside, free, -⟩
      have room : table.HasRoom := ⟨index, inside, free⟩
      cases allocated with
      | true =>
          dsimp only
          rw [if_pos rfl, answersTruly_zero_iff]
          refine iff_of_true (SlotTable.holds_set_same table inside (entryWanted index)) ?_
          exact ⟨Or.inl room, fun _ => Or.inl rfl⟩
      | false => simp [answersTruly_failed_iff, room, notFirst]
  | full =>
      have noRoom := SlotTable.not_hasRoom_of_scan_full stop
      simp [answersTruly_zero_iff, noRoom]

theorem answersTruly_addUnprov_iff (table : SlotTable UnprovDevAdd capacity)
    (device : UnprovDevAdd) (allocated : Bool) :
    AnswersTruly (IsOfDevice (some device)) table
        (provisionerAddUnprovDevInfo table (some device) allocated) ↔
      FitsUnprov table device allocated := by
  have wanted : IsOfDevice (some device) = fun stored => stored.addr = device.addr := by
    funext stored
    simp [IsOfDevice]
  have matched : ∀ stored : UnprovDevAdd, (stored.addr == device.addr) = true →
      stored.addr = device.addr := fun _ => eq_of_beq
  rw [wanted, addUnprovDevInfo_eq_addInPass,
    answersTruly_addInPass_iff table matched (fun _ => rfl)]
  simp only [beq_iff_eq]
  constructor
  · intro both
    rcases both with ⟨room, memory⟩
    refine ⟨room, ?_⟩
    intro holds
    exact (memory holds).imp_right fun either => either.elim holds.first id
  · intro fits
    exact ⟨fits.room, fun holds => (fits.memory holds).imp_right Or.inr⟩

theorem answersTruly_addProv_iff (table : SlotTable ProvNodeInfo capacity) (uuid : Uuid)
    {unicast : UInt16} (isUnicast : espBleMeshAddrIsUnicast unicast = true) (elemNum : UInt8)
    (allocated : Bool) :
    AnswersTruly (IsOfNode (some uuid) unicast elemNum) table
        (provisionerAddProvDevInfo table (some uuid) unicast elemNum allocated) ↔
      FitsProv table uuid unicast elemNum allocated := by
  -- No record ends the pass, so none is found before the first free slot.
  have neverFirst : ¬ table.HoldsFirst fun _ => false = true := by
    intro first
    rcases first with ⟨_, _, _, never, _⟩
    cases never
  rw [addProvDevInfo_eq_addInPass table uuid isUnicast,
    answersTruly_addInPass_iff table (fun _ never => by cases never) (fun _ => ⟨rfl, rfl, rfl⟩)]
  simp only [neverFirst, or_false]
  constructor
  · intro both
    exact ⟨both.1, both.2⟩
  · intro fits
    exact ⟨fits.room, fits.memory⟩

/-! ## Runs -/

/-- Every record has a unicast address. -/
def UnicastRecords (table : SlotTable ProvNodeInfo capacity) : Prop :=
  ∀ index record, table.get index = some record →
    espBleMeshAddrIsUnicast record.unicastAddress = true

theorem unicastRecords_addProv {table : SlotTable ProvNodeInfo capacity}
    (before : UnicastRecords table) (uuid : Option Uuid) (unicast : UInt16) (elemNum : UInt8)
    (allocated : Bool) :
    UnicastRecords (provisionerAddProvDevInfo table uuid unicast elemNum allocated).2 := by
  cases uuid with
  | none => exact before
  | some uuid =>
      by_cases records : Records table unicast allocated
      · rcases provisionerAddProvDevInfo_of_records records uuid elemNum with
          ⟨index, -, -, stored⟩
        rw [stored]
        exact SlotTable.forall_set_some before index records.isUnicast
      · rw [provisionerAddProvDevInfo_of_not_records records]
        exact before

theorem unicastRecords_of_parseEffect {table after : SlotTable ProvNodeInfo capacity}
    (before : UnicastRecords table) {unicast : UInt16} {code : Int}
    (effect : ParseEffect table unicast code after) : UnicastRecords after := by
  cases effect with
  | rejected => exact before
  | @noMemory index node header found =>
      have isUnicast := before index node (SlotTable.find_some found).1
      exact SlotTable.forall_set_some before index isUnicast
  | @stored index node elements header found length models =>
      have isUnicast := before index node (SlotTable.find_some found).1
      exact SlotTable.forall_set_some before index isUnicast

theorem unicastRecords_of_step {info next : ProvisionerNodeInfo unprovCapacity provCapacity}
    {call : InfoCall} (before : UnicastRecords info.provNodeInfo)
    (happens : infoStep info call = some next) : UnicastRecords next.provNodeInfo := by
  cases call with
  | addUnprovDevInfo unprovDeviceInfo allocated =>
      cases happens
      exact before
  | addProvDevInfo uuid unicast elemNum allocated =>
      cases happens
      exact unicastRecords_addProv before uuid unicast elemNum allocated
  | removeUnprovDev idx =>
      cases happens
      exact before
  | parseCompositionData malloc compositionBuffer unicast =>
      rcases Option.map_eq_some_iff.mp happens with ⟨⟨code, after⟩, returns, equal⟩
      cases equal
      exact unicastRecords_of_parseEffect before (parseCompositionData_effect returns)

theorem unicastRecords_empty :
    UnicastRecords (SlotTable.empty : SlotTable ProvNodeInfo capacity) := by
  intro index record held
  simp at held

/-- No record has an address that the addition refuses. -/
theorem tellsTruth_iff {info : ProvisionerNodeInfo unprovCapacity provCapacity}
    (unicastRecords : UnicastRecords info.provNodeInfo) (call : InfoCall) :
    TellsTruth info call ↔ AddsWhatFits info call := by
  cases call with
  | addUnprovDevInfo unprovDeviceInfo allocated =>
      cases unprovDeviceInfo with
      | none => simp [TellsTruth, AddsWhatFits, provisionerAddUnprovDevInfo,
          answersTruly_failed_iff, not_holds_of_null]
      | some device => simp [TellsTruth, AddsWhatFits, answersTruly_addUnprov_iff]
  | addProvDevInfo uuid unicast elemNum allocated =>
      cases uuid with
      | none => simp [TellsTruth, AddsWhatFits, provisionerAddProvDevInfo,
          answersTruly_failed_iff, SlotTable.Holds, IsOfNode]
      | some uuid =>
          cases isUnicast : espBleMeshAddrIsUnicast unicast with
          | true => simp [TellsTruth, AddsWhatFits, isUnicast, answersTruly_addProv_iff]
          | false =>
              have absent : ¬ info.provNodeInfo.Holds (IsOfNode (some uuid) unicast elemNum) := by
                intro holds
                rcases holds with ⟨index, record, held, -, address, -⟩
                have recorded := unicastRecords index record held
                rw [address, isUnicast] at recorded
                cases recorded
              simp [TellsTruth, AddsWhatFits, provisionerAddProvDevInfo, isUnicast,
                answersTruly_failed_iff, absent]
  | removeUnprovDev idx => exact Iff.rfl
  | parseCompositionData malloc compositionBuffer unicast => exact Iff.rfl

/-- In every reachable state, whatever is called there, the answer is true exactly if what
is added fits; along a run the answers are all true exactly if all additions fit. -/
theorem tellsTruth_throughout_iff (calls : List InfoCall) :
    (∀ info ∈ visited infoStep
          (ProvisionerNodeInfo.initial : ProvisionerNodeInfo unprovCapacity provCapacity) calls,
        ∀ call, TellsTruth info call ↔ AddsWhatFits info call) ∧
      ((∀ performed ∈ taken infoStep
            (ProvisionerNodeInfo.initial : ProvisionerNodeInfo unprovCapacity provCapacity) calls,
          TellsTruth performed.1 performed.2) ↔
        ∀ performed ∈ taken infoStep
            (ProvisionerNodeInfo.initial : ProvisionerNodeInfo unprovCapacity provCapacity) calls,
          AddsWhatFits performed.1 performed.2) := by
  let Invariant := fun info : ProvisionerNodeInfo unprovCapacity provCapacity =>
    UnicastRecords info.provNodeInfo
  have keeps : ∀ info call next, Invariant info → infoStep info call = some next →
      Invariant next :=
    fun _ _ _ before happens => unicastRecords_of_step before happens
  have agree : ∀ info call, Invariant info → (TellsTruth info call ↔ AddsWhatFits info call) :=
    fun _ call unicastRecords => tellsTruth_iff unicastRecords call
  refine ⟨?_, ?_⟩
  · intro info member call
    exact agree info call
      (invariant_of_visited keeps calls unicastRecords_empty info member)
  · exact forall_taken_congr Invariant keeps agree calls unicastRecords_empty

/-- The devices that are seen differ in their addresses. -/
def sighting (seen : Nat) : UnprovDevAdd :=
  { firstSeen with addr := BitVec.ofNat 48 seen }

def sightings (count : Nat) : List InfoCall :=
  (List.range count).map fun seen => .addUnprovDevInfo (some (sighting seen)) true

/-- Ten sightings fill the table, and the eleventh is answered with 0. -/
theorem tellsTruth_fails_when_full :
    ¬ ∀ calls, ∀ info ∈ visited infoStep
        (ProvisionerNodeInfo.initial :
          ProvisionerNodeInfo provMaxUnprovDevCnt provMaxProvDevCnt) calls,
      ∀ call, TellsTruth info call := by
  intro always
  let full : ProvisionerNodeInfo provMaxUnprovDevCnt provMaxProvDevCnt :=
    { unprovDevInfo := ⟨(List.range 10).map fun seen => some (sighting seen), rfl⟩
      provNodeInfo := SlotTable.empty }
  have runs : run infoStep ProvisionerNodeInfo.initial (sightings 10) = some full := rfl
  have truly := always (sightings 10) full (mem_visited_of_run runs)
    (.addUnprovDevInfo (some (sighting 10)) true)
  rcases truly.zero_iff.mp rfl with ⟨index, stored, held, device, present, sameAddr⟩
  cases present
  have member := List.mem_of_getElem? (SlotTable.get_eq_some_iff.mp held)
  have absent : ∀ slot ∈ full.unprovDevInfo.slots, slot.map UnprovDevAdd.addr ≠ some 10 := by
    decide
  exact absent _ member (congrArg some sameAddr)

end BleMesh.Provisioner
