import BleMesh.Foundation.Execution
import BleMesh.Provisioner.Callbacks

/-! # Listing the provisioned devices

`provisioner_log_prov_dev_info` goes through the arrays of a record by the counts the
record has for them. A record gets its `element_num` when it is stored and its
elements with a reply, so a table that holds a device with elements has been unsafe to
list at least once.
-/

namespace BleMesh.Provisioner

open Foundation Foundation.Execution

variable {capacity : Nat}

/-- A line of the listing, with the values that are printed. -/
inductive ListingLine
  | node (nodeIdx : Nat) (name : String) (uuid : Uuid)
      (cid pid vid crpl features unicastAddress : UInt16) (elementNum : Nat)
  | element (elementId : UInt16) (sigModelCount : Nat)
  | sigModel (sigCnt : Nat) (sigModelId : UInt16)
  | vndModelCount (vndModelCount : Nat)
  | vndModel (vndCnt : Nat) (modelId : UInt16)

/-- `array[index]`. There is no such entry behind a NULL pointer. -/
def entryAt {α : Type} (array : Option (List α)) (index : Nat) : Option α :=
  array.bind fun entries => entries[index]?

/-- The lines printed by a counted loop, unless one of its passes fails. -/
def logLoop (body : Nat → Option (List ListingLine)) : Nat → Option (List ListingLine)
  | 0 => some []
  | count + 1 => do
      let front ← logLoop body count
      let last ← body count
      return front ++ last

/-- A loop over the first `count` entries of an array. -/
def logArray {α : Type} (log : Nat → α → Option (List ListingLine)) (array : Option (List α))
    (count : Nat) : Option (List ListingLine) :=
  logLoop (fun index => do log index (← entryAt array index)) count

def logElement (element : ElementInfo) : Option (List ListingLine) := do
  let sigModels ← logArray (fun sigCnt sigModelId => some [.sigModel sigCnt sigModelId])
    element.sigModels element.sigModelCount
  let vndModels ← logArray (fun vndCnt vndModel => some [.vndModel vndCnt vndModel.modelId])
    element.vndModels element.vndModelCount
  return .element element.elementId element.sigModelCount :: sigModels ++
    .vndModelCount element.vndModelCount :: vndModels

def logNode (nodeIdx : Nat) (node : ProvNodeInfo) : Option (List ListingLine) := do
  let elements ← logArray (fun _ element => logElement element) node.elements node.elementNum
  return .node nodeIdx node.name node.uuid node.cid node.pid node.vid node.crpl node.features
    node.unicastAddress node.elementNum :: elements

/-- The listing, or `none` when the code goes through a NULL pointer or past the end of
an array. -/
def provisionerLogProvDevInfo (table : SlotTable ProvNodeInfo capacity) :
    Option (List ListingLine) :=
  logLoop (fun nodeIdx =>
    match table.get nodeIdx with
    | none => some []
    | some node => logNode nodeIdx node) capacity

/-! ## Tables that are safe to list -/

structure ElementInfo.Complete (element : ElementInfo) : Prop where
  sig : (element.sigModels.getD []).length = element.sigModelCount
  vnd : (element.vndModels.getD []).length = element.vndModelCount

structure ProvNodeInfo.Complete (node : ProvNodeInfo) : Prop where
  elements : (node.elements.getD []).length = node.elementNum
  models : ∀ element ∈ node.elements.getD [], element.Complete

/-- In every occupied record the arrays have as many entries as their counts say. -/
def SafeToList (table : SlotTable ProvNodeInfo capacity) : Prop :=
  ∀ index node, table.get index = some node → node.Complete

theorem isSome_logLoop {body : Nat → Option (List ListingLine)} {count : Nat}
    (passes : ∀ index < count, (body index).isSome = true) :
    (logLoop body count).isSome = true := by
  induction count with
  | zero => rfl
  | succ count induction =>
      have front := induction fun index bound => passes index (Nat.lt_succ_of_lt bound)
      have last := passes count (Nat.lt_succ_self count)
      rcases Option.isSome_iff_exists.mp front with ⟨frontLines, frontEq⟩
      rcases Option.isSome_iff_exists.mp last with ⟨lastLines, lastEq⟩
      simp [logLoop, frontEq, lastEq]

theorem isSome_logArray {α : Type} {log : Nat → α → Option (List ListingLine)}
    {array : Option (List α)} {count : Nat} (complete : (array.getD []).length = count)
    (passes : ∀ index, ∀ entry ∈ array.getD [], (log index entry).isSome = true) :
    (logArray log array count).isSome = true := by
  apply isSome_logLoop
  intro index bound
  rw [← complete] at bound
  have present : entryAt array index = some (array.getD [])[index] := by
    cases array with
    | none => simp at bound
    | some entries => simp [entryAt]
  simpa [present] using passes index _ (List.getElem_mem bound)

theorem isSome_logElement {element : ElementInfo} (complete : element.Complete) :
    (logElement element).isSome = true := by
  have sig : (logArray (fun sigCnt sigModelId => some [.sigModel sigCnt sigModelId])
      element.sigModels element.sigModelCount).isSome = true :=
    isSome_logArray complete.sig fun _ _ _ => rfl
  have vnd : (logArray (fun vndCnt vndModel => some [.vndModel vndCnt vndModel.modelId])
      element.vndModels element.vndModelCount).isSome = true :=
    isSome_logArray complete.vnd fun _ _ _ => rfl
  rcases Option.isSome_iff_exists.mp sig with ⟨sigLines, sigEq⟩
  rcases Option.isSome_iff_exists.mp vnd with ⟨vndLines, vndEq⟩
  simp [logElement, sigEq, vndEq]

theorem isSome_logNode {node : ProvNodeInfo} (complete : node.Complete) (nodeIdx : Nat) :
    (logNode nodeIdx node).isSome = true := by
  have elements := isSome_logArray complete.elements fun (_ : Nat) element member =>
    isSome_logElement (complete.models element member)
  rcases Option.isSome_iff_exists.mp elements with ⟨lines, linesEq⟩
  simp [logNode, linesEq]

/-- Listing a safe table goes through no NULL pointer. -/
theorem isSome_listing_of_safe {table : SlotTable ProvNodeInfo capacity}
    (safe : SafeToList table) : (provisionerLogProvDevInfo table).isSome = true := by
  apply isSome_logLoop
  intro nodeIdx _
  split
  · rfl
  next node held => exact isSome_logNode (safe nodeIdx node held) nodeIdx

/-! ## Runs of the provisioner -/

inductive ProvisionerEvent
  | provisioningComplete (param : ProvCompleteParam) (answers : ProvCompleteAnswers)
  | configClient (event : CfgClientEvent) (param : CfgClientParam) (malloc : Nat → Bool)
  /-- The UART command that lists the provisioned devices. -/
  | listProvisioned

/-- A step ends the program when an assertion fails or the listing goes through a NULL
pointer. -/
def provisionerStep (provisioner : ProvisionerState capacity) :
    ProvisionerEvent → Option (ProvisionerState capacity)
  | .provisioningComplete param answers => some (provComplete provisioner param answers).after
  | .configClient event param malloc =>
      (exampleBleMeshConfigClientCb provisioner event param malloc).map Prod.fst
  | .listProvisioned =>
      (provisionerLogProvDevInfo provisioner.provNodeInfo).map fun _ => provisioner

/-- The table is safe to list, and listing it goes through no NULL pointer. -/
structure Listable (provisioner : ProvisionerState capacity) : Prop where
  safe : SafeToList provisioner.provNodeInfo
  lists : (provisionerLogProvDevInfo provisioner.provNodeInfo).isSome = true

/-- The event does not store a record of a device that has elements. -/
def RecordsNoElements (provisioner : ProvisionerState capacity) : ProvisionerEvent → Prop
  | .provisioningComplete param answers =>
      Records provisioner.provNodeInfo param.unicast answers.allocated → param.elemNum = 0
  | _ => True

/-- The elements of every record have been replied for, and no element has vendor
models only. -/
def RepliesComplete (table : SlotTable ProvNodeInfo capacity) : Prop :=
  ∀ index node, table.get index = some node →
    (node.elementNum ≠ 0 → node.elements ≠ none) ∧
      ∀ element ∈ node.elements.getD [], element.vndModelCount ≠ 0 → element.sigModelCount ≠ 0

/-- A record has no elements yet, or what the parser has stored in it. -/
structure ProvNodeInfo.AsParsed (node : ProvNodeInfo) : Prop where
  elements : ∀ elements, node.elements = some elements → elements.length = node.elementNum
  models : ∀ element ∈ node.elements.getD [], element.StoredModels

def RecordsAsParsed (provisioner : ProvisionerState capacity) : Prop :=
  ∀ index node, provisioner.provNodeInfo.get index = some node → node.AsParsed

/-- What a step can do to the records: it stores a new one, or a reply that is parsed
empties or fills the elements of one. -/
theorem forall_records_of_step {Property : ProvNodeInfo → Prop}
    {provisioner next : ProvisionerState capacity} {event : ProvisionerEvent}
    (happens : provisionerStep provisioner event = some next)
    (before : ∀ index node, provisioner.provNodeInfo.get index = some node → Property node)
    (recorded : ∀ param answers index, event = .provisioningComplete param answers →
      Records provisioner.provNodeInfo param.unicast answers.allocated →
      Property (ProvNodeInfo.new index param.uuid param.unicast param.elemNum))
    (emptied : ∀ node header, Property node →
      Property { node.withHeader header with elements := none })
    (filled : ∀ node header elements, Property node → elements.length = node.elementNum →
      (∀ element ∈ elements, element.StoredModels) →
      Property { node.withHeader header with elements := some elements }) :
    ∀ index node, next.provNodeInfo.get index = some node → Property node := by
  cases event with
  | provisioningComplete param answers =>
      cases happens
      rw [provComplete_provNodeInfo]
      by_cases records : Records provisioner.provNodeInfo param.unicast answers.allocated
      · rcases provisionerAddProvDevInfo_of_records records param.uuid param.elemNum with
          ⟨index, -, -, stored⟩
        rw [stored]
        exact SlotTable.forall_set_some before index (recorded param answers index rfl records)
      · rw [provisionerAddProvDevInfo_of_not_records records]
        exact before
  | configClient event param malloc =>
      rcases Option.map_eq_some_iff.mp happens with ⟨⟨after, calls⟩, returns, equal⟩
      cases equal
      rcases exampleBleMeshConfigClientCb_effect returns with ⟨code, table, effect, afterEq⟩
      subst afterEq
      cases effect with
      | rejected => exact before
      | @noMemory index node header found =>
          have node := before index node (SlotTable.find_some found).1
          exact SlotTable.forall_set_some before index (emptied _ header node)
      | @stored index node elements header found length models =>
          have node := before index node (SlotTable.find_some found).1
          exact SlotTable.forall_set_some before index
            (filled _ header elements node length models)
  | listProvisioned =>
      rcases Option.map_eq_some_iff.mp happens with ⟨lines, -, equal⟩
      cases equal
      exact before

theorem new_asParsed (index : Nat) (uuid : Uuid) (unicast : UInt16) (elemNum : UInt8) :
    (ProvNodeInfo.new index uuid unicast elemNum).AsParsed := by
  refine ⟨?_, ?_⟩
  · intro elements present
    cases present
  · intro element member
    cases member

theorem recordsAsParsed_of_step {provisioner next : ProvisionerState capacity}
    {event : ProvisionerEvent} (before : RecordsAsParsed provisioner)
    (happens : provisionerStep provisioner event = some next) : RecordsAsParsed next := by
  apply forall_records_of_step happens before
  · intro param answers index _ _
    exact new_asParsed index param.uuid param.unicast param.elemNum
  · intro node header _
    refine ⟨?_, ?_⟩
    · intro elements present
      cases present
    · intro element member
      cases member
  · intro node header elements _ length models
    refine ⟨?_, models⟩
    intro other present
    cases present
    exact length

theorem listable_of_safe {provisioner : ProvisionerState capacity}
    (safe : SafeToList provisioner.provNodeInfo) : Listable provisioner :=
  ⟨safe, isSome_listing_of_safe safe⟩

theorem listable_iff_repliesComplete {provisioner : ProvisionerState capacity}
    (asParsed : RecordsAsParsed provisioner) :
    Listable provisioner ↔ RepliesComplete provisioner.provNodeInfo := by
  constructor
  · intro listable index node held
    have complete := listable.safe index node held
    refine ⟨?_, ?_⟩
    · intro someElements absent
      have length := complete.elements
      rw [absent] at length
      exact someElements length.symm
    · intro element member someVnd noSig
      have stored := ((asParsed index node held).models element member).vnd
      rw [if_pos noSig, (complete.models element member).vnd] at stored
      exact someVnd stored
  · intro replies
    apply listable_of_safe
    intro index node held
    rcases replies index node held with ⟨elementsPresent, sigPresent⟩
    have parsed := asParsed index node held
    refine ⟨?_, ?_⟩
    · cases present : node.elements with
      | none =>
          by_contra someElements
          exact elementsPresent (fun zero => someElements zero.symm) present
      | some elements => exact parsed.elements elements present
    · intro element member
      have models := parsed.models element member
      refine ⟨models.sig, ?_⟩
      rw [models.vnd]
      split
      next noSig =>
        by_contra someVnd
        exact sigPresent element member (fun zero => someVnd zero.symm) noSig
      · rfl

/-- No record is of a device with elements. -/
def NoElements (provisioner : ProvisionerState capacity) : Prop :=
  ∀ index node, provisioner.provNodeInfo.get index = some node →
    node.elementNum = 0 ∧ node.elements.getD [] = []

theorem listable_of_noElements {provisioner : ProvisionerState capacity}
    (noElements : NoElements provisioner) : Listable provisioner := by
  apply listable_of_safe
  intro index node held
  rcases noElements index node held with ⟨elementNum, elements⟩
  exact ⟨by rw [elements, elementNum]; rfl, by simp [elements]⟩

theorem noElements_of_step {provisioner next : ProvisionerState capacity}
    {event : ProvisionerEvent} (noElements : NoElements provisioner)
    (happens : provisionerStep provisioner event = some next)
    (meets : RecordsNoElements provisioner event) : NoElements next := by
  apply forall_records_of_step happens noElements
  · intro param answers index same records
    subst same
    exact ⟨congrArg UInt8.toNat (meets records), rfl⟩
  · intro node header before
    exact ⟨before.1, rfl⟩
  · intro node header elements before length _
    exact ⟨before.1, List.eq_nil_of_length_eq_zero (length.trans before.1)⟩

/-- The record of a device with elements is not safe to list when it has been stored. -/
theorem recordsNoElements_of_listable {provisioner next : ProvisionerState capacity}
    {event : ProvisionerEvent} (happens : provisionerStep provisioner event = some next)
    (listable : Listable next) : RecordsNoElements provisioner event := by
  cases event with
  | provisioningComplete param answers =>
      intro records
      cases happens
      rcases provisionerAddProvDevInfo_of_records records param.uuid param.elemNum with
        ⟨index, inside, -, stored⟩
      have safe := listable.safe
      rw [provComplete_provNodeInfo, stored] at safe
      have complete := safe index _ (SlotTable.get_set_same _ inside _)
      exact UInt8.toNat_inj.mp complete.elements.symm
  | configClient event param malloc => trivial
  | listProvisioned => trivial

/-- Along every run the table is listable in every state exactly if no step stores the
record of a device with elements. Each reachable state by itself is listable exactly
if all elements have been replied for and none of them has vendor models only. -/
theorem listable_throughout_iff (events : List ProvisionerEvent) :
    ((∀ provisioner ∈ visited provisionerStep
          (ProvisionerState.initial : ProvisionerState capacity) events, Listable provisioner) ↔
        ∀ performed ∈ taken provisionerStep
          (ProvisionerState.initial : ProvisionerState capacity) events,
          RecordsNoElements performed.1 performed.2) ∧
      ∀ provisioner ∈ visited provisionerStep
          (ProvisionerState.initial : ProvisionerState capacity) events,
        (Listable provisioner ↔ RepliesComplete provisioner.provNodeInfo) := by
  refine ⟨?_, ?_⟩
  · apply forall_visited_iff_of_strong NoElements
    · intro provisioner noElements
      exact listable_of_noElements noElements
    · intro provisioner event next noElements happens meets
      exact noElements_of_step noElements happens meets
    · intro provisioner event next _ happens listable
      exact recordsNoElements_of_listable happens listable
    · intro index node held
      simp [ProvisionerState.initial] at held
  · intro provisioner member
    apply listable_iff_repliesComplete
    have keeps : ∀ (state : ProvisionerState capacity) event next, RecordsAsParsed state →
        provisionerStep state event = some next → RecordsAsParsed next :=
      fun _ _ _ before happens => recordsAsParsed_of_step before happens
    apply invariant_of_visited keeps events _ provisioner member
    intro index node held
    simp [ProvisionerState.initial] at held

/-- A device with one element, before it has replied. -/
def firstDevice : ProvCompleteParam where
  nodeIdx := 0
  uuid := 1
  unicast := 5
  elemNum := 1

def allSucceed : ProvCompleteAnswers where
  allocated := true
  setNodeName := 0
  configClientGetState := 0

/-- Once a device with an element has been provisioned, the listing goes through the
NULL pointer of its elements. -/
theorem listing_fails_before_reply :
    ¬ ∀ events, ∀ provisioner ∈ visited provisionerStep
        (ProvisionerState.initial : ProvisionerState provMaxProvDevCnt) events,
      SafeToList provisioner.provNodeInfo ∧
        provisionerLogProvDevInfo provisioner.provNodeInfo ≠ none := by
  intro always
  have runs : run provisionerStep (ProvisionerState.initial : ProvisionerState provMaxProvDevCnt)
      [.provisioningComplete firstDevice allSucceed] =
        some (provComplete .initial firstDevice allSucceed).after := rfl
  have fails : provisionerLogProvDevInfo
      (provComplete (ProvisionerState.initial : ProvisionerState provMaxProvDevCnt) firstDevice
        allSucceed).after.provNodeInfo = none := rfl
  exact (always _ _ (mem_visited_of_run runs)).2 fails

end BleMesh.Provisioner
