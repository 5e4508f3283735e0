import BleMesh.Provisioner.Callbacks
import BleMesh.Provisioner.NodeMap

/-! # Completions that fail

`prov_complete` changes both node tables before it asks the stack for the composition of
the device, and undoes nothing when a later call fails. The tables are arbitrary here:
they may be full, or hold a UUID more than once.
-/

namespace BleMesh.Provisioner

open Foundation

variable {capacity : Nat}

/-- The record a store goes to: the first with the UUID, or else the first that is not in
use. -/
def Nodes.storeIndex (nodes : Nodes capacity) (uuid : Uuid) : Option Nat :=
  (nodes.entries.findIdx? fun node => node.uuid == uuid).or
    (nodes.entries.findIdx? fun node => node.unicast == espBleMeshAddrUnassigned)

/-- If the event is answered with ESP_FAIL, both tables hold what they held before. -/
def LeavesNoTrace (provisioner : ProvisionerState capacity) (param : ProvCompleteParam)
    (answers : ProvCompleteAnswers) : Prop :=
  (provComplete provisioner param answers).returned = espFail →
    (provComplete provisioner param answers).after.provNodeInfo = provisioner.provNodeInfo ∧
      (provComplete provisioner param answers).after.nodes = provisioner.nodes

/-- The node is stored, found again under its address, and asked for its composition. -/
structure CompletionSucceeds (provisioner : ProvisionerState capacity)
    (param : ProvCompleteParam) (answers : ProvCompleteAnswers) : Prop where
  named : answers.setNodeName = 0
  isUnicast : espBleMeshAddrIsUnicast param.unicast = true
  found : ∃ index, provisioner.nodes.storeIndex param.uuid = some index ∧
    (param.elemNum ≠ 0 ∨ ∃ other node, other ≠ index ∧
      provisioner.nodes.entries[other]? = some node ∧ node.covers param.unicast = true)
  asked : answers.configClientGetState = 0

/-- The nodes table is left alone: the node is not named, its address is refused, there is
no room for it, or it is stored already as it is. -/
def NodesKept (provisioner : ProvisionerState capacity) (param : ProvCompleteParam)
    (answers : ProvCompleteAnswers) : Prop :=
  answers.setNodeName ≠ 0 ∨ espBleMeshAddrIsUnicast param.unicast = false ∨
    provisioner.nodes.storeIndex param.uuid = none ∨
    ∃ index, provisioner.nodes.storeIndex param.uuid = some index ∧
      provisioner.nodes.entries[index]? = some param.node

/-! ## A store in an arbitrary table -/

theorem Nodes.updateFirst_of_absent {nodes : Nodes capacity} {isMatch : NodeInfo → Bool}
    (update : NodeInfo → NodeInfo) (absent : nodes.entries.findIdx? isMatch = none) :
    nodes.updateFirst isMatch update = none := by
  apply Nodes.updateFirst_eq_none
  exact Foundation.updateFirst_of_absent update (List.findIdx?_eq_none_iff.mp absent)

/-- A loop that makes the new record of the first match. -/
theorem Nodes.updateFirst_of_findIdx? {nodes : Nodes capacity} {isMatch : NodeInfo → Bool}
    {update : NodeInfo → NodeInfo} {index : Nat} {node : NodeInfo}
    (found : nodes.entries.findIdx? isMatch = some index)
    (updates : ∀ old, isMatch old = true → update old = node) :
    index < nodes.entries.length ∧ ∃ after, nodes.updateFirst isMatch update = some after ∧
      after.entries = nodes.entries.set index node := by
  rcases List.findIdx?_eq_some_iff_getElem.mp found with ⟨inside, same, _⟩
  have changed := Foundation.updateFirst_of_findIdx? update found
    (List.getElem?_eq_getElem inside)
  rw [updates _ same] at changed
  exact ⟨inside, Nodes.updateFirst_eq_some changed⟩

theorem store_of_storeIndex_none {nodes : Nodes capacity} {node : NodeInfo}
    (isUnicast : espBleMeshAddrIsUnicast node.unicast = true)
    (noIndex : nodes.storeIndex node.uuid = none) :
    nodes.store node = (espFail, nodes) := by
  rcases Option.or_eq_none_iff.mp noIndex with ⟨unknown, assigned⟩
  simp [Nodes.store, exampleBleMeshStoreNodeInfo, isUnicast,
    Nodes.updateFirst_of_absent _ unknown, Nodes.updateFirst_of_absent _ assigned]

theorem store_of_storeIndex {nodes : Nodes capacity} {node : NodeInfo} {index : Nat}
    (isUnicast : espBleMeshAddrIsUnicast node.unicast = true)
    (stored : nodes.storeIndex node.uuid = some index) :
    index < nodes.entries.length ∧ ∃ after, nodes.store node = (espOk, after) ∧
      after.entries = nodes.entries.set index node := by
  have overwrites : ∀ old : NodeInfo, (old.uuid == node.uuid) = true →
      { old with unicast := node.unicast, elemNum := node.elemNum, onoff := node.onoff } =
        node := by
    intro old same
    rw [eq_of_beq same]
  rcases Option.or_eq_some_iff.mp stored with known | ⟨unknown, free⟩
  · rcases Nodes.updateFirst_of_findIdx? known overwrites with ⟨inside, after, updated, entries⟩
    refine ⟨inside, after, ?_, entries⟩
    simp [Nodes.store, exampleBleMeshStoreNodeInfo, isUnicast, updated]
  · have fills : ∀ old : NodeInfo, (old.unicast == espBleMeshAddrUnassigned) = true →
        (fun _ => node) old = node := fun _ _ => rfl
    rcases Nodes.updateFirst_of_findIdx? free fills with ⟨inside, after, updated, entries⟩
    refine ⟨inside, after, ?_, entries⟩
    simp [Nodes.store, exampleBleMeshStoreNodeInfo, isUnicast,
      Nodes.updateFirst_of_absent _ unknown, updated]

/-- A store leaves the table alone exactly if it fails or changes no field. -/
theorem store_eq_self_iff (nodes : Nodes capacity) (node : NodeInfo) :
    (nodes.store node).2 = nodes ↔
      espBleMeshAddrIsUnicast node.unicast = false ∨ nodes.storeIndex node.uuid = none ∨
        ∃ index, nodes.storeIndex node.uuid = some index ∧
          nodes.entries[index]? = some node := by
  cases isUnicast : espBleMeshAddrIsUnicast node.unicast with
  | false => simp [Nodes.store, exampleBleMeshStoreNodeInfo, isUnicast]
  | true =>
      cases stored : nodes.storeIndex node.uuid with
      | none => simp [store_of_storeIndex_none isUnicast stored]
      | some index =>
          rcases store_of_storeIndex isUnicast stored with ⟨inside, after, stores, entries⟩
          simp only [stores, Bool.true_eq_false, reduceCtorEq, false_or, Option.some.injEq,
            exists_eq_left']
          rw [Nodes.ext_iff, entries]
          constructor
          · intro same
            rw [← same, List.getElem?_set_self inside]
          · intro present
            rw [List.getElem?_eq_getElem inside, Option.some.injEq] at present
            rw [← present, List.set_getElem_self]

theorem covers_self_iff (node : NodeInfo) : node.covers node.unicast = true ↔ node.elemNum ≠ 0 := by
  simp only [NodeInfo.covers, Bool.and_eq_true, decide_eq_true_eq, UInt16.le_refl, true_and,
    Nat.lt_add_right_iff_pos, ne_eq, ← UInt8.toNat_inj]
  exact Nat.pos_iff_ne_zero

/-- What a stored node is found by, in the table after the store. -/
theorem found_after_store_iff {after nodes : Nodes capacity} {node : NodeInfo} {index : Nat}
    (isUnicast : espBleMeshAddrIsUnicast node.unicast = true)
    (inside : index < nodes.entries.length)
    (entries : after.entries = nodes.entries.set index node) :
    (exampleBleMeshGetNodeInfo after node.unicast).isSome = true ↔
      node.elemNum ≠ 0 ∨ ∃ other stored, other ≠ index ∧
        nodes.entries[other]? = some stored ∧ stored.covers node.unicast = true := by
  simp only [exampleBleMeshGetNodeInfo, isUnicast, Bool.true_eq_false, if_false,
    List.find?_isSome, entries, List.mem_iff_getElem?, List.getElem?_set]
  constructor
  · intro found
    rcases found with ⟨entry, ⟨position, present⟩, covers⟩
    by_cases here : index = position
    · rw [if_pos here, if_pos inside] at present
      cases present
      exact Or.inl ((covers_self_iff _).mp covers)
    · rw [if_neg here] at present
      exact Or.inr ⟨position, entry, Ne.symm here, present, covers⟩
  · intro either
    rcases either with elements | ⟨other, entry, different, present, covers⟩
    · exact ⟨node, ⟨index, by rw [if_pos rfl, if_pos inside]⟩, (covers_self_iff node).mpr elements⟩
    · exact ⟨entry, ⟨other, by rw [if_neg different.symm, present]⟩, covers⟩

/-! ## What a completion changes and returns -/

theorem provComplete_nodes (provisioner : ProvisionerState capacity)
    (param : ProvCompleteParam) (answers : ProvCompleteAnswers) :
    (provComplete provisioner param answers).after.nodes =
      if answers.setNodeName ≠ 0 then provisioner.nodes
      else (provisioner.nodes.store param.node).2 := by
  simp only [provComplete]
  split
  · rfl
  split
  · rfl
  split
  · rfl
  · split <;> rfl

theorem nodesKept_iff (provisioner : ProvisionerState capacity) (param : ProvCompleteParam)
    (answers : ProvCompleteAnswers) :
    (provComplete provisioner param answers).after.nodes = provisioner.nodes ↔
      NodesKept provisioner param answers := by
  rw [provComplete_nodes, NodesKept]
  by_cases named : answers.setNodeName = 0
  · rw [if_neg (not_not.mpr named), store_eq_self_iff]
    simp [named, ProvCompleteParam.node]
  · simp [named]

theorem provNodeInfo_kept_iff (provisioner : ProvisionerState capacity)
    (param : ProvCompleteParam) (answers : ProvCompleteAnswers) :
    (provComplete provisioner param answers).after.provNodeInfo = provisioner.provNodeInfo ↔
      ¬ Records provisioner.provNodeInfo param.unicast answers.allocated := by
  rw [provComplete_provNodeInfo]
  constructor
  · intro kept records
    rcases provisionerAddProvDevInfo_of_records records param.uuid param.elemNum with
      ⟨index, inside, free, added⟩
    have held := SlotTable.get_set_same provisioner.provNodeInfo inside
      (some (ProvNodeInfo.new index param.uuid param.unicast param.elemNum))
    rw [← added, kept, free] at held
    cases held
  · intro skips
    exact provisionerAddProvDevInfo_of_not_records skips param.uuid param.elemNum

/-- Once the device is named and stored, what is left is to find it and to ask it. -/
theorem provComplete_returned_of_stored {provisioner : ProvisionerState capacity}
    {param : ProvCompleteParam} {answers : ProvCompleteAnswers} {nodes : Nodes capacity}
    (named : answers.setNodeName = 0)
    (stores : provisioner.nodes.store param.node = (espOk, nodes)) :
    (provComplete provisioner param answers).returned = espFail ↔
      ¬ ((exampleBleMeshGetNodeInfo nodes param.unicast).isSome = true ∧
        answers.configClientGetState = 0) := by
  have call : exampleBleMeshStoreNodeInfo provisioner.nodes (some param.uuid) param.unicast
      param.elemNum ledOff = (espOk, nodes) := stores
  cases found : exampleBleMeshGetNodeInfo nodes param.unicast with
  | none => simp [provComplete, named, call, espOk, found]
  | some node =>
      by_cases asked : answers.configClientGetState = 0
      · simp [provComplete, named, call, espOk, espFail, found, asked]
      · simp [provComplete, named, call, espOk, found, asked]

theorem provComplete_fails_iff (provisioner : ProvisionerState capacity)
    (param : ProvCompleteParam) (answers : ProvCompleteAnswers) :
    (provComplete provisioner param answers).returned = espFail ↔
      ¬ CompletionSucceeds provisioner param answers := by
  by_cases named : answers.setNodeName = 0
  · cases isUnicast : espBleMeshAddrIsUnicast param.unicast with
    | false =>
        refine iff_of_true ?_ ?_
        · simp [provComplete, named, exampleBleMeshStoreNodeInfo, isUnicast, espErrInvalidArg]
        · intro succeeds
          rw [succeeds.isUnicast] at isUnicast
          cases isUnicast
    | true =>
        have isUnicastNode : espBleMeshAddrIsUnicast param.node.unicast = true := isUnicast
        cases stored : provisioner.nodes.storeIndex param.node.uuid with
        | none =>
            have refused := store_of_storeIndex_none isUnicastNode stored
            have call : exampleBleMeshStoreNodeInfo provisioner.nodes (some param.uuid)
                param.unicast param.elemNum ledOff = (espFail, provisioner.nodes) := refused
            refine iff_of_true ?_ ?_
            · simp [provComplete, named, call, espFail]
            · intro succeeds
              rcases succeeds.found with ⟨index, present, _⟩
              cases stored.symm.trans present
        | some index =>
            rcases store_of_storeIndex isUnicastNode stored with
              ⟨inside, after, stores, entries⟩
            rw [provComplete_returned_of_stored named stores]
            have foundIff := found_after_store_iff isUnicastNode inside entries
            apply not_congr
            constructor
            · intro both
              exact ⟨named, isUnicast, ⟨index, stored, foundIff.mp both.1⟩, both.2⟩
            · intro succeeds
              rcases succeeds.found with ⟨other, present, found⟩
              cases stored.symm.trans present
              exact ⟨foundIff.mpr found, succeeds.asked⟩
  · refine iff_of_true ?_ ?_
    · simp [provComplete, named]
    · intro succeeds
      exact named succeeds.named

/-- A completion that fails leaves no trace exactly if it does not fail, or adds no record
of the device and leaves the nodes alone. -/
theorem leavesNoTrace_iff (provisioner : ProvisionerState capacity)
    (param : ProvCompleteParam) (answers : ProvCompleteAnswers) :
    LeavesNoTrace provisioner param answers ↔
      CompletionSucceeds provisioner param answers ∨
        ¬ Records provisioner.provNodeInfo param.unicast answers.allocated ∧
          NodesKept provisioner param answers := by
  rw [LeavesNoTrace, provComplete_fails_iff, provNodeInfo_kept_iff, nodesKept_iff,
    or_iff_not_imp_left]

/-- A device of one element, provisioned at address 1. -/
def oneElementDevice : ProvCompleteParam where
  nodeIdx := 0
  uuid := 1
  unicast := 1
  elemNum := 1

/-- The stack does not take the name. -/
def nameRefused : ProvCompleteAnswers where
  allocated := true
  setNodeName := -1
  configClientGetState := 0

/-- The record of the device stays when its name is refused. -/
theorem failed_completion_leaves_record :
    ¬ ∀ (provisioner : ProvisionerState provMaxProvDevCnt) (param : ProvCompleteParam)
        (answers : ProvCompleteAnswers), LeavesNoTrace provisioner param answers := by
  intro always
  have kept := (always ProvisionerState.initial oneElementDevice nameRefused rfl).1
  have slot := congrArg (fun table => table.get 0) kept
  exact absurd slot (by decide)

end BleMesh.Provisioner
