import BleMesh.Provisioner.CompositionParser

/-! # Replies that are rejected

`parse_composition_data` stores the header of a reply before it asks for the memory of the
elements. When there is none it returns `-1`, and the record has lost what an earlier
reply had left in it.
-/

namespace BleMesh.Provisioner

open Foundation

variable {capacity : Nat}

/-- When the call returns `-1`, every record is as it was. -/
def RejectsUnchanged (table : SlotTable ProvNodeInfo capacity) (malloc : Nat → Bool)
    (compositionBuffer : Option NetBufSimple) (unicast : UInt16) : Prop :=
  ∀ after, (parseCompositionData table malloc compositionBuffer unicast).returned =
    some (-1, after) → after = table

/-- The record has no elements, and its other fields are the words of the buffer. -/
structure ProvNodeInfo.HoldsHeader (node : ProvNodeInfo) (buffer : NetBufSimple) : Prop where
  cid : node.cid = wordOf (buffer.data 0) (buffer.data 1)
  pid : node.pid = wordOf (buffer.data 2) (buffer.data 3)
  vid : node.vid = wordOf (buffer.data 4) (buffer.data 5)
  crpl : node.crpl = wordOf (buffer.data 6) (buffer.data 7)
  features : node.features = wordOf (buffer.data 8) (buffer.data 9)
  elements : node.elements = none

theorem withHeader_eq_self_iff (node : ProvNodeInfo) (buffer : NetBufSimple)
    (malloc : Nat → Bool) :
    { node.withHeader (headerAt { byte := buffer.data, malloc } 0) with elements := none } =
      node ↔ node.HoldsHeader buffer := by
  constructor
  · intro same
    rw [← same]
    exact ⟨rfl, rfl, rfl, rfl, rfl, rfl⟩
  · intro holds
    rcases node with ⟨name, uuid, cid, pid, vid, crpl, features, unicastAddress, elementNum,
      elements⟩
    rcases holds with ⟨rfl, rfl, rfl, rfl, rfl, rfl⟩
    rfl

/-- What the record of the sender holds is lost when there is no memory for the elements. -/
theorem rejectsUnchanged_iff_of_found {table : SlotTable ProvNodeInfo capacity}
    {malloc : Nat → Bool} {buffer : NetBufSimple} {unicast : UInt16} {index : Nat}
    {node : ProvNodeInfo} (isUnicast : espBleMeshAddrIsUnicast unicast = true)
    (longEnough : 7 ≤ buffer.len) (found : findProvNode table unicast = some (index, node)) :
    RejectsUnchanged table malloc (some buffer) unicast ↔
      malloc 0 = true ∨ node.HoldsHeader buffer := by
  rw [RejectsUnchanged, parseCompositionData_eq table malloc buffer isUnicast longEnough]
  cases allocated : malloc 0 with
  | true =>
      rw [readComposition_of_memory found allocated]
      refine iff_of_true ?_ (Or.inl rfl)
      intro after returns
      simp only at returns
      split at returns
      · cases returns
      · cases returns
  | false =>
      rw [readComposition_of_no_memory found allocated]
      have held := (SlotTable.find_some found).1
      simp only [Option.some.injEq, Prod.mk.injEq, true_and, Bool.false_eq_true, false_or,
        forall_eq', SlotTable.set_eq_self_iff held, withHeader_eq_self_iff]

theorem rejectsUnchanged_of_returned {table : SlotTable ProvNodeInfo capacity}
    {malloc : Nat → Bool} {compositionBuffer : Option NetBufSimple} {unicast : UInt16}
    (code : Int) (returned :
      (parseCompositionData table malloc compositionBuffer unicast).returned =
        some (code, table)) :
    RejectsUnchanged table malloc compositionBuffer unicast := by
  intro after returns
  rw [returned] at returns
  cases returns
  rfl

/-- A rejected reply changes nothing exactly if a test rejects it, the sender is unknown,
there is memory for the elements, or the record holds what is written to it already. -/
theorem rejectsUnchanged_iff (table : SlotTable ProvNodeInfo capacity) (malloc : Nat → Bool)
    (compositionBuffer : Option NetBufSimple) (unicast : UInt16) :
    RejectsUnchanged table malloc compositionBuffer unicast ↔
      espBleMeshAddrIsUnicast unicast = false ∨ malloc 0 = true ∨
        ∀ buffer, compositionBuffer = some buffer → 7 ≤ buffer.len →
          ∀ index node, findProvNode table unicast = some (index, node) →
            node.HoldsHeader buffer := by
  cases compositionBuffer with
  | none => exact iff_of_true (rejectsUnchanged_of_returned (-1) rfl) (by simp)
  | some buffer =>
      cases isUnicast : espBleMeshAddrIsUnicast unicast with
      | false =>
          refine iff_of_true (rejectsUnchanged_of_returned (-1) ?_) (Or.inl rfl)
          simp [parseCompositionData, isUnicast]
      | true =>
          by_cases longEnough : 7 ≤ buffer.len
          · cases found : findProvNode table unicast with
            | none =>
                refine iff_of_true (rejectsUnchanged_of_returned (-1) ?_) (by simp)
                rw [parseCompositionData_eq table malloc buffer isUnicast longEnough,
                  readComposition_of_unknown found]
            | some record =>
                rcases record with ⟨index, node⟩
                rw [rejectsUnchanged_iff_of_found isUnicast longEnough found]
                simp [longEnough]
          · refine iff_of_true (rejectsUnchanged_of_returned (-1) ?_) (by simp [longEnough])
            simp [parseCompositionData, isUnicast, Nat.not_le.mp longEnough]

/-- A record that an earlier reply has filled. -/
def filledRecord : ProvNodeInfo where
  name := "Node-0"
  uuid := 1
  cid := 0x02E5
  pid := 0
  vid := 0
  crpl := 10
  features := 3
  unicastAddress := 5
  elementNum := 1
  elements := some [{
    elementId := 0, sigModelCount := 0, vndModelCount := 0, sigModels := none,
    vndModels := none }]

/-- Ten bytes of zero. -/
def emptyReply : NetBufSimple where
  data _ := 0
  len := 10

/-- A second reply that finds no memory takes the elements of the first away. -/
theorem rejected_reply_changes_record :
    ¬ ∀ (table : SlotTable ProvNodeInfo provMaxProvDevCnt) (malloc : Nat → Bool)
        (compositionBuffer : Option NetBufSimple) (unicast : UInt16),
      RejectsUnchanged table malloc compositionBuffer unicast := by
  intro always
  let table : SlotTable ProvNodeInfo provMaxProvDevCnt :=
    SlotTable.empty.set 0 (some filledRecord)
  have same := always table (fun _ => false) (some emptyReply) 5 _ rfl
  have slot := congrArg (fun table => table.get 0) same
  exact absurd slot (by decide)

end BleMesh.Provisioner
