import Mathlib.Order.CompletePartialOrder
import Mathlib.Order.Interval.Set.Defs
import BleMesh.Foundation.Execution
import BleMesh.Provisioner.NodeMap

/-! # Looking up a node by address

Every element of a node has an address of its own, from the node's unicast address on.
While the stack hands out disjoint ranges, an address leads to the one node in whose
current range it lies.
-/

namespace BleMesh.Provisioner

open Foundation Foundation.Execution

variable {capacity : Nat}

/-- A call that succeeds. -/
def Nodes.storeOk (nodes : Nodes capacity) (node : NodeInfo) : Option (Nodes capacity) :=
  if (nodes.store node).1 = espOk then some (nodes.store node).2 else none

/-- What was last stored under a UUID. -/
def latest (calls : List NodeInfo) (uuid : Uuid) : Option NodeInfo :=
  calls.reverse.find? fun node => node.uuid == uuid

/-- The element addresses of a node. -/
def NodeInfo.range (node : NodeInfo) : Set Nat :=
  Set.Ico node.unicast.toNat (node.unicast.toNat + node.elemNum.toNat)

/-- The ranges last stored for different UUIDs have no address in common. -/
def RangesDisjoint (calls : List NodeInfo) : Prop :=
  ∀ uuid other first second, uuid ≠ other → latest calls uuid = some first →
    latest calls other = some second → Disjoint first.range second.range

theorem latest_append (calls : List NodeInfo) (node : NodeInfo) (uuid : Uuid) :
    latest (calls ++ [node]) uuid =
      if node.uuid = uuid then some node else latest calls uuid := by
  simp only [latest, List.reverse_append, List.reverse_singleton, List.singleton_append,
    List.find?_cons]
  by_cases same : node.uuid = uuid
  · simp [same]
  · rw [beq_eq_false_iff_ne.mpr same, if_neg same]

theorem uuid_of_latest {calls : List NodeInfo} {uuid : Uuid} {node : NodeInfo}
    (last : latest calls uuid = some node) : node.uuid = uuid := by
  simpa using List.find?_some last

theorem covers_iff_mem_range (node : NodeInfo) (unicast : UInt16) :
    node.covers unicast = true ↔ unicast.toNat ∈ node.range := by
  simp [NodeInfo.covers, NodeInfo.range, UInt16.le_iff_toNat_le]

/-- The records in use are the last ones stored for each UUID. -/
def HoldsLatest (nodes : Nodes capacity) (calls : List NodeInfo) : Prop :=
  ∃ stored, nodes.Hold stored ∧
    ∀ node, node ∈ stored ↔ latest calls node.uuid = some node

theorem holdsLatest_of_store {nodes after : Nodes capacity} {calls : List NodeInfo}
    {node : NodeInfo} (holds : HoldsLatest nodes calls)
    (stores : nodes.storeOk node = some after) : HoldsLatest after (calls ++ [node]) := by
  rcases holds with ⟨stored, hold, members⟩
  simp only [Nodes.storeOk] at stores
  split at stores
  next accepted =>
    cases stores
    have holdAfter := (store_of_ok hold (Prod.ext accepted rfl)).2
    refine ⟨_, holdAfter, ?_⟩
    intro other
    rw [mem_upsert_iff, members, latest_append]
    split
    next same =>
      constructor
      · intro cases
        rcases cases with rfl | ⟨_, different⟩
        · rfl
        · exact absurd same.symm different
      · intro equal
        exact Or.inl (Option.some.inj equal).symm
    next different =>
      constructor
      · intro cases
        rcases cases with rfl | ⟨last, _⟩
        · exact absurd rfl different
        · exact last
      · intro last
        exact Or.inr ⟨last, Ne.symm different⟩
  · cases stores

theorem holdsLatest_of_run {nodes : Nodes capacity} {calls : List NodeInfo}
    (stores : run Nodes.storeOk Nodes.zeroed calls = some nodes) :
    HoldsLatest nodes calls := by
  have initially : HoldsLatest (Nodes.zeroed : Nodes capacity) [] :=
    ⟨[], Nodes.hold_zeroed, by simp [latest]⟩
  have holds := invariant_of_recorded_run (fun calls node => calls ++ [node]) HoldsLatest
    (fun _ _ _ _ => holdsLatest_of_store) initially stores
  simpa [← List.flatMap_def] using holds

/-- An address leads to the node in whose latest range it lies, and to none if it is no
unicast address or lies in no such range. The ranges need to be disjoint at the end
only. -/
theorem getNodeInfo_eq_latest {nodes : Nodes capacity} {calls : List NodeInfo}
    (stores : run Nodes.storeOk Nodes.zeroed calls = some nodes)
    (disjoint : RangesDisjoint calls) (unicast : UInt16) :
    (∀ node, exampleBleMeshGetNodeInfo nodes unicast = some node ↔
      espBleMeshAddrIsUnicast unicast = true ∧ latest calls node.uuid = some node ∧
        unicast.toNat ∈ node.range) ∧
    (exampleBleMeshGetNodeInfo nodes unicast = none ↔
      ¬ (espBleMeshAddrIsUnicast unicast = true ∧
        ∃ uuid node, latest calls uuid = some node ∧ unicast.toNat ∈ node.range)) := by
  rcases holdsLatest_of_run stores with ⟨stored, hold, members⟩
  have unique : ∀ left ∈ stored, ∀ right ∈ stored, left.covers unicast = true →
      right.covers unicast = true → left = right := by
    intro left leftMember right rightMember leftCovers rightCovers
    rw [covers_iff_mem_range] at leftCovers rightCovers
    rw [members] at leftMember rightMember
    by_cases same : left.uuid = right.uuid
    · rw [same, rightMember] at leftMember
      exact (Option.some.inj leftMember).symm
    · have apart := disjoint _ _ _ _ same leftMember rightMember
      exact absurd rightCovers (Set.disjoint_left.mp apart leftCovers)
  have found : ∀ node, exampleBleMeshGetNodeInfo nodes unicast = some node ↔
      espBleMeshAddrIsUnicast unicast = true ∧ latest calls node.uuid = some node ∧
        unicast.toNat ∈ node.range := by
    intro node
    cases isUnicast : espBleMeshAddrIsUnicast unicast with
    | false => simp [exampleBleMeshGetNodeInfo, isUnicast]
    | true =>
        rw [getNodeInfo_eq hold isUnicast, find?_eq_some_iff_of_unique unique, members,
          covers_iff_mem_range, eq_self, true_and]
  refine ⟨found, ?_⟩
  simp only [Option.eq_none_iff_forall_ne_some, ne_eq, found]
  constructor
  · intro absent present
    rcases present with ⟨isUnicast, uuid, node, last, inRange⟩
    rw [← uuid_of_latest last] at last
    exact absent node ⟨isUnicast, last, inRange⟩
  · intro absent node present
    exact absent ⟨present.1, node.uuid, node, present.2⟩

/-- Two devices, the first of which is provisioned again at another address. -/
def movedCalls : List NodeInfo :=
  [{ uuid := 0, unicast := 5, elemNum := 2, onoff := 0 },
    { uuid := 1, unicast := 7, elemNum := 1, onoff := 0 },
    { uuid := 0, unicast := 8, elemNum := 2, onoff := 0 }]

def movedNodes : Nodes 3 where
  entries :=
    [{ uuid := 0, unicast := 8, elemNum := 2, onoff := 0 },
      { uuid := 1, unicast := 7, elemNum := 1, onoff := 0 }, NodeInfo.zero]
  entries_length := rfl

theorem movedCalls_disjoint : RangesDisjoint movedCalls := by
  have apart : Disjoint (Set.Ico 8 10) (Set.Ico 7 8) := by
    rw [Set.disjoint_left]
    intro address inFirst inSecond
    exact absurd inFirst.1 (Nat.not_le.mpr inSecond.2)
  have ranges : ∀ uuid node, latest movedCalls uuid = some node →
      uuid = 0 ∧ node.range = Set.Ico 8 10 ∨ uuid = 1 ∧ node.range = Set.Ico 7 8 := by
    intro uuid node last
    have member := List.mem_of_find?_eq_some last
    rw [movedCalls, List.reverse_cons, List.reverse_cons] at member
    cases uuid_of_latest last
    simp only [List.reverse_singleton, List.cons_append, List.nil_append, List.mem_cons,
      List.not_mem_nil, or_false] at member
    rcases member with rfl | rfl | rfl
    · exact Or.inl ⟨rfl, rfl⟩
    · exact Or.inr ⟨rfl, rfl⟩
    · exact absurd last (by decide)
  intro uuid other first second different last otherLast
  rcases ranges uuid first last with ⟨rfl, firstRange⟩ | ⟨rfl, firstRange⟩
  · rcases ranges other second otherLast with ⟨rfl, secondRange⟩ | ⟨rfl, secondRange⟩
    · exact absurd rfl different
    · rw [firstRange, secondRange]
      exact apart
  · rcases ranges other second otherLast with ⟨rfl, secondRange⟩ | ⟨rfl, secondRange⟩
    · rw [firstRange, secondRange]
      exact apart.symm
    · exact absurd rfl different

/-- The address left behind leads nowhere. -/
theorem getNodeInfo_eq_latest_moved :
    (∀ node, exampleBleMeshGetNodeInfo movedNodes 5 = some node ↔
      espBleMeshAddrIsUnicast 5 = true ∧ latest movedCalls node.uuid = some node ∧
        (5 : UInt16).toNat ∈ node.range) ∧
    (exampleBleMeshGetNodeInfo movedNodes 5 = none ↔
      ¬ (espBleMeshAddrIsUnicast 5 = true ∧
        ∃ uuid node, latest movedCalls uuid = some node ∧ (5 : UInt16).toNat ∈ node.range)) :=
  getNodeInfo_eq_latest rfl movedCalls_disjoint 5

end BleMesh.Provisioner
