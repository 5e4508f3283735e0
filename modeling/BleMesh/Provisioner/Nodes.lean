import BleMesh.Foundation.FirstMatch
import BleMesh.Provisioner.Definitions

/-! # The nodes table

`nodes` is an array of records in static storage. A record is in use when its
unicast address is assigned. Through `example_ble_mesh_store_node_info` the array is
a map from UUIDs: storing a node is an upsert of the records in use.
-/

namespace BleMesh.Provisioner

open Foundation

variable {capacity : Nat}

/-- `nodes[CONFIG_BLE_MESH_MAX_PROV_NODES]`. -/
@[ext] structure Nodes (capacity : Nat) where
  entries : List NodeInfo
  entries_length : entries.length = capacity

namespace Nodes

def zeroed : Nodes capacity where
  entries := List.replicate capacity NodeInfo.zero
  entries_length := List.length_replicate

/-- A loop over the array that changes the first record that matches. -/
def updateFirst (nodes : Nodes capacity) (isMatch : NodeInfo → Bool)
    (update : NodeInfo → NodeInfo) : Option (Nodes capacity) :=
  match updated : Foundation.updateFirst isMatch update nodes.entries with
  | none => none
  | some entries =>
      some ⟨entries, (length_of_updateFirst updated).trans nodes.entries_length⟩

theorem updateFirst_eq_none {nodes : Nodes capacity} {isMatch : NodeInfo → Bool}
    {update : NodeInfo → NodeInfo}
    (absent : Foundation.updateFirst isMatch update nodes.entries = none) :
    nodes.updateFirst isMatch update = none := by
  rw [updateFirst]
  split
  · rfl
  next updated => rw [absent] at updated; cases updated

theorem updateFirst_eq_some {nodes : Nodes capacity} {isMatch : NodeInfo → Bool}
    {update : NodeInfo → NodeInfo} {entries : List NodeInfo}
    (changed : Foundation.updateFirst isMatch update nodes.entries = some entries) :
    ∃ after, nodes.updateFirst isMatch update = some after ∧ after.entries = entries := by
  rw [updateFirst]
  split
  next updated => rw [changed] at updated; cases updated
  next updated =>
    rw [changed] at updated
    cases updated
    exact ⟨_, rfl, rfl⟩

end Nodes

/-- The error and the table after the call. -/
def exampleBleMeshStoreNodeInfo (nodes : Nodes capacity) (uuid : Option Uuid)
    (unicast : UInt16) (elemNum onoffState : UInt8) : Int × Nodes capacity :=
  match uuid with
  | none => (espErrInvalidArg, nodes)
  | some uuid =>
      if espBleMeshAddrIsUnicast unicast = false then (espErrInvalidArg, nodes)
      else
        match nodes.updateFirst (fun node => node.uuid == uuid)
            (fun node => { node with unicast, elemNum, onoff := onoffState }) with
        | some reprovisioned => (espOk, reprovisioned)
        | none =>
            match nodes.updateFirst (fun node => node.unicast == espBleMeshAddrUnassigned)
                (fun _ => { uuid, unicast, elemNum, onoff := onoffState }) with
            | some extended => (espOk, extended)
            | none => (espFail, nodes)

/-- The address is one of the node's element addresses. The sum is an `int`. -/
def NodeInfo.covers (node : NodeInfo) (unicast : UInt16) : Bool :=
  node.unicast ≤ unicast && unicast.toNat < node.unicast.toNat + node.elemNum.toNat

def exampleBleMeshGetNodeInfo (nodes : Nodes capacity) (unicast : UInt16) :
    Option NodeInfo :=
  if espBleMeshAddrIsUnicast unicast = false then none
  else nodes.entries.find? fun node => node.covers unicast

/-! ## The table as a map -/

/-- The stored records come first, with assigned addresses and one for each UUID. The
rest of the array is zeroed. -/
structure Nodes.Hold (nodes : Nodes capacity) (stored : List NodeInfo) : Prop where
  entries_eq : nodes.entries =
    stored ++ List.replicate (capacity - stored.length) NodeInfo.zero
  length_le : stored.length ≤ capacity
  assigned : ∀ node ∈ stored, node.unicast ≠ espBleMeshAddrUnassigned
  distinct : (stored.map NodeInfo.uuid).Nodup

theorem Nodes.hold_zeroed : (Nodes.zeroed : Nodes capacity).Hold [] where
  entries_eq := by simp [Nodes.zeroed]
  length_le := Nat.zero_le _
  assigned := by simp
  distinct := by simp

/-- Overwriting the record of a known UUID. -/
theorem Nodes.Hold.overwrite {nodes after : Nodes capacity} {stored : List NodeInfo}
    (hold : nodes.Hold stored) {node : NodeInfo} (known : node.uuid ∈ stored.map NodeInfo.uuid)
    (isUnicast : espBleMeshAddrIsUnicast node.unicast = true)
    (entries : after.entries = upsert NodeInfo.uuid stored node ++
      List.replicate (capacity - stored.length) NodeInfo.zero) :
    after.Hold (upsert NodeInfo.uuid stored node) := by
  have sameLength : (upsert NodeInfo.uuid stored node).length = stored.length := by
    rw [upsert_of_known known, List.length_map]
  refine ⟨by rw [sameLength, entries], by rw [sameLength]; exact hold.length_le, ?_,
    distinct_upsert hold.distinct⟩
  intro other member
  rcases (mem_upsert_iff other).mp member with rfl | ⟨member, -⟩
  · exact ne_unassigned_of_isUnicast isUnicast
  · exact hold.assigned other member

/-- Filling the first record that is not in use. -/
theorem Nodes.Hold.extend {nodes after : Nodes capacity} {stored : List NodeInfo}
    (hold : nodes.Hold stored) {node : NodeInfo} (fresh : node.uuid ∉ stored.map NodeInfo.uuid)
    (isUnicast : espBleMeshAddrIsUnicast node.unicast = true) {spare : Nat}
    (room : capacity - stored.length = spare + 1)
    (entries : after.entries = stored ++ node :: List.replicate spare NodeInfo.zero) :
    after.Hold (upsert NodeInfo.uuid stored node) := by
  have length : (upsert NodeInfo.uuid stored node).length = stored.length + 1 := by
    rw [upsert_of_fresh fresh, List.length_append, List.length_singleton]
  have rest : capacity - (upsert NodeInfo.uuid stored node).length = spare := by omega
  refine ⟨?_, by omega, ?_, distinct_upsert hold.distinct⟩
  · rw [rest, upsert_of_fresh fresh, entries, List.append_assoc, List.singleton_append]
  · intro other member
    rcases (mem_upsert_iff other).mp member with rfl | ⟨member, -⟩
    · exact ne_unassigned_of_isUnicast isUnicast
    · exact hold.assigned other member

theorem absent_of_fresh {stored : List NodeInfo} {uuid : Uuid}
    (fresh : uuid ∉ stored.map NodeInfo.uuid) :
    ∀ node ∈ stored, (node.uuid == uuid) = false := by
  intro node member
  rw [beq_eq_false_iff_ne]
  intro same
  subst same
  exact fresh (List.mem_map_of_mem member)

/-- The second loop of a store, when it is reached: it stops at the first record that
is not in use. -/
theorem Nodes.Hold.updateFirst_unassigned {nodes : Nodes capacity} {stored : List NodeInfo}
    (hold : nodes.Hold stored) {spare : Nat} (room : capacity - stored.length = spare + 1)
    (node : NodeInfo) :
    Foundation.updateFirst (fun other => other.unicast == espBleMeshAddrUnassigned)
        (fun _ => node) nodes.entries =
      some (stored ++ node :: List.replicate spare NodeInfo.zero) := by
  have absent : ∀ other ∈ stored, (other.unicast == espBleMeshAddrUnassigned) = false := by
    intro other member
    simpa using hold.assigned other member
  rw [hold.entries_eq, room, List.replicate_succ, updateFirst_append_of_absent _ absent]
  rfl

/-- The first loop of a store of an unknown UUID. It stops at a zeroed record when the
UUID is all zeros, and at no record otherwise. -/
theorem Nodes.Hold.updateFirst_fresh {nodes : Nodes capacity} {stored : List NodeInfo}
    (hold : nodes.Hold stored) {spare : Nat} (room : capacity - stored.length = spare + 1)
    {node : NodeInfo} (fresh : node.uuid ∉ stored.map NodeInfo.uuid) :
    Foundation.updateFirst (fun other => other.uuid == node.uuid)
        (fun other => { other with
          unicast := node.unicast, elemNum := node.elemNum, onoff := node.onoff })
        nodes.entries =
      if node.uuid = 0 then some (stored ++ node :: List.replicate spare NodeInfo.zero)
      else none := by
  rw [hold.entries_eq, room, updateFirst_append_of_absent _ (absent_of_fresh fresh)]
  split
  next zeroUuid =>
    rcases node with ⟨uuid, unicast, elemNum, onoff⟩
    cases zeroUuid
    rfl
  next different =>
    rw [updateFirst_of_absent]
    · rfl
    · intro other member
      rw [List.eq_of_mem_replicate member]
      simpa [NodeInfo.zero] using Ne.symm different

/-- Storing a known UUID. -/
theorem store_of_known {nodes : Nodes capacity} {stored : List NodeInfo}
    (hold : nodes.Hold stored) {node : NodeInfo} (known : node.uuid ∈ stored.map NodeInfo.uuid)
    (isUnicast : espBleMeshAddrIsUnicast node.unicast = true) :
    ∃ after, exampleBleMeshStoreNodeInfo nodes (some node.uuid) node.unicast node.elemNum
        node.onoff = (espOk, after) ∧ after.Hold (upsert NodeInfo.uuid stored node) := by
  have present : ∃ other ∈ stored, other.uuid = node.uuid := List.mem_map.mp known
  have changed := updateFirst_append_of_key hold.distinct present
    (fun other => { other with
      unicast := node.unicast, elemNum := node.elemNum, onoff := node.onoff })
    (List.replicate (capacity - stored.length) NodeInfo.zero)
  rw [← hold.entries_eq] at changed
  rcases Nodes.updateFirst_eq_some changed with ⟨after, updated, entries⟩
  refine ⟨after, ?_, hold.overwrite known isUnicast ?_⟩
  · simp [exampleBleMeshStoreNodeInfo, isUnicast, updated]
  · rw [entries, upsert_of_known known]
    congr 1
    refine List.map_congr_left fun other _ => ?_
    split
    next same => rw [same]
    · rfl

/-- Storing a new UUID in a table with room. -/
theorem store_of_room {nodes : Nodes capacity} {stored : List NodeInfo}
    (hold : nodes.Hold stored) {node : NodeInfo} (fresh : node.uuid ∉ stored.map NodeInfo.uuid)
    (isUnicast : espBleMeshAddrIsUnicast node.unicast = true)
    (room : stored.length < capacity) :
    ∃ after, exampleBleMeshStoreNodeInfo nodes (some node.uuid) node.unicast node.elemNum
        node.onoff = (espOk, after) ∧ after.Hold (upsert NodeInfo.uuid stored node) := by
  rcases Nat.exists_eq_add_of_lt room with ⟨spare, capacityEq⟩
  have spareEq : capacity - stored.length = spare + 1 := by omega
  have firstLoop := hold.updateFirst_fresh spareEq fresh
  split at firstLoop
  · rcases Nodes.updateFirst_eq_some firstLoop with ⟨after, updated, entries⟩
    refine ⟨after, ?_, hold.extend fresh isUnicast spareEq entries⟩
    simp [exampleBleMeshStoreNodeInfo, isUnicast, updated]
  · have passed := Nodes.updateFirst_eq_none firstLoop
    rcases Nodes.updateFirst_eq_some (hold.updateFirst_unassigned spareEq node) with
      ⟨after, updated, entries⟩
    refine ⟨after, ?_, hold.extend fresh isUnicast spareEq entries⟩
    simp [exampleBleMeshStoreNodeInfo, isUnicast, passed, updated]

/-- Storing a new UUID in a full table. -/
theorem store_of_full {nodes : Nodes capacity} {stored : List NodeInfo}
    (hold : nodes.Hold stored) {node : NodeInfo} (fresh : node.uuid ∉ stored.map NodeInfo.uuid)
    (isUnicast : espBleMeshAddrIsUnicast node.unicast = true)
    (full : capacity ≤ stored.length) :
    exampleBleMeshStoreNodeInfo nodes (some node.uuid) node.unicast node.elemNum node.onoff =
      (espFail, nodes) := by
  have entriesEq : nodes.entries = stored := by
    rw [hold.entries_eq, Nat.sub_eq_zero_of_le full, List.replicate_zero, List.append_nil]
  have firstLoop : Foundation.updateFirst (fun other => other.uuid == node.uuid)
      (fun other => { other with
        unicast := node.unicast, elemNum := node.elemNum, onoff := node.onoff })
      nodes.entries = none := by
    rw [entriesEq]
    exact updateFirst_of_absent _ (absent_of_fresh fresh)
  have secondLoop : Foundation.updateFirst
      (fun other => other.unicast == espBleMeshAddrUnassigned) (fun _ => node)
      nodes.entries = none := by
    rw [entriesEq]
    apply updateFirst_of_absent
    intro other member
    simpa using hold.assigned other member
  have unknown := Nodes.updateFirst_eq_none firstLoop
  have assigned := Nodes.updateFirst_eq_none secondLoop
  simp [exampleBleMeshStoreNodeInfo, isUnicast, unknown, assigned]

/-- A call that returns ESP_OK has stored the node under its UUID. -/
theorem store_of_ok {nodes after : Nodes capacity} {stored : List NodeInfo}
    (hold : nodes.Hold stored) {node : NodeInfo}
    (stores : exampleBleMeshStoreNodeInfo nodes (some node.uuid) node.unicast node.elemNum
      node.onoff = (espOk, after)) :
    espBleMeshAddrIsUnicast node.unicast = true ∧
      after.Hold (upsert NodeInfo.uuid stored node) := by
  cases isUnicast : espBleMeshAddrIsUnicast node.unicast with
  | false => simp [exampleBleMeshStoreNodeInfo, isUnicast, espOk, espErrInvalidArg] at stores
  | true =>
      refine ⟨rfl, ?_⟩
      by_cases known : node.uuid ∈ stored.map NodeInfo.uuid
      · rcases store_of_known hold known isUnicast with ⟨result, returns, holds⟩
        rw [stores] at returns
        cases returns
        exact holds
      by_cases room : stored.length < capacity
      · rcases store_of_room hold known isUnicast room with ⟨result, returns, holds⟩
        rw [stores] at returns
        cases returns
        exact holds
      · rw [store_of_full hold known isUnicast (Nat.not_lt.mp room)] at stores
        simp [espFail, espOk] at stores

/-- A call that returns an error has changed nothing. -/
theorem store_of_error {nodes after : Nodes capacity} {uuid : Option Uuid} {unicast : UInt16}
    {elemNum onoffState : UInt8} {error : Int}
    (fails : exampleBleMeshStoreNodeInfo nodes uuid unicast elemNum onoffState =
      (error, after)) (isError : error ≠ espOk) : after = nodes := by
  simp only [exampleBleMeshStoreNodeInfo] at fails
  split at fails
  · cases fails
    rfl
  split at fails
  · cases fails
    rfl
  split at fails
  · cases fails
    exact absurd rfl isError
  split at fails
  · cases fails
    exact absurd rfl isError
  · cases fails
    rfl

/-- Only stored records are found by address. -/
theorem getNodeInfo_eq {nodes : Nodes capacity} {stored : List NodeInfo}
    (hold : nodes.Hold stored) {unicast : UInt16}
    (isUnicast : espBleMeshAddrIsUnicast unicast = true) :
    exampleBleMeshGetNodeInfo nodes unicast =
      stored.find? fun node => node.covers unicast := by
  have spare : (List.replicate (capacity - stored.length) NodeInfo.zero).find?
      (fun node => node.covers unicast) = none := by
    rw [List.find?_eq_none]
    intro node member
    rw [List.eq_of_mem_replicate member]
    simp [NodeInfo.covers, NodeInfo.zero, espBleMeshAddrUnassigned]
  simp [exampleBleMeshGetNodeInfo, isUnicast, hold.entries_eq, List.find?_append, spare]

end BleMesh.Provisioner
