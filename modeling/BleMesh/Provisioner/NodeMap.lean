import BleMesh.Foundation.BoundedMap
import BleMesh.Provisioner.Nodes

/-! # The nodes table as a bounded map

Seen from outside, the `nodes` array is a map from UUIDs to what was last stored under
them, with room for as many UUIDs as the array has records. A UUID of all zeros is a key
like any other, although the records that are not in use carry it.
-/

namespace BleMesh.Provisioner

open Foundation

variable {capacity : Nat}

/-- What is stored under a UUID. -/
structure NodeValue where
  unicast : UInt16
  elemNum : UInt8
  onoff : UInt8
  deriving DecidableEq

def NodeInfo.value (node : NodeInfo) : NodeValue where
  unicast := node.unicast
  elemNum := node.elemNum
  onoff := node.onoff

/-- The table that `example_ble_mesh_store_node_info` is meant to be. -/
abbrev NodeMap (capacity : Nat) := BoundedMap Uuid NodeValue capacity

/-- Assigned, and in the lower half of the address space. -/
def NodeInfo.HasUnicast (node : NodeInfo) : Prop := 1 ≤ node.unicast ∧ node.unicast ≤ 0x7FFF

instance (node : NodeInfo) : Decidable node.HasUnicast :=
  inferInstanceAs (Decidable (_ ∧ _))

def NodeMap.store (map : NodeMap capacity) (node : NodeInfo) : Int × NodeMap capacity :=
  if node.HasUnicast then
    match map.insert node.uuid node.value with
    | some after => (espOk, after)
    | none => (espFail, map)
  else (espErrInvalidArg, map)

/-- A call with the UUID and the values of a node. -/
def Nodes.store (nodes : Nodes capacity) (node : NodeInfo) : Int × Nodes capacity :=
  exampleBleMeshStoreNodeInfo nodes (some node.uuid) node.unicast node.elemNum node.onoff

/-- The table after some calls, one after the other. -/
def Nodes.storeAll (nodes : Nodes capacity) (calls : List NodeInfo) : Nodes capacity :=
  calls.foldl (fun nodes node => (nodes.store node).2) nodes

def NodeMap.storeAll (map : NodeMap capacity) (calls : List NodeInfo) : NodeMap capacity :=
  calls.foldl (fun map node => (NodeMap.store map node).2) map

/-- The records in use are the first ones, have different UUIDs, and are the entries of
the map. -/
structure Nodes.Represents (nodes : Nodes capacity) (map : NodeMap capacity) : Prop where
  occupied_iff : ∀ index node, nodes.entries[index]? = some node →
    (node.unicast ≠ espBleMeshAddrUnassigned ↔ index < map.size)
  distinct : ∀ left right first second, left < map.size → right < map.size →
    nodes.entries[left]? = some first → nodes.entries[right]? = some second →
    first.uuid = second.uuid → left = right
  lookup_iff : ∀ uuid value, map.lookup uuid = some value ↔
    ∃ index node, index < map.size ∧ nodes.entries[index]? = some node ∧
      node.uuid = uuid ∧ node.value = value

/-- The outcome of the next call, in terms of the map. -/
structure Nodes.StoresInto (nodes : Nodes capacity) (map : NodeMap capacity)
    (node : NodeInfo) : Prop where
  answer_eq : (nodes.store node).1 = (NodeMap.store map node).1
  invalid_iff : (nodes.store node).1 = espErrInvalidArg ↔ ¬ node.HasUnicast
  fail_iff : (nodes.store node).1 = espFail ↔
    node.HasUnicast ∧ map.lookup node.uuid = none ∧ map.size = capacity
  ok_otherwise : (nodes.store node).1 ≠ espErrInvalidArg → (nodes.store node).1 ≠ espFail →
    (nodes.store node).1 = espOk
  unchanged : (nodes.store node).1 ≠ espOk → (nodes.store node).2 = nodes
  overwrites : (nodes.store node).1 = espOk → ∀ index old, index < map.size →
    nodes.entries[index]? = some old → old.uuid = node.uuid →
    (nodes.store node).2.entries = nodes.entries.set index node
  adds : (nodes.store node).1 = espOk → map.lookup node.uuid = none →
    map.size < capacity ∧ (nodes.store node).2.entries = nodes.entries.set map.size node

/-! ## The list of the stored records -/

theorem isUnicast_iff (node : NodeInfo) :
    espBleMeshAddrIsUnicast node.unicast = true ↔ node.HasUnicast := by
  simp only [espBleMeshAddrIsUnicast, espBleMeshAddrUnassigned, NodeInfo.HasUnicast,
    Bool.and_eq_true, bne_iff_ne, ne_eq, decide_eq_true_eq, UInt16.le_iff_toNat_le,
    UInt16.lt_iff_toNat_lt, ← UInt16.toNat_inj]
  have low : (1 : UInt16).toNat = 1 := rfl
  have high : (0x7FFF : UInt16).toNat = 0x7FFF := rfl
  have limit : (0x8000 : UInt16).toNat = 0x8000 := rfl
  have zero : (0 : UInt16).toNat = 0 := rfl
  omega

/-- The array and the map hold the same records. -/
structure Nodes.Linked (nodes : Nodes capacity) (map : NodeMap capacity)
    (stored : List NodeInfo) : Prop where
  hold : nodes.Hold stored
  lists : map.Lists NodeInfo.uuid NodeInfo.value stored

theorem Nodes.linked_zeroed :
    (Nodes.zeroed : Nodes capacity).Linked (BoundedMap.empty : NodeMap capacity) [] where
  hold := hold_zeroed
  lists := BoundedMap.lists_empty _ _

theorem Nodes.Hold.getElem?_stored {nodes : Nodes capacity} {stored : List NodeInfo}
    (hold : nodes.Hold stored) {index : Nat} (inside : index < stored.length) :
    nodes.entries[index]? = stored[index]? := by
  rw [hold.entries_eq, List.getElem?_append_left inside]

theorem Nodes.Hold.unassigned_of_spare {nodes : Nodes capacity} {stored : List NodeInfo}
    (hold : nodes.Hold stored) {index : Nat} (outside : stored.length ≤ index)
    {node : NodeInfo} (present : nodes.entries[index]? = some node) :
    node.unicast = espBleMeshAddrUnassigned := by
  rw [hold.entries_eq, List.getElem?_append_right outside] at present
  rw [List.eq_of_mem_replicate (List.mem_of_getElem? present)]
  rfl

theorem Nodes.Linked.represents {nodes : Nodes capacity} {map : NodeMap capacity}
    {stored : List NodeInfo} (linked : nodes.Linked map stored) : nodes.Represents map where
  occupied_iff := by
    intro index node present
    rw [linked.lists.size_eq]
    constructor
    · intro assigned
      by_contra outside
      exact assigned (linked.hold.unassigned_of_spare (Nat.not_lt.mp outside) present)
    · intro inside
      rw [linked.hold.getElem?_stored inside] at present
      exact linked.hold.assigned node (List.mem_of_getElem? present)
  distinct := by
    intro left right first second leftInside rightInside leftPresent rightPresent same
    rw [linked.lists.size_eq] at leftInside rightInside
    rw [linked.hold.getElem?_stored leftInside] at leftPresent
    rw [linked.hold.getElem?_stored rightInside] at rightPresent
    rw [← List.getElem?_inj (by simpa using leftInside) linked.hold.distinct, List.getElem?_map,
      List.getElem?_map, leftPresent, rightPresent, Option.map_some, Option.map_some, same]
  lookup_iff := by
    intro uuid value
    rw [linked.lists.lookup_iff, linked.lists.size_eq]
    constructor
    · intro listed
      rcases listed with ⟨node, member, keyEq, valueEq⟩
      rcases List.mem_iff_getElem?.mp member with ⟨index, present⟩
      have inside : index < stored.length := (List.getElem?_eq_some_iff.mp present).1
      rw [← linked.hold.getElem?_stored inside] at present
      exact ⟨index, node, inside, present, keyEq, valueEq⟩
    · intro held
      rcases held with ⟨index, node, inside, present, keyEq, valueEq⟩
      rw [linked.hold.getElem?_stored inside] at present
      exact ⟨node, List.mem_of_getElem? present, keyEq, valueEq⟩

/-! ## One call -/

/-- What a call does to the array and to the map. -/
theorem Nodes.Linked.store_cases {nodes : Nodes capacity} {map : NodeMap capacity}
    {stored : List NodeInfo} (linked : nodes.Linked map stored) (node : NodeInfo) :
    (¬ node.HasUnicast ∧ nodes.store node = (espErrInvalidArg, nodes) ∧
      NodeMap.store map node = (espErrInvalidArg, map)) ∨
    (node.HasUnicast ∧ (map.lookup node.uuid = none ∧ map.size = capacity) ∧
      nodes.store node = (espFail, nodes) ∧ NodeMap.store map node = (espFail, map)) ∨
    (node.HasUnicast ∧ ¬ (map.lookup node.uuid = none ∧ map.size = capacity) ∧
      ∃ nodesAfter mapAfter, nodes.store node = (espOk, nodesAfter) ∧
        NodeMap.store map node = (espOk, mapAfter) ∧
        nodesAfter.Linked mapAfter (upsert NodeInfo.uuid stored node)) := by
  rcases linked with ⟨hold, lists⟩
  by_cases unicast : node.HasUnicast
  · have isUnicast := (isUnicast_iff node).mpr unicast
    refine Or.inr ?_
    cases inserted : map.insert node.uuid node.value with
    | none =>
        have full := BoundedMap.insert_eq_none_iff.mp inserted
        refine Or.inl ⟨unicast, full, ?_, by simp [NodeMap.store, unicast, inserted]⟩
        rw [lists.lookup_eq_none_iff, lists.size_eq] at full
        exact store_of_full hold full.1 isUnicast (Nat.le_of_eq full.2.symm)
    | some mapAfter =>
        have notFull : ¬ (map.lookup node.uuid = none ∧ map.size = capacity) := by
          intro full
          have refused : map.insert node.uuid node.value = none :=
            BoundedMap.insert_eq_none_iff.mpr full
          rw [inserted] at refused
          cases refused
        have accepted : ∃ nodesAfter, nodes.store node = (espOk, nodesAfter) ∧
            nodesAfter.Hold (upsert NodeInfo.uuid stored node) := by
          by_cases known : node.uuid ∈ stored.map NodeInfo.uuid
          · exact store_of_known hold known isUnicast
          · rw [lists.lookup_eq_none_iff, lists.size_eq] at notFull
            have room : stored.length < capacity := by
              apply Nat.lt_of_le_of_ne hold.length_le
              intro full
              exact notFull ⟨known, full⟩
            exact store_of_room hold known isUnicast room
        rcases accepted with ⟨nodesAfter, stores, holdAfter⟩
        exact Or.inr ⟨unicast, notFull, nodesAfter, mapAfter, stores,
          by simp [NodeMap.store, unicast, inserted], holdAfter, lists.upsert inserted⟩
  · refine Or.inl ⟨unicast, ?_, by simp [NodeMap.store, unicast]⟩
    have notUnicast : espBleMeshAddrIsUnicast node.unicast = false := by
      rw [Bool.eq_false_iff, ne_eq, isUnicast_iff]
      exact unicast
    simp [Nodes.store, exampleBleMeshStoreNodeInfo, notUnicast]

/-- A known UUID is overwritten in place. -/
theorem Nodes.Hold.entries_of_known {nodes after : Nodes capacity} {stored : List NodeInfo}
    {node old : NodeInfo} (hold : nodes.Hold stored)
    (holdAfter : after.Hold (upsert NodeInfo.uuid stored node)) {index : Nat}
    (present : stored[index]? = some old) (same : old.uuid = node.uuid) :
    after.entries = nodes.entries.set index node := by
  have inside : index < stored.length := (List.getElem?_eq_some_iff.mp present).1
  rw [holdAfter.entries_eq, upsert_eq_set hold.distinct present same, List.length_set,
    hold.entries_eq, List.set_append_left _ _ inside]

/-- A new UUID is put into the first record that is not in use. -/
theorem Nodes.Hold.entries_of_fresh {nodes after : Nodes capacity} {stored : List NodeInfo}
    {node : NodeInfo} (hold : nodes.Hold stored)
    (holdAfter : after.Hold (upsert NodeInfo.uuid stored node))
    (fresh : node.uuid ∉ stored.map NodeInfo.uuid) :
    stored.length < capacity ∧ after.entries = nodes.entries.set stored.length node := by
  have bound := holdAfter.length_le
  have entries := holdAfter.entries_eq
  rw [upsert_of_fresh fresh, List.length_append, List.length_singleton] at bound entries
  have spare : capacity - stored.length = capacity - (stored.length + 1) + 1 := by omega
  refine ⟨bound, ?_⟩
  rw [entries, hold.entries_eq, spare, List.set_append_right _ _ (Nat.le_refl _), Nat.sub_self,
    List.replicate_succ, List.set_cons_zero, List.append_assoc, List.singleton_append]

theorem Nodes.Linked.storesInto {nodes : Nodes capacity} {map : NodeMap capacity}
    {stored : List NodeInfo} (linked : nodes.Linked map stored) (node : NodeInfo) :
    nodes.StoresInto map node := by
  have okNeFail : espOk ≠ espFail := by decide
  have okNeInvalid : espOk ≠ espErrInvalidArg := by decide
  have failNeInvalid : espFail ≠ espErrInvalidArg := by decide
  rcases linked.store_cases node with
    ⟨notUnicast, stores, mapStores⟩ | ⟨unicast, full, stores, mapStores⟩ |
      ⟨unicast, notFull, nodesAfter, mapAfter, stores, mapStores, linkedAfter⟩
  · constructor <;>
      simp [stores, mapStores, notUnicast, okNeInvalid.symm, failNeInvalid.symm]
  · constructor <;> simp [stores, mapStores, unicast, full, okNeFail.symm, failNeInvalid]
  · constructor
    · rw [stores, mapStores]
    · simp [stores, unicast, okNeInvalid]
    · simp [stores, unicast, okNeFail, notFull]
    · simp [stores]
    · simp [stores]
    · intro _ index old inside present same
      rw [linked.lists.size_eq] at inside
      rw [linked.hold.getElem?_stored inside] at present
      rw [stores]
      exact linked.hold.entries_of_known linkedAfter.hold present same
    · intro _ absent
      rw [linked.lists.lookup_eq_none_iff] at absent
      rw [stores, linked.lists.size_eq]
      exact linked.hold.entries_of_fresh linkedAfter.hold absent

/-! ## All calls -/

/-- The array and the map stay linked, and answer the calls alike. -/
theorem Nodes.Linked.storeAll {nodes : Nodes capacity} {map : NodeMap capacity}
    {stored : List NodeInfo} (linked : nodes.Linked map stored) (calls : List NodeInfo) :
    ∃ storedAfter, (nodes.storeAll calls).Linked (NodeMap.storeAll map calls) storedAfter := by
  induction calls generalizing nodes map stored with
  | nil => exact ⟨stored, linked⟩
  | cons node calls induction =>
      simp only [Nodes.storeAll, NodeMap.storeAll, List.foldl_cons]
      rcases linked.store_cases node with
        ⟨_, stores, mapStores⟩ | ⟨_, _, stores, mapStores⟩ |
          ⟨_, _, nodesAfter, mapAfter, stores, mapStores, linkedAfter⟩
      · rw [stores, mapStores]
        exact induction linked
      · rw [stores, mapStores]
        exact induction linked
      · rw [stores, mapStores]
        exact induction linkedAfter

/-- After any calls the array represents the map after the same insertions, and the next
call does what inserting into the map does. -/
theorem nodes_refine_map (calls : List NodeInfo) (node : NodeInfo) :
    ((Nodes.zeroed : Nodes capacity).storeAll calls).Represents
        (NodeMap.storeAll BoundedMap.empty calls) ∧
      ((Nodes.zeroed : Nodes capacity).storeAll calls).StoresInto
        (NodeMap.storeAll BoundedMap.empty calls) node := by
  rcases Nodes.linked_zeroed.storeAll calls with ⟨stored, linked⟩
  exact ⟨linked.represents, linked.storesInto node⟩

end BleMesh.Provisioner
