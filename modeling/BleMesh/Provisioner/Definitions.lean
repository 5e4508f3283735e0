import Mathlib.Data.List.Basic

/-! # Data of the provisioner

The records of `provisioner_definitions.h` and `provisioner.c`, with the constants
they are built from. A C pointer to an array is an optional list: `none` is NULL.
-/

namespace BleMesh.Provisioner

def provTotalDevCnt : Nat := 10

def provMaxUnprovDevCnt : Nat := provTotalDevCnt

def provMaxProvDevCnt : Nat := provTotalDevCnt

/-- Sixteen bytes that are copied and compared as a whole. -/
abbrev Uuid := BitVec 128

/-- The six bytes of `esp_ble_mesh_bd_addr_t`. -/
abbrev BdAddr := BitVec 48

def espOk : Int := 0

def espFail : Int := -1

def espErrInvalidArg : Int := 0x102

def espBleMeshAddrUnassigned : UInt16 := 0

/-- Unicast addresses are 0x0001 to 0x7FFF. -/
def espBleMeshAddrIsUnicast (addr : UInt16) : Bool :=
  addr != espBleMeshAddrUnassigned && addr < 0x8000

/-- `esp_ble_mesh_unprov_dev_add_t`. -/
structure UnprovDevAdd where
  addr : BdAddr
  addrType : UInt8
  uuid : Uuid
  oobInfo : UInt16
  bearer : UInt8
  deriving DecidableEq

/-- The `vnd_model_id` member of the union in `s_provisioner_model_info_t`. -/
structure VndModelId where
  companyId : UInt16
  modelId : UInt16
  deriving DecidableEq

/-- `s_provisioner_element_info_t`. The union of a SIG model record is used
through its `sig_model_id` member, so `sig_models` is a list of ids. -/
structure ElementInfo where
  elementId : UInt16
  sigModelCount : Nat
  vndModelCount : Nat
  sigModels : Option (List UInt16)
  vndModels : Option (List VndModelId)
  deriving DecidableEq

/-- `s_provisioner_prov_node_info_t`. -/
structure ProvNodeInfo where
  name : String
  uuid : Uuid
  cid : UInt16
  pid : UInt16
  vid : UInt16
  crpl : UInt16
  features : UInt16
  unicastAddress : UInt16
  elementNum : Nat
  elements : Option (List ElementInfo)
  deriving DecidableEq

/-- `esp_ble_mesh_node_info_t`. -/
structure NodeInfo where
  uuid : Uuid
  unicast : UInt16
  elemNum : UInt8
  onoff : UInt8
  deriving DecidableEq

/-- A record of static storage before anything is stored in it. -/
def NodeInfo.zero : NodeInfo where
  uuid := 0
  unicast := espBleMeshAddrUnassigned
  elemNum := 0
  onoff := 0

theorem ne_unassigned_of_isUnicast {addr : UInt16}
    (unicast : espBleMeshAddrIsUnicast addr = true) : addr ≠ espBleMeshAddrUnassigned := by
  intro same
  subst same
  cases unicast

end BleMesh.Provisioner
