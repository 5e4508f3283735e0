import BleMesh.Provisioner.CompositionParser
import BleMesh.Provisioner.Nodes
import BleMesh.Provisioner.ProvTable

/-! # The callbacks of the provisioner

The mesh stack reports a finished provisioning through `prov_complete` and the replies
of nodes through `example_ble_mesh_config_client_cb`. Both work on the two node tables
and call the stack; the answers of the stack are inputs of the model.
-/

namespace BleMesh.Provisioner

open Foundation

variable {capacity : Nat}

/-- `struct esp_ble_mesh_key`. -/
structure ProvKey where
  netIdx : UInt16
  appIdx : UInt16
  appKey : BitVec 128

/-- The static variables the callbacks work on. Both tables have the same size, for
`sdkconfig` sets CONFIG_BLE_MESH_MAX_PROV_NODES to 10. -/
structure ProvisionerState (capacity : Nat) where
  provKey : ProvKey
  nodes : Nodes capacity
  provNodeInfo : SlotTable ProvNodeInfo capacity

/-- As `provisioner_init` leaves it: the key has index 0 twice and octets 0x12. -/
def ProvisionerState.initial : ProvisionerState capacity where
  provKey := {
    netIdx := 0
    appIdx := 0
    appKey := 0x12121212121212121212121212121212 }
  nodes := Nodes.zeroed
  provNodeInfo := SlotTable.empty

inductive ConfigOpcode
  | compositionDataGet
  | compositionDataStatus
  | appKeyAdd
  | appKeyStatus
  | modelAppBind
  | other (value : UInt32)
  deriving DecidableEq

/-- `esp_ble_mesh_client_common_param_t`. -/
structure ClientCommonParam where
  opcode : ConfigOpcode
  netIdx : UInt16
  appIdx : UInt16
  addr : UInt16
  sendTtl : UInt8
  msgTimeout : Int
  deriving DecidableEq

/-- The members of the get and set state unions that are used. -/
inductive ClientState
  | compDataGet (page : UInt8)
  | appKeyAdd (netIdx appIdx : UInt16) (appKey : BitVec 128)
  | modelAppBind (elementAddr modelAppIdx modelId companyId : UInt16)
  deriving DecidableEq

/-- Calls to the mesh stack. -/
inductive StackCall
  | setNodeName (nodeIdx : UInt16) (name : String)
  | configClientGetState (common : ClientCommonParam) (state : ClientState)
  | configClientSetState (common : ClientCommonParam) (state : ClientState)
  deriving DecidableEq

def exampleBleMeshSetMsgCommon (provKey : ProvKey) (node : NodeInfo) (opcode : ConfigOpcode) :
    ClientCommonParam where
  opcode := opcode
  netIdx := provKey.netIdx
  appIdx := provKey.appIdx
  addr := node.unicast
  sendTtl := 3
  msgTimeout := 0

def ledOff : UInt8 := 0

/-! ## `prov_complete` -/

/-- The parameters of a provisioning-complete event. `net_idx` is only logged. -/
structure ProvCompleteParam where
  nodeIdx : UInt16
  uuid : Uuid
  unicast : UInt16
  elemNum : UInt8

/-- What a call of `prov_complete` gets back: whether `malloc` succeeds, and the errors
of the two calls to the stack. -/
structure ProvCompleteAnswers where
  allocated : Bool
  setNodeName : Int
  configClientGetState : Int

structure Outcome (capacity : Nat) where
  returned : Int
  after : ProvisionerState capacity
  calls : List StackCall

/-- The node record of the device that has been provisioned. -/
def ProvCompleteParam.node (param : ProvCompleteParam) : NodeInfo where
  uuid := param.uuid
  unicast := param.unicast
  elemNum := param.elemNum
  onoff := ledOff

def provComplete (provisioner : ProvisionerState capacity) (param : ProvCompleteParam)
    (answers : ProvCompleteAnswers) : Outcome capacity :=
  -- The result of this call is not looked at.
  let provNodeInfo := (provisionerAddProvDevInfo provisioner.provNodeInfo (some param.uuid)
    param.unicast param.elemNum answers.allocated).2
  let naming := StackCall.setNodeName param.nodeIdx ("NODE-" ++ toString param.nodeIdx.toNat)
  if answers.setNodeName ≠ 0 then
    { returned := espFail, after := { provisioner with provNodeInfo }, calls := [naming] }
  else
    match exampleBleMeshStoreNodeInfo provisioner.nodes (some param.uuid) param.unicast
        param.elemNum ledOff with
    | (err, nodes) =>
        let after := { provisioner with nodes, provNodeInfo }
        if err ≠ 0 then { returned := espFail, after, calls := [naming] }
        else
          match exampleBleMeshGetNodeInfo nodes param.unicast with
          | none => { returned := espFail, after, calls := [naming] }
          | some node =>
              let get := StackCall.configClientGetState
                (exampleBleMeshSetMsgCommon provisioner.provKey node .compositionDataGet)
                (.compDataGet 0)
              if answers.configClientGetState ≠ 0 then
                { returned := espFail, after, calls := [naming, get] }
              else { returned := espOk, after, calls := [naming, get] }

/-- Whatever it returns, the call has been passed on to `provisioner_add_prov_dev_info`. -/
theorem provComplete_provNodeInfo (provisioner : ProvisionerState capacity)
    (param : ProvCompleteParam) (answers : ProvCompleteAnswers) :
    (provComplete provisioner param answers).after.provNodeInfo =
      (provisionerAddProvDevInfo provisioner.provNodeInfo (some param.uuid) param.unicast
        param.elemNum answers.allocated).2 := by
  simp only [provComplete]
  split
  · rfl
  split
  · rfl
  split
  · rfl
  · split <;> rfl

/-- What a call that returns ESP_OK has done. -/
structure Completes (provisioner : ProvisionerState capacity) (param : ProvCompleteParam)
    (answers : ProvCompleteAnswers) (nodes : Nodes capacity) : Prop where
  stores : exampleBleMeshStoreNodeInfo provisioner.nodes (some param.node.uuid)
    param.node.unicast param.node.elemNum param.node.onoff = (espOk, nodes)
  found : (exampleBleMeshGetNodeInfo nodes param.unicast).isSome = true
  after : (provComplete provisioner param answers).after =
    { provisioner with
      nodes
      provNodeInfo := (provisionerAddProvDevInfo provisioner.provNodeInfo (some param.uuid)
        param.unicast param.elemNum answers.allocated).2 }

theorem completes_of_ok {provisioner : ProvisionerState capacity} {param : ProvCompleteParam}
    {answers : ProvCompleteAnswers}
    (returned : (provComplete provisioner param answers).returned = espOk) :
    ∃ nodes, Completes provisioner param answers nodes := by
  rcases stores : exampleBleMeshStoreNodeInfo provisioner.nodes (some param.uuid)
    param.unicast param.elemNum ledOff with ⟨err, nodes⟩
  by_cases named : answers.setNodeName = 0
  · by_cases failed : err = 0
    · subst failed
      cases found : exampleBleMeshGetNodeInfo nodes param.unicast with
      | none => simp [provComplete, named, stores, found, espFail, espOk] at returned
      | some node =>
          refine ⟨nodes, stores, by simp [found], ?_⟩
          simp only [provComplete, named, stores, found, ne_eq, not_true_eq_false, if_false]
          split <;> rfl
    · simp [provComplete, named, stores, failed, espFail, espOk] at returned
  · simp [provComplete, named, espFail, espOk] at returned

/-! ## `example_ble_mesh_config_client_cb` -/

inductive CfgClientEvent
  | getState
  | setState
  | publish
  | timeout
  | other
  deriving DecidableEq

/-- The parameters of a configuration client event. The buffer is the composition
data of a reply. -/
structure CfgClientParam where
  errorCode : Int
  opcode : ConfigOpcode
  addr : UInt16
  compositionData : NetBufSimple

def onoffServerModelId : UInt16 := 0x1000

/-- `ESP_BLE_MESH_CID_NVAL`. -/
def cidNval : UInt16 := 0xFFFF

/-- The state and the calls to the stack, unless an assertion of the parser fails.
Errors of the calls are only logged. -/
def exampleBleMeshConfigClientCb (provisioner : ProvisionerState capacity)
    (event : CfgClientEvent) (param : CfgClientParam) (malloc : Nat → Bool) :
    Option (ProvisionerState capacity × List StackCall) :=
  if param.errorCode ≠ 0 then some (provisioner, [])
  else
    match exampleBleMeshGetNodeInfo provisioner.nodes param.addr with
    | none => some (provisioner, [])
    | some node =>
        let common := exampleBleMeshSetMsgCommon provisioner.provKey node
        let modelAppBind := ClientState.modelAppBind node.unicast provisioner.provKey.appIdx
          onoffServerModelId cidNval
        match event, param.opcode with
        | .getState, .compositionDataGet =>
            (parseCompositionData provisioner.provNodeInfo malloc (some param.compositionData)
              param.addr).returned.map fun result =>
                ({ provisioner with provNodeInfo := result.2 }, [])
        | .setState, .appKeyAdd =>
            some (provisioner, [.configClientSetState (common .modelAppBind) modelAppBind])
        | .timeout, .compositionDataGet =>
            some (provisioner,
              [.configClientGetState (common .compositionDataGet) (.compDataGet 0)])
        | .timeout, .appKeyAdd =>
            some (provisioner, [.configClientSetState (common .appKeyAdd)
              (.appKeyAdd provisioner.provKey.netIdx provisioner.provKey.appIdx
                provisioner.provKey.appKey)])
        | .timeout, .modelAppBind =>
            some (provisioner, [.configClientSetState (common .modelAppBind) modelAppBind])
        | _, _ => some (provisioner, [])

/-- A callback that returns leaves the state alone or has parsed a reply. -/
theorem exampleBleMeshConfigClientCb_effect {provisioner after : ProvisionerState capacity}
    {event : CfgClientEvent} {param : CfgClientParam} {malloc : Nat → Bool}
    {calls : List StackCall}
    (returns : exampleBleMeshConfigClientCb provisioner event param malloc =
      some (after, calls)) :
    ∃ code table, ParseEffect provisioner.provNodeInfo param.addr code table ∧
      after = { provisioner with provNodeInfo := table } := by
  have unchanged : some (provisioner, calls) = some (after, calls) → ∃ code table,
      ParseEffect provisioner.provNodeInfo param.addr code table ∧
        after = { provisioner with provNodeInfo := table } := by
    intro same
    cases same
    exact ⟨-1, provisioner.provNodeInfo, .rejected, rfl⟩
  simp only [exampleBleMeshConfigClientCb] at returns
  split at returns
  · cases returns
    exact unchanged rfl
  split at returns
  · cases returns
    exact unchanged rfl
  split at returns
  · rcases Option.map_eq_some_iff.mp returns with ⟨⟨code, table⟩, parsed, equal⟩
    cases equal
    exact ⟨code, table, parseCompositionData_effect parsed, rfl⟩
  all_goals
    cases returns
    exact unchanged rfl

end BleMesh.Provisioner
