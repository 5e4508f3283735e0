import BleMesh.Lightness.Conversions

/-! # The Light Lightness server

The part of `BLE_mesh_light_server_lightness_server.c` that answers state changes. A Set
writes the lightness on the other scale and the two Generic states bound to it, and is
answered from the record that the server shares with the stack.
-/

namespace BleMesh.Lightness

/-- The fields of `esp_ble_mesh_light_lightness_state_t` that are sent. -/
structure LightnessState where
  lightnessLinear : UInt16
  lightnessActual : UInt16
  lightnessLast : UInt16
  lightnessDefault : UInt16
  deriving DecidableEq

/-- The initializer of `light_lightness_states_server`. -/
def LightnessState.initial : LightnessState where
  lightnessLinear := 0
  lightnessActual := 0
  lightnessLast := 0
  lightnessDefault := 0

inductive Opcode
  | lightnessGet
  | lightnessSet
  | lightnessSetUnack
  | lightnessLinearGet
  | lightnessLinearSet
  | lightnessLinearSetUnack
  | lightnessLastGet
  | lightnessDefaultGet
  | lightnessRangeGet
  | other (value : UInt32)
  deriving DecidableEq

inductive StatusOpcode
  | lightnessStatus
  | lightnessLinearStatus
  | lightnessLastStatus
  | lightnessDefaultStatus
  deriving DecidableEq

/-- `esp_ble_mesh_msg_ctx_t`. -/
structure MsgCtx where
  addr : UInt16
  recvDst : UInt16
  recvOp : Opcode
  deriving DecidableEq

/-- `esp_ble_mesh_lighting_server_cb_param_t` of a state change. The new lightness is the
same two bytes in the members of both Sets. -/
structure StateChange where
  ctx : MsgCtx
  lightness : UInt16
  deriving DecidableEq

/-- `esp_ble_mesh_server_state_value_t` with the type of the state it is written to. -/
inductive StateValue
  | lightLightnessLinear (lightness : UInt16)
  | lightLightnessActual (lightness : UInt16)
  | genericOnoff (onoff : UInt8)
  | genericLevel (level : Int16)
  deriving DecidableEq

/-- A call to the stack. -/
inductive StackCall
  | updateState (value : StateValue)
  | sendMsg (ctx : MsgCtx) (opcode : StatusOpcode) (lightness : UInt16)
  deriving DecidableEq

/-- What `esp_ble_mesh_server_model_update_state` does to the server's record. -/
abbrev Stack := LightnessState → StateValue → LightnessState

/-- The record `light_lightness_states_server`, and the calls to the stack so far. -/
structure Outcome where
  states : LightnessState
  calls : List StackCall
  deriving DecidableEq

namespace Outcome

def updateState (outcome : Outcome) (stack : Stack) (value : StateValue) : Outcome where
  states := stack outcome.states value
  calls := outcome.calls ++ [.updateState value]

def sendMsg (outcome : Outcome) (ctx : MsgCtx) (opcode : StatusOpcode)
    (lightness : LightnessState → UInt16) : Outcome :=
  { outcome with
    calls := outcome.calls ++ [.sendMsg ctx opcode (lightness outcome.states)] }

/-- Both Sets write the Generic states from their variable `lightness`. -/
def updateGeneric (outcome : Outcome) (stack : Stack) (lightness : UInt16) : Outcome :=
  let outcome := outcome.updateState stack (.genericOnoff (if lightness ≠ 0 then 1 else 0))
  outcome.updateState stack (.genericLevel (Int16.ofInt ((lightness.toNat : Int) - 32768)))

/-- The branch for Set and Set Unacknowledged. -/
def receiveSet (outcome : Outcome) (conversions : Conversions) (stack : Stack)
    (param : StateChange) : Outcome :=
  let lightness := conversions.toLinear param.lightness
  let outcome := outcome.updateState stack (.lightLightnessLinear lightness)
  let outcome := outcome.updateGeneric stack lightness
  outcome.sendMsg param.ctx .lightnessStatus LightnessState.lightnessActual

/-- The branch for Linear Set and Linear Set Unacknowledged. -/
def receiveLinearSet (outcome : Outcome) (conversions : Conversions) (stack : Stack)
    (param : StateChange) : Outcome :=
  let lightness := conversions.toActual param.lightness
  let outcome := outcome.updateState stack (.lightLightnessActual lightness)
  let outcome := outcome.updateGeneric stack lightness
  outcome.sendMsg param.ctx .lightnessLinearStatus LightnessState.lightnessLinear

end Outcome

def lightLightnessModelServerStateChangeEventProcessor (conversions : Conversions)
    (stack : Stack) (states : LightnessState) (param : StateChange) : Outcome :=
  let outcome : Outcome := { states, calls := [] }
  match param.ctx.recvOp with
  | .lightnessGet =>
      outcome.sendMsg param.ctx .lightnessStatus LightnessState.lightnessActual
  | .lightnessSet => outcome.receiveSet conversions stack param
  | .lightnessSetUnack => outcome.receiveSet conversions stack param
  | .lightnessLinearGet =>
      outcome.sendMsg param.ctx .lightnessLinearStatus LightnessState.lightnessLinear
  | .lightnessLinearSet => outcome.receiveLinearSet conversions stack param
  | .lightnessLinearSetUnack => outcome.receiveLinearSet conversions stack param
  | .lightnessLastGet =>
      outcome.sendMsg param.ctx .lightnessLastStatus LightnessState.lightnessLast
  | .lightnessDefaultGet =>
      outcome.sendMsg param.ctx .lightnessDefaultStatus LightnessState.lightnessDefault
  | .lightnessRangeGet => outcome
  | .other _ => outcome

/-! ## What is written -/

def StackCall.level? : StackCall → Option Int16
  | .updateState (.genericLevel level) => some level
  | _ => none

def StackCall.onoff? : StackCall → Option UInt8
  | .updateState (.genericOnoff onoff) => some onoff
  | _ => none

/-- The values written to the Generic Level state. -/
def Outcome.levels (outcome : Outcome) : List Int16 := outcome.calls.filterMap StackCall.level?

/-- The values written to the Generic OnOff state. -/
def Outcome.onoffs (outcome : Outcome) : List UInt8 := outcome.calls.filterMap StackCall.onoff?

/-- The Level that goes with a lightness. The difference is in the range of `int16_t`. -/
theorem toInt_level (lightness : UInt16) :
    (Int16.ofInt ((lightness.toNat : Int) - 32768)).toInt = (lightness.toNat : Int) - 32768 := by
  have bound := lightness.toNat_lt
  exact Int16.toInt_ofInt_of_le (by omega) (by omega)

/-- A Set of either kind writes one Level and one OnOff, both from the lightness on the
other scale. -/
theorem receiveSet_generic (conversions : Conversions) (stack : Stack) (states : LightnessState)
    (param : StateChange) :
    ((⟨states, []⟩ : Outcome).receiveSet conversions stack param).levels =
        [Int16.ofInt (((conversions.toLinear param.lightness).toNat : Int) - 32768)] ∧
      ((⟨states, []⟩ : Outcome).receiveSet conversions stack param).onoffs =
        [if conversions.toLinear param.lightness ≠ 0 then 1 else 0] :=
  ⟨rfl, rfl⟩

theorem receiveLinearSet_generic (conversions : Conversions) (stack : Stack)
    (states : LightnessState) (param : StateChange) :
    ((⟨states, []⟩ : Outcome).receiveLinearSet conversions stack param).levels =
        [Int16.ofInt (((conversions.toActual param.lightness).toNat : Int) - 32768)] ∧
      ((⟨states, []⟩ : Outcome).receiveLinearSet conversions stack param).onoffs =
        [if conversions.toActual param.lightness ≠ 0 then 1 else 0] :=
  ⟨rfl, rfl⟩

end BleMesh.Lightness
