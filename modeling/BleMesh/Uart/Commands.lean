import BleMesh.Foundation.ByteReader

/-! # The UART command handler

`uart_rx_task` reads whatever is buffered and gives it to
`UART_cmd_handler_process_uart_data` as one packet. The packet names one of three
groups of commands, and the handler of the group decodes the command and carries it
out. The pointers tested for NULL are never NULL here; a reader fails where
`payload[0]` is read and there is no payload.
-/

namespace BleMesh.Uart

open Foundation

def uartCmdStartByte : UInt8 := 0xAA

def uartCmdSystemOperationPing : UInt8 := 0x00
def uartCmdSystemOperationRestart : UInt8 := 0x01

def uartCmdBluetoothOperationStartBle : UInt8 := 0x01

def uartCmdProvisionerOperationBeginProv : UInt8 := 0x01
def uartCmdProvisionerOperationListUnprovNodes : UInt8 := 0x02
def uartCmdProvisionerOperationListProvNodes : UInt8 := 0x03
def uartCmdProvisionerOperationAddNodeIdx : UInt8 := 0x04
def uartCmdProvisionerOperationGetDeviceComposition : UInt8 := 0x05

inductive Group
  | system
  | bluetooth
  | provisioner
  deriving DecidableEq

/-- `UART_CMD_SYSTEM_OPERATION_COMMANDS` and its siblings. -/
def Group.code : Group → UInt8
  | .system => 0x01
  | .bluetooth => 0x02
  | .provisioner => 0x03

/-- The operations a group has a case for. -/
def Group.operations : Group → List UInt8
  | .system => [uartCmdSystemOperationPing, uartCmdSystemOperationRestart]
  | .bluetooth => [uartCmdBluetoothOperationStartBle]
  | .provisioner =>
      [uartCmdProvisionerOperationBeginProv, uartCmdProvisionerOperationListUnprovNodes,
        uartCmdProvisionerOperationListProvNodes, uartCmdProvisionerOperationAddNodeIdx,
        uartCmdProvisionerOperationGetDeviceComposition]

theorem Group.code_injective : Function.Injective Group.code := by
  intro left right equal
  cases left <;> cases right <;> first | rfl | exact absurd equal (by decide)

/-- A decoded command. Without payload bytes the payload pointer is NULL. -/
structure Command where
  group : Group
  requiredResponse : UInt8
  operation : UInt8
  payload : List UInt8
  deriving DecidableEq

/-- What a handler goes on to do. A ping, a request for a composition and an unknown
operation call nothing. -/
inductive Action
  | ping
  | restart
  | startBle
  | beginProv
  | listUnprovNodes
  | listProvNodes
  | addNodeIdx (index : UInt8)
  | getDeviceComposition
  | unknown
  deriving DecidableEq

structure Execution where
  command : Command
  action : Action
  deriving DecidableEq

/-- The fields behind the command byte, as all handlers read them. There is no command
when the memory for the payload is missing. -/
def readCommand (group : Group) : Reader (Option Command) := do
  let requiredResponse ← Reader.readNext
  let operation ← Reader.readNext
  let payloadLen ← Reader.readNext
  if 0 < payloadLen then
    if ← Reader.allocate then
      let payload ← Reader.copyNext payloadLen.toNat
      return some { group, requiredResponse, operation, payload }
    else
      return none
  else
    return some { group, requiredResponse, operation, payload := [] }

/-- A handler decodes a command of its group and carries out its operation. Without a
command it returns early. -/
def handleControl (group : Group) (perform : Command → Reader Action) :
    Reader (Option Execution) := do
  match ← readCommand group with
  | none => return none
  | some command =>
      let action ← perform command
      return some { command, action }

/-- Its return value, -1 for the early return, is ignored by the caller. -/
def handleSystemControl : Reader (Option Execution) :=
  handleControl .system fun command => pure (
    if command.operation = uartCmdSystemOperationPing then
      .ping
    else if command.operation = uartCmdSystemOperationRestart then
      .restart
    else
      .unknown)

def handleBluetoothControl : Reader (Option Execution) :=
  handleControl .bluetooth fun command => pure (
    if command.operation = uartCmdBluetoothOperationStartBle then
      .startBle
    else
      .unknown)

/-- `payload[0]`. -/
def readPayload : List UInt8 → Reader UInt8
  | [] => Reader.readNull
  | first :: _ => pure first

def handleProvisionerControl : Reader (Option Execution) :=
  handleControl .provisioner fun command =>
    if command.operation = uartCmdProvisionerOperationBeginProv then
      return .beginProv
    else if command.operation = uartCmdProvisionerOperationListUnprovNodes then
      return .listUnprovNodes
    else if command.operation = uartCmdProvisionerOperationListProvNodes then
      return .listProvNodes
    else if command.operation = uartCmdProvisionerOperationAddNodeIdx then do
      let index ← readPayload command.payload
      return .addNodeIdx index
    else if command.operation = uartCmdProvisionerOperationGetDeviceComposition then
      return .getDeviceComposition
    else
      return .unknown

/-- The XOR of some bytes. -/
def xorAll (bytes : List UInt8) : UInt8 := bytes.foldl (· ^^^ ·) 0

def uartCmdHandlerProcessUartData (len : Nat) : Reader (Option Execution) :=
  if len = 0 then
    return none
  else do
    -- The bytes that are logged.
    let _ ← Reader.readRange 0 len
    let startByte ← Reader.readNext
    let _checksum ← Reader.readAt (len - 1)
    if startByte ≠ uartCmdStartByte then
      return none
    else
      -- The comparison of the two checksums is commented out.
      let _checksumCalculated := xorAll (← Reader.readRange 0 (len - 1))
      let command ← Reader.readNext
      if command = Group.system.code then
        handleSystemControl
      else if command = Group.bluetooth.code then
        handleBluetoothControl
      else if command = Group.provisioner.code then
        handleProvisionerControl
      else
        return none

/-- The largest `int`. -/
def intMax : Nat := 0x7FFFFFFF

/-- One pass of the loop in `uart_rx_task`. The first allocation is that of the buffer.
The log of the buffer takes its length as a `uint16_t`, the handler as a `size_t`. -/
def uartRxTask (tempDataLen : Nat) (actualBytesRead : Int) : Reader (Option Execution) :=
  if tempDataLen = 0 then
    return none
  else do
    if ← Reader.allocate then
      if actualBytesRead = 0 then
        return none
      else
        let _ ← Reader.readRange 0 (actualBytesRead % UInt16.size).toNat
        uartCmdHandlerProcessUartData (actualBytesRead % UInt32.size).toNat
    else
      return none

/-! ## What is executed -/

/-- The command that a handler has decoded and branched on by its operation. An operation
without a branch counts, too: the handler takes its last branch and logs it. -/
def executedCommand (handler : Reader (Option Execution)) (source : Source) (cursor : Cursor) :
    Option Command :=
  (handler.run source cursor).1.join.map Execution.command

theorem executedCommand_eq_some_iff {handler : Reader (Option Execution)} {source : Source}
    {cursor : Cursor} {command : Command} :
    executedCommand handler source cursor = some command ↔
      ∃ action, (handler.run source cursor).1 = some (some { command, action }) := by
  simp only [executedCommand, Option.map_eq_some_iff, Option.join_eq_some_iff]
  constructor
  · intro executed
    rcases executed with ⟨⟨command, action⟩, ran, rfl⟩
    exact ⟨action, ran⟩
  · intro executed
    rcases executed with ⟨action, ran⟩
    exact ⟨_, ran, rfl⟩

/-- The bytes of a command that its handler decodes. -/
def Command.fields (command : Command) : List UInt8 :=
  command.requiredResponse :: command.operation ::
    UInt8.ofNat command.payload.length :: command.payload

/-- The bytes of a command without the checksum. -/
def Command.body (command : Command) : List UInt8 :=
  uartCmdStartByte :: command.group.code :: command.fields

/-- The length byte can hold the length of the payload. -/
def Command.PayloadFits (command : Command) : Prop := command.payload.length < 256

/-- The operation that uses `payload[0]` has a payload. -/
def Command.HasOperand (command : Command) : Prop :=
  command.group = .provisioner → command.operation = uartCmdProvisionerOperationAddNodeIdx →
    command.payload ≠ []

/-- What `readCommand` decodes. -/
def commandAt (source : Source) (group : Group) (offset mallocs : Nat) : Option Command :=
  if 0 < source.byte (offset + 2) ∧ source.malloc mallocs = false then
    none
  else
    some {
      group
      requiredResponse := source.byte offset
      operation := source.byte (offset + 1)
      payload := (List.range' (offset + 3) (source.byte (offset + 2)).toNat).map source.byte }

theorem readCommand_returns (group : Group) (source : Source) (cursor : Cursor) :
    ∃ after, (readCommand group).run source cursor =
      (some (commandAt source group cursor.offset cursor.mallocs), after) := by
  by_cases payload : 0 < source.byte (cursor.offset + 2)
  · cases allocated : source.malloc cursor.mallocs with
    | false => simp [readCommand, Reader.run_bind, commandAt, payload, allocated]
    | true => simp [readCommand, Reader.run_bind, commandAt, payload, allocated]
  · have empty : (source.byte (cursor.offset + 2)).toNat = 0 := Nat.eq_zero_of_not_pos payload
    simp [readCommand, Reader.run_bind, commandAt, payload, empty]

/-- The length byte is zero only without a payload. -/
theorem lengthByte_pos_iff {payload : List UInt8} (fits : payload.length < 256) :
    0 < UInt8.ofNat payload.length ↔ payload ≠ [] := by
  have count : (UInt8.ofNat payload.length).toNat = payload.length := Nat.mod_eq_of_lt fits
  rw [UInt8.lt_iff_toNat_lt, count]
  exact List.length_pos_iff

/-- A handler decodes a command exactly if its bytes lie in memory and the payload, if
there is one, gets its memory. -/
theorem commandAt_eq_some_iff {source : Source} {group : Group} {offset mallocs : Nat}
    {command : Command} :
    commandAt source group offset mallocs = some command ↔
      group = command.group ∧ command.PayloadFits ∧
        source.HoldsBytes offset command.fields ∧
        (command.payload ≠ [] → source.malloc mallocs = true) := by
  rcases command with ⟨commandGroup, requiredResponse, operation, payload⟩
  have position : offset + 1 + 1 + 1 = offset + 3 := rfl
  simp only [Command.fields, Command.PayloadFits, Source.holdsBytes_cons, position]
  constructor
  · intro decoded
    simp only [commandAt] at decoded
    split at decoded
    · cases decoded
    next available =>
      cases decoded
      have fits : ((List.range' (offset + 3) (source.byte (offset + 2)).toNat).map
          source.byte).length < 256 := by
        simpa using UInt8.toNat_lt (source.byte (offset + 2))
      refine ⟨rfl, fits, ⟨rfl, rfl, by simp, by simp [Source.HoldsBytes]⟩, ?_⟩
      intro nonempty
      have positive : 0 < source.byte (offset + 2) := by
        simpa using (lengthByte_pos_iff fits).mpr nonempty
      simpa [positive] using available
  · intro holds
    rcases holds with ⟨rfl, fits, ⟨response, operationAt, lengthAt, payloadAt⟩, allocated⟩
    have count : (source.byte (offset + 2)).toNat = payload.length := by
      rw [lengthAt]
      exact Nat.mod_eq_of_lt fits
    have available : ¬ (0 < source.byte (offset + 2) ∧ source.malloc mallocs = false) := by
      rw [lengthAt, lengthByte_pos_iff fits]
      intro missing
      rw [allocated missing.1] at missing
      cases missing.2
    rw [commandAt, if_neg available, count, response, operationAt, payloadAt]

theorem executedCommand_handleControl {group : Group} {perform : Command → Reader Action}
    {source : Source} {cursor : Cursor} {command : Command}
    (performs : command.group = group → ∀ cursor,
      (∃ action, ((perform command).run source cursor).1 = some action) ↔ command.HasOperand) :
    executedCommand (handleControl group perform) source cursor = some command ↔
      commandAt source group cursor.offset cursor.mallocs = some command ∧
        command.HasOperand := by
  rw [executedCommand_eq_some_iff]
  rcases readCommand_returns group source cursor with ⟨after, returns⟩
  rw [handleControl, Reader.run_bind_some returns]
  cases decoded : commandAt source group cursor.offset cursor.mallocs with
  | none => simp
  | some found =>
      simp only [Option.some.injEq, Reader.run_bind_returns_iff]
      constructor
      · intro executed
        rcases executed with ⟨action, performedAction, final, performed, ran⟩
        cases ran
        have same := (commandAt_eq_some_iff.mp decoded).1.symm
        exact ⟨rfl, (performs same after).mp ⟨action, by rw [performed]⟩⟩
      · intro both
        rcases both with ⟨rfl, operand⟩
        have same := (commandAt_eq_some_iff.mp decoded).1.symm
        rcases (performs same after).mpr operand with ⟨action, performed⟩
        exact ⟨action, action, _, Prod.ext performed rfl, rfl⟩

/-- The handler of a group. -/
def Group.handler : Group → Reader (Option Execution)
  | .system => handleSystemControl
  | .bluetooth => handleBluetoothControl
  | .provisioner => handleProvisionerControl

/-- Carrying out a command of a group reads no more bytes, fails only where the operand is
missing, and knows the operations of the group. -/
structure CarriesOut (group : Group) (perform : Command → Reader Action) : Prop where
  cursor_same : ∀ (command : Command) (source : Source) (cursor : Cursor),
    ((perform command).run source cursor).2 = cursor
  returns_iff : ∀ (command : Command) (source : Source) (cursor : Cursor),
    command.group = group →
      ((∃ action, ((perform command).run source cursor).1 = some action) ↔ command.HasOperand)
  known_iff : ∀ (command : Command) (source : Source) (cursor : Cursor) (action : Action),
    ((perform command).run source cursor).1 = some action →
      (action ≠ .unknown ↔ command.operation ∈ group.operations)

theorem handler_carriesOut (group : Group) :
    ∃ perform, group.handler = handleControl group perform ∧ CarriesOut group perform := by
  cases group with
  | system =>
      refine ⟨_, rfl, ?_, ?_, ?_⟩
      · intro command source cursor
        rfl
      · intro command source cursor same
        simp [Command.HasOperand, same]
      · intro command source cursor action performed
        cases performed
        split_ifs <;> simp [Group.operations, *]
  | bluetooth =>
      refine ⟨_, rfl, ?_, ?_, ?_⟩
      · intro command source cursor
        rfl
      · intro command source cursor same
        simp [Command.HasOperand, same]
      · intro command source cursor action performed
        cases performed
        by_cases start : command.operation = uartCmdBluetoothOperationStartBle <;>
          simp [Group.operations, start]
  | provisioner =>
      have notBegin : uartCmdProvisionerOperationAddNodeIdx ≠
          uartCmdProvisionerOperationBeginProv := by decide
      have notUnprov : uartCmdProvisionerOperationAddNodeIdx ≠
          uartCmdProvisionerOperationListUnprovNodes := by decide
      have notProv : uartCmdProvisionerOperationAddNodeIdx ≠
          uartCmdProvisionerOperationListProvNodes := by decide
      refine ⟨_, rfl, ?_, ?_, ?_⟩
      · intro command source cursor
        cases payload : command.payload <;> split_ifs <;> rfl
      · intro command source cursor same
        by_cases adds : command.operation = uartCmdProvisionerOperationAddNodeIdx
        · simp only [adds, Command.HasOperand, same, if_neg notBegin, if_neg notUnprov,
            if_neg notProv, if_true]
          cases payload : command.payload with
          | nil => simp [readPayload, Reader.run_bind]
          | cons first rest => simp [readPayload, Reader.run_bind]
        · simp only [adds, Command.HasOperand, if_false]
          split_ifs <;> simp
      · intro command source cursor action performed
        by_cases adds : command.operation = uartCmdProvisionerOperationAddNodeIdx
        · simp only [adds, if_neg notBegin, if_neg notUnprov, if_neg notProv, if_true,
            Reader.run_bind_returns_iff] at performed
          rcases performed with ⟨index, after, _, returned⟩
          cases returned
          simp [Group.operations, adds]
        · simp only [adds, if_false] at performed
          split_ifs at performed <;> cases performed <;> simp [Group.operations, *]

theorem executedCommand_handler {group : Group} {source : Source} {cursor : Cursor}
    {command : Command} :
    executedCommand group.handler source cursor = some command ↔
      commandAt source group cursor.offset cursor.mallocs = some command ∧
        command.HasOperand := by
  rcases handler_carriesOut group with ⟨perform, handlerEq, carriesOut⟩
  rw [handlerEq]
  apply executedCommand_handleControl
  intro same cursor
  exact carriesOut.returns_iff command source cursor same

/-- What a packet in memory makes the handler execute: there is memory for the payload
and the payload that the operation uses. -/
structure Command.Executable (command : Command) (allocated : Bool) : Prop where
  fits : command.PayloadFits
  payload : command.payload ≠ [] → allocated = true
  operand : command.HasOperand

/-- The command byte selects the handler of its group, if it belongs to one. -/
theorem dispatch_cases (code : UInt8) :
    (∃ group : Group, code = group.code ∧
      (if code = Group.system.code then handleSystemControl
        else if code = Group.bluetooth.code then handleBluetoothControl
        else if code = Group.provisioner.code then handleProvisionerControl
        else return none) = group.handler) ∨
    ((∀ group : Group, code ≠ group.code) ∧
      (if code = Group.system.code then handleSystemControl
        else if code = Group.bluetooth.code then handleBluetoothControl
        else if code = Group.provisioner.code then handleProvisionerControl
        else return none) = return none) := by
  split
  next system => exact Or.inl ⟨.system, system, rfl⟩
  next notSystem =>
    split
    next bluetooth => exact Or.inl ⟨.bluetooth, bluetooth, rfl⟩
    next notBluetooth =>
      split
      next provisioner => exact Or.inl ⟨.provisioner, provisioner, rfl⟩
      next notProvisioner =>
        refine Or.inr ⟨?_, rfl⟩
        intro group
        cases group with
        | system => exact notSystem
        | bluetooth => exact notBluetooth
        | provisioner => exact notProvisioner

theorem executedCommand_dispatch {source : Source} {cursor : Cursor} {code : UInt8}
    {command : Command} :
    executedCommand
        (if code = Group.system.code then handleSystemControl
        else if code = Group.bluetooth.code then handleBluetoothControl
        else if code = Group.provisioner.code then handleProvisionerControl
        else return none) source cursor = some command ↔
      code = command.group.code ∧
        executedCommand command.group.handler source cursor = some command := by
  rcases dispatch_cases code with ⟨group, codeEq, selected⟩ | ⟨noGroup, selected⟩
  · rw [selected]
    constructor
    · intro executed
      have same := (commandAt_eq_some_iff.mp (executedCommand_handler.mp executed).1).1
      rw [← same]
      exact ⟨codeEq, executed⟩
    · intro both
      have same : group = command.group := Group.code_injective (codeEq.symm.trans both.1)
      rw [same]
      exact both.2
  · rw [selected]
    refine iff_of_false (by simp [executedCommand]) ?_
    intro both
    exact noGroup command.group both.1

/-- A packet is executed as a command exactly if it starts with the command's bytes. Its
length and its last byte do not matter. -/
theorem executedCommand_process {len : Nat} (received : 0 < len) {source : Source}
    {cursor : Cursor} (atStart : cursor.offset = 0) {command : Command} :
    executedCommand (uartCmdHandlerProcessUartData len) source cursor = some command ↔
      source.HoldsBytes 0 command.body ∧
        command.Executable (source.malloc cursor.mallocs) := by
  have notEmpty : len ≠ 0 := Nat.ne_of_gt received
  rw [uartCmdHandlerProcessUartData, if_neg notEmpty]
  simp only [executedCommand, Reader.run_bind, Reader.run_readRange, Reader.run_readNext,
    Reader.run_readAt, atStart]
  by_cases started : source.byte 0 = uartCmdStartByte
  · simp only [started, ne_eq, not_true_eq_false, if_false, Reader.run_bind,
      Reader.run_readRange, Reader.run_readNext]
    refine Iff.trans executedCommand_dispatch ?_
    rw [executedCommand_handler, commandAt_eq_some_iff]
    simp only [Cursor.advance_offset, Cursor.advance_mallocs, Command.body,
      Source.holdsBytes_cons, started, true_and]
    constructor
    · intro holds
      rcases holds with ⟨codeAt, ⟨fits, fields, payload⟩, operand⟩
      exact ⟨⟨codeAt, fields⟩, fits, payload, operand⟩
    · intro holds
      rcases holds with ⟨⟨codeAt, fields⟩, fits, payload, operand⟩
      exact ⟨codeAt, ⟨fits, fields, payload⟩, operand⟩
  · simp [started, Command.body]

theorem executedCommand_uartRxTask {tempDataLen len : Nat} (received : 0 < len)
    (buffered : len ≤ tempDataLen) (counted : len ≤ intMax) {source : Source}
    (allocated : source.malloc 0 = true) {command : Command} :
    executedCommand (uartRxTask tempDataLen len) source Cursor.start = some command ↔
      source.HoldsBytes 0 command.body ∧ command.Executable (source.malloc 1) := by
  have someBuffered : tempDataLen ≠ 0 := by omega
  have someRead : (len : Int) ≠ 0 := by omega
  have size : ((len : Int) % UInt32.size).toNat = len := by
    simp only [intMax, UInt32.size] at counted ⊢
    omega
  rw [uartRxTask, if_neg someBuffered]
  simp only [executedCommand, Reader.run_bind, Reader.run_allocate, Reader.run_readRange,
    Cursor.start, allocated, if_true, if_neg someRead, size]
  exact executedCommand_process received rfl

end BleMesh.Uart
