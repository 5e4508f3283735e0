import BleMesh.Uart.Framing

/-! # The frame grammar

A packet is meant to be one whole frame. The handler compares neither the number of
bytes with the length byte nor the two checksums: it carries out the operation that the
first bytes in memory name.
-/

namespace BleMesh.Uart

open Foundation

/-- The command whose operation a handler has carried out. A command with an unknown
operation is executed (`executedCommand`), but nothing is carried out for it. -/
def executedOperation (handler : Reader (Option Execution)) (source : Source)
    (cursor : Cursor) : Option Command :=
  ((handler.run source cursor).1.join.filter fun execution =>
    execution.action ≠ .unknown).map Execution.command

/-- A byte string given to the handler. Behind it lies some other memory, and there is
memory for a copy of the payload or not. -/
structure Packet where
  bytes : List UInt8
  behind : Nat → UInt8
  payloadAllocated : Bool

namespace Packet

def source (packet : Packet) : Source where
  byte := overlay packet.bytes packet.behind
  malloc _ := packet.payloadAllocated

def executed (packet : Packet) : Option Command :=
  executedOperation (uartCmdHandlerProcessUartData packet.bytes.length) packet.source
    Cursor.start

/-- The packet is a well-formed frame that names the command's operation. -/
def IsFrameOf (packet : Packet) (command : Command) : Prop :=
  ∃ frame : Frame, frame.bytes = packet.bytes ∧ frame.command = command ∧
    command.operation ∈ command.group.operations

/-- What is executed is what the packet is a frame of. -/
def AcceptedByGrammar (packet : Packet) : Prop :=
  ∀ command, packet.executed = some command ↔ packet.IsFrameOf command

/-- The first bytes in memory name an operation of the group. -/
def Names (packet : Packet) (group : Group) : Prop :=
  packet.source.byte 0 = uartCmdStartByte ∧ packet.source.byte 1 = group.code ∧
    packet.source.byte 3 ∈ group.operations

/-- A payload that is announced gets its memory, and the operation that uses `payload[0]`
announces one. -/
def PayloadReady (packet : Packet) (group : Group) : Prop :=
  (0 < packet.source.byte 4 → packet.payloadAllocated = true) ∧
    (group = .provisioner → packet.source.byte 3 = uartCmdProvisionerOperationAddNodeIdx →
      0 < packet.source.byte 4)

end Packet

/-! ## What is carried out -/

theorem executedOperation_eq_some_iff {handler : Reader (Option Execution)} {source : Source}
    {cursor : Cursor} {command : Command} :
    executedOperation handler source cursor = some command ↔
      ∃ action, (handler.run source cursor).1 = some (some { command, action }) ∧
        action ≠ .unknown := by
  simp only [executedOperation, Option.map_eq_some_iff, Option.filter_eq_some_iff,
    Option.join_eq_some_iff, decide_eq_true_eq]
  constructor
  · intro executed
    rcases executed with ⟨⟨command, action⟩, ⟨ran, known⟩, rfl⟩
    exact ⟨action, ran, known⟩
  · intro executed
    rcases executed with ⟨action, ran, known⟩
    exact ⟨_, ⟨ran, known⟩, rfl⟩

/-- A handler that runs to its end has carried out an operation exactly if the group has
it. -/
theorem handler_known_iff {group : Group} {source : Source} {cursor : Cursor}
    {execution : Execution}
    (executes : (group.handler.run source cursor).1 = some (some execution)) :
    execution.action ≠ .unknown ↔
      execution.command.operation ∈ execution.command.group.operations := by
  rcases handler_carriesOut group with ⟨perform, handlerEq, carriesOut⟩
  rcases readCommand_returns group source cursor with ⟨after, returns⟩
  rw [handlerEq, handleControl, Reader.run_bind_some returns] at executes
  cases decoded : commandAt source group cursor.offset cursor.mallocs with
  | none => simp [decoded] at executes
  | some command =>
      simp only [decoded, Reader.run_bind_returns_iff] at executes
      rcases executes with ⟨action, final, performed, ran⟩
      cases ran
      rw [← (commandAt_eq_some_iff.mp decoded).1]
      exact carriesOut.known_iff command source after action (by rw [performed])

/-- At most one command lies at the start of memory. -/
theorem Command.eq_of_holdsBytes {source : Source} {command other : Command}
    (fits : command.PayloadFits) (holds : source.HoldsBytes 0 command.body)
    (otherFits : other.PayloadFits) (otherHolds : source.HoldsBytes 0 other.body) :
    command = other := by
  -- The two are decoded by the same handler when there is memory for the payload.
  let provided : Source := { source with malloc := fun _ => true }
  have decodes : ∀ found : Command, found.PayloadFits → source.HoldsBytes 0 found.body →
      source.byte 1 = found.group.code ∧
        commandAt provided found.group 2 0 = some found := by
    intro found foundFits foundHolds
    rw [Command.body, Source.holdsBytes_cons, Source.holdsBytes_cons] at foundHolds
    refine ⟨foundHolds.2.1, ?_⟩
    rw [commandAt_eq_some_iff]
    exact ⟨rfl, foundFits, foundHolds.2.2, fun _ => rfl⟩
  rcases decodes command fits holds with ⟨code, decoded⟩
  rcases decodes other otherFits otherHolds with ⟨otherCode, otherDecoded⟩
  rw [← Group.code_injective (code.symm.trans otherCode), decoded] at otherDecoded
  exact Option.some.inj otherDecoded

/-- Only the handler of a group executes anything. -/
theorem process_runs_handler {len : Nat} {source : Source} {cursor : Cursor}
    {execution : Execution}
    (executes : ((uartCmdHandlerProcessUartData len).run source cursor).1 =
      some (some execution)) :
    ∃ (group : Group) (after : Cursor),
      (group.handler.run source after).1 = some (some execution) := by
  simp only [uartCmdHandlerProcessUartData] at executes
  split at executes
  · cases executes
  · simp only [Reader.run_bind, Reader.run_readRange, Reader.run_readNext,
      Reader.run_readAt] at executes
    split at executes
    · cases executes
    · simp only [Reader.run_bind, Reader.run_readRange, Reader.run_readNext] at executes
      split_ifs at executes
      · exact ⟨.system, _, executes⟩
      · exact ⟨.bluetooth, _, executes⟩
      · exact ⟨.provisioner, _, executes⟩
      · cases executes

theorem executedOperation_process_iff {len : Nat} {source : Source} {cursor : Cursor}
    {command : Command} :
    executedOperation (uartCmdHandlerProcessUartData len) source cursor = some command ↔
      executedCommand (uartCmdHandlerProcessUartData len) source cursor = some command ∧
        command.operation ∈ command.group.operations := by
  rw [executedOperation_eq_some_iff, executedCommand_eq_some_iff]
  have known : ∀ action,
      ((uartCmdHandlerProcessUartData len).run source cursor).1 =
        some (some { command, action }) →
      (action ≠ .unknown ↔ command.operation ∈ command.group.operations) := by
    intro action executes
    rcases process_runs_handler executes with ⟨group, after, ran⟩
    exact handler_known_iff ran
  constructor
  · intro executed
    rcases executed with ⟨action, ran, carriedOut⟩
    exact ⟨⟨action, ran⟩, (known action ran).mp carriedOut⟩
  · intro executed
    rcases executed with ⟨⟨action, ran⟩, member⟩
    exact ⟨action, ran, (known action ran).mpr member⟩

namespace Packet

/-- What is executed lies at the start of memory. -/
theorem executed_eq_some_iff (packet : Packet) (command : Command) :
    packet.executed = some command ↔
      packet.bytes ≠ [] ∧ packet.source.HoldsBytes 0 command.body ∧
        command.Executable packet.payloadAllocated ∧
        command.operation ∈ command.group.operations := by
  by_cases empty : packet.bytes = []
  · simp [executed, empty, executedOperation, uartCmdHandlerProcessUartData]
  · have received : 0 < packet.bytes.length := List.length_pos_iff.mpr empty
    rw [executed, executedOperation_process_iff, executedCommand_process received rfl]
    simp only [ne_eq, empty, not_false_eq_true, true_and, and_assoc]
    rfl

/-- A body in memory, byte by byte. -/
theorem holdsBody_iff (packet : Packet) (command : Command) :
    packet.source.HoldsBytes 0 command.body ↔
      packet.source.byte 0 = uartCmdStartByte ∧
        packet.source.byte 1 = command.group.code ∧
        packet.source.byte 3 = command.operation ∧
        packet.source.byte 4 = UInt8.ofNat command.payload.length ∧
        packet.source.HoldsBytes 2 command.fields := by
  simp only [Command.body, Command.fields, Source.holdsBytes_cons, Nat.zero_add, Nat.reduceAdd]
  tauto

/-- The first bytes in memory name an operation that can be carried out exactly if a
command that can be carried out lies there. -/
theorem names_iff (packet : Packet) :
    (∃ group, packet.Names group ∧ packet.PayloadReady group) ↔
      ∃ command : Command, packet.source.HoldsBytes 0 command.body ∧
        command.Executable packet.payloadAllocated ∧
        command.operation ∈ command.group.operations := by
  constructor
  · intro named
    rcases named with ⟨group, ⟨start, code, operation⟩, allocated, operand⟩
    cases decoded : commandAt packet.source group 2 0 with
    | none =>
        have missing : 0 < packet.source.byte 4 ∧ packet.source.malloc 0 = false := by
          simpa [commandAt] using decoded
        cases (allocated missing.1).symm.trans missing.2
    | some command =>
        rcases commandAt_eq_some_iff.mp decoded with ⟨rfl, fits, fields, payload⟩
        have body : packet.source.HoldsBytes 0 command.body := by
          simp [Command.body, start, code, fields]
        rcases (packet.holdsBody_iff command).mp body with ⟨_, _, operationAt, lengthAt, _⟩
        rw [operationAt] at operation operand
        rw [lengthAt, lengthByte_pos_iff fits] at operand
        exact ⟨command, body, ⟨fits, payload, operand⟩, operation⟩
  · intro held
    rcases held with ⟨command, body, ⟨fits, payload, operand⟩, operation⟩
    rcases (packet.holdsBody_iff command).mp body with ⟨start, code, operationAt, lengthAt, _⟩
    refine ⟨command.group, ⟨start, code, ?_⟩, ?_⟩
    · rw [operationAt]
      exact operation
    · rw [PayloadReady, operationAt, lengthAt, lengthByte_pos_iff fits]
      exact ⟨payload, operand⟩

/-- The bytes of a frame lie at the start of memory. -/
theorem holdsBody_of_isFrameOf {packet : Packet} {command : Command}
    (isFrame : packet.IsFrameOf command) :
    packet.source.HoldsBytes 0 command.body ∧ command.PayloadFits := by
  rcases isFrame with ⟨frame, bytes, rfl, _⟩
  have starts : frame.command.body <+: packet.bytes := by
    rw [← bytes]
    exact List.prefix_append _ _
  exact ⟨Source.holdsBytes_of_prefix rfl starts, frame.fits⟩

theorem bytes_ne_nil_of_isFrameOf {packet : Packet} {command : Command}
    (isFrame : packet.IsFrameOf command) : packet.bytes ≠ [] := by
  rcases isFrame with ⟨frame, bytes, _, _⟩
  rw [← bytes, Frame.bytes]
  exact List.append_ne_nil_of_right_ne_nil _ (List.cons_ne_nil _ _)

theorem isFrameOf_unique {packet : Packet} {command other : Command}
    (isFrame : packet.IsFrameOf command) (otherFrame : packet.IsFrameOf other) :
    command = other := by
  rcases holdsBody_of_isFrameOf isFrame with ⟨holds, fits⟩
  rcases holdsBody_of_isFrameOf otherFrame with ⟨otherHolds, otherFits⟩
  exact Command.eq_of_holdsBytes fits holds otherFits otherHolds

/-- A frame is executed exactly if its payload is ready. -/
theorem executed_iff_of_isFrameOf {packet : Packet} {command : Command}
    (isFrame : packet.IsFrameOf command) :
    packet.executed = some command ↔ command.Executable packet.payloadAllocated := by
  have holds := (holdsBody_of_isFrameOf isFrame).1
  have nonempty := bytes_ne_nil_of_isFrameOf isFrame
  rcases isFrame with ⟨_, _, _, known⟩
  simp [executed_eq_some_iff, nonempty, holds, known]

/-- Nothing is executed exactly if nothing is received or the first bytes do not name an
operation that can be carried out. -/
theorem executed_none_iff (packet : Packet) :
    packet.executed = none ↔
      packet.bytes = [] ∨ ∀ group, packet.Names group → ¬ packet.PayloadReady group := by
  have some_iff : (∃ command, packet.executed = some command) ↔
      packet.bytes ≠ [] ∧ ∃ group, packet.Names group ∧ packet.PayloadReady group := by
    simp only [executed_eq_some_iff, exists_and_left, names_iff]
  rw [Option.eq_none_iff_forall_ne_some, ← not_exists, some_iff, not_and_or, not_not]
  simp only [not_exists, not_and]

/-- A packet is treated as the grammar says exactly if it is a frame whose payload is
ready, or if it is none and the first bytes in memory do not name an operation either. -/
theorem acceptedByGrammar_iff (packet : Packet) :
    packet.AcceptedByGrammar ↔
      (∃ command, packet.IsFrameOf command ∧ command.Executable packet.payloadAllocated) ∨
        (¬ ∃ command, packet.IsFrameOf command) ∧
          (packet.bytes = [] ∨ ∀ group, packet.Names group → ¬ packet.PayloadReady group) := by
  rw [← executed_none_iff]
  constructor
  · intro accepted
    by_cases framed : ∃ command, packet.IsFrameOf command
    · rcases framed with ⟨command, isFrame⟩
      have executed := (accepted command).mpr isFrame
      exact Or.inl ⟨command, isFrame, (executed_iff_of_isFrameOf isFrame).mp executed⟩
    · refine Or.inr ⟨framed, ?_⟩
      rw [Option.eq_none_iff_forall_ne_some]
      intro command executed
      exact framed ⟨command, (accepted command).mp executed⟩
  · intro condition command
    rcases condition with ⟨expected, isFrame, ready⟩ | ⟨unframed, nothing⟩
    · have executed := (executed_iff_of_isFrameOf isFrame).mpr ready
      rw [executed, Option.some.injEq]
      constructor
      · intro same
        rw [← same]
        exact isFrame
      · exact isFrameOf_unique isFrame
    · rw [nothing]
      refine iff_of_false (by simp) ?_
      intro isFrame
      exact unframed ⟨command, isFrame⟩

end Packet

/-- The last byte of a frame is the XOR of the others. -/
theorem Frame.bytes_getLast? (frame : Frame) :
    frame.bytes.getLast? = some (xorAll frame.bytes.dropLast) := by
  simp [Frame.bytes, Frame.checksum]

/-- A restart with a checksum of zero in place of `0xAA`. -/
def corruptedRestart : Packet where
  bytes := [uartCmdStartByte, Group.system.code, 0x00, uartCmdSystemOperationRestart, 0x00, 0x00]
  behind _ := 0
  payloadAllocated := true

/-- The corrupted restart is carried out. -/
theorem not_acceptedByGrammar : ¬ ∀ packet : Packet, packet.AcceptedByGrammar := by
  intro accepted
  let restart : Command :=
    { group := .system, requiredResponse := 0, operation := uartCmdSystemOperationRestart,
      payload := [] }
  have executed : corruptedRestart.executed = some restart := by decide
  rcases (accepted corruptedRestart restart).mp executed with ⟨frame, bytes, _, _⟩
  have checked := frame.bytes_getLast?
  rw [bytes] at checked
  exact absurd checked (by decide)

end BleMesh.Uart
