import BleMesh.Uart.Commands

/-! # What commands mean

A command of a group stands for an action, whatever the packet it came in. The handlers do
what the commands they execute stand for.
-/

namespace BleMesh.Uart

open Foundation

/-- The action a command stands for. Adding a node takes its index from the payload. -/
def Command.meaning (command : Command) : Option Action :=
  match command.group with
  | .system =>
      if command.operation = uartCmdSystemOperationPing then some .ping
      else if command.operation = uartCmdSystemOperationRestart then some .restart
      else some .unknown
  | .bluetooth =>
      if command.operation = uartCmdBluetoothOperationStartBle then some .startBle
      else some .unknown
  | .provisioner =>
      if command.operation = uartCmdProvisionerOperationBeginProv then some .beginProv
      else if command.operation = uartCmdProvisionerOperationListUnprovNodes then
        some .listUnprovNodes
      else if command.operation = uartCmdProvisionerOperationListProvNodes then
        some .listProvNodes
      else if command.operation = uartCmdProvisionerOperationAddNodeIdx then
        command.payload.head?.map .addNodeIdx
      else if command.operation = uartCmdProvisionerOperationGetDeviceComposition then
        some .getDeviceComposition
      else some .unknown

/-- A group carries out its commands as they are meant. -/
theorem handler_performs_meaning (group : Group) :
    ∃ perform, group.handler = handleControl group perform ∧
      ∀ command : Command, command.group = group → ∀ source cursor,
        ((perform command).run source cursor).1 = command.meaning := by
  cases group with
  | system =>
      refine ⟨_, rfl, ?_⟩
      intro command same source cursor
      simp only [Command.meaning, same, Reader.run_pure]
      split_ifs <;> rfl
  | bluetooth =>
      refine ⟨_, rfl, ?_⟩
      intro command same source cursor
      simp only [Command.meaning, same, Reader.run_pure]
      split_ifs <;> rfl
  | provisioner =>
      refine ⟨_, rfl, ?_⟩
      intro command same source cursor
      simp only [Command.meaning, same]
      split_ifs
      all_goals try rfl
      cases command.payload <;> rfl

/-- What the reader executes is done as it is meant. -/
def ExecutesMeaning (reader : Reader (Option Execution)) : Prop :=
  ∀ source cursor execution, (reader.run source cursor).1 = some (some execution) →
    execution.command.meaning = some execution.action

theorem executesMeaning_none : ExecutesMeaning (return none) := by
  intro source cursor execution executed
  cases executed

/-- What is read before does not matter. -/
theorem executesMeaning_bind {α : Type} {first : Reader α}
    {next : α → Reader (Option Execution)} (meant : ∀ value, ExecutesMeaning (next value)) :
    ExecutesMeaning (first >>= next) := by
  intro source cursor execution executed
  rcases Reader.run_bind_returns_iff.mp executed with ⟨value, after, _, executed⟩
  exact meant value source after execution executed

theorem executesMeaning_handler (group : Group) : ExecutesMeaning group.handler := by
  rcases handler_performs_meaning group with ⟨perform, handlerEq, performs⟩
  intro source cursor execution executed
  rw [handlerEq, handleControl] at executed
  rcases readCommand_returns group source cursor with ⟨after, returns⟩
  rw [Reader.run_bind_some returns] at executed
  cases decoded : commandAt source group cursor.offset cursor.mallocs with
  | none =>
      rw [decoded] at executed
      cases executed
  | some command =>
      rw [decoded] at executed
      rcases Reader.run_bind_returns_iff.mp executed with ⟨action, final, performed, returned⟩
      cases returned
      have same := (commandAt_eq_some_iff.mp decoded).1.symm
      rw [← performs command same source after, performed]

theorem executesMeaning_process (len : Nat) :
    ExecutesMeaning (uartCmdHandlerProcessUartData len) := by
  rw [uartCmdHandlerProcessUartData]
  split
  · exact executesMeaning_none
  · refine executesMeaning_bind fun _ => executesMeaning_bind fun startByte =>
      executesMeaning_bind fun _ => ?_
    split
    · exact executesMeaning_none
    · refine executesMeaning_bind fun _ => executesMeaning_bind fun code => ?_
      rcases dispatch_cases code with ⟨group, _, selected⟩ | ⟨_, selected⟩
      · rw [selected]
        exact executesMeaning_handler group
      · rw [selected]
        exact executesMeaning_none

theorem executesMeaning_uartRxTask (tempDataLen : Nat) (actualBytesRead : Int) :
    ExecutesMeaning (uartRxTask tempDataLen actualBytesRead) := by
  rw [uartRxTask]
  split
  · exact executesMeaning_none
  · refine executesMeaning_bind fun allocated => ?_
    split
    · split
      · exact executesMeaning_none
      · exact executesMeaning_bind fun _ => executesMeaning_process _
    · exact executesMeaning_none

/-- The bytes of a command that is executed lie in memory from the start of the buffer. -/
theorem holdsBody_of_executed {tempDataLen : Nat} {actualBytesRead : Int} {source : Source}
    {execution : Execution}
    (executed : ((uartRxTask tempDataLen actualBytesRead).run source Cursor.start).1 =
      some (some execution)) : source.HoldsBytes 0 execution.command.body := by
  rw [uartRxTask] at executed
  split at executed
  · cases executed
  rcases Reader.run_bind_returns_iff.mp executed with ⟨allocated, after, ran, executed⟩
  cases ran
  split at executed
  · split at executed
    · cases executed
    rcases Reader.run_bind_returns_iff.mp executed with ⟨_, later, logged, processed⟩
    cases logged
    by_cases empty : (actualBytesRead % UInt32.size).toNat = 0
    · rw [empty] at processed
      cases processed
    · have command := executedCommand_eq_some_iff.mpr ⟨execution.action, processed⟩
      exact ((executedCommand_process (Nat.pos_of_ne_zero empty) rfl).mp command).1
  · cases executed

end BleMesh.Uart
