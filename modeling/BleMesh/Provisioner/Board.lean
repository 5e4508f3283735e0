import BleMesh.Provisioner.AddNode
import BleMesh.Provisioner.Exchange
import BleMesh.Provisioner.Listing
import BleMesh.Uart.Actions

/-! # The provisioner board

The program of the provisioner as a whole. A UART task starts the mesh stack, lists the
devices, hands devices to the stack and restarts the board; the stack reports advertisements,
completed provisionings and replies. All of it works on the same static variables.
-/

namespace BleMesh.Provisioner

open Foundation Foundation.Execution Uart

/-! ## The board -/

/-- The static variables. `started`, `advertised` and `added` record what has happened since
the board came up: whether the stack has been started, the devices seen and the devices that
the stack has accepted. -/
structure Board where
  exchange : Exchange provMaxProvDevCnt
  unprovDevices : SlotTable UnprovDevAdd provMaxUnprovDevCnt
  started : Bool
  advertised : List UnprovDevAdd
  added : List UnprovDevAdd

/-- Static storage is zeroed. -/
def Board.boot : Board where
  exchange := {
    provisioner := {
      provKey := { netIdx := 0, appIdx := 0, appKey := 0 }
      nodes := Nodes.zeroed
      provNodeInfo := SlotTable.empty }
    inFlight := []
    awaiting := [] }
  unprovDevices := SlotTable.empty
  started := false
  advertised := []
  added := []

/-- The answers a command gets from the stack. -/
structure CommandAnswers where
  bluetoothInit : Int
  meshInit : Int
  provEnable : Int
  addUnprovDev : AddUnprovDev

/-- What the commands ask of the stack, and what the callbacks do. -/
inductive BoardCall
  | provEnable
  | addLocalAppKey (provKey : ProvKey)
  | addUnprovDev (device : UnprovDevAdd) (flags : List DevAddFlag)
  | mesh (call : StackCall)

/-- The octets that `provisioner_init` fills the application key with. -/
def configuredKey : BitVec 128 := 0x12121212121212121212121212121212

/-- The error of `provisioner_init` and the variables after it. -/
def provisionerInit {capacity : Nat} (provisioner : ProvisionerState capacity)
    (bluetoothInit meshInit : Int) : Int × ProvisionerState capacity :=
  if bluetoothInit ≠ 0 then (espFail, provisioner)
  else
    (meshInit,
      { provisioner with provKey := { netIdx := 0, appIdx := 0, appKey := configuredKey } })

/-- What `provisioner_enable` calls. The key is added once provisioning is enabled. -/
def provisionerEnable (provKey : ProvKey) (provEnable : Int) : List BoardCall :=
  if provEnable ≠ espOk then [.provEnable] else [.provEnable, .addLocalAppKey provKey]

/-- What an action asks of the stack. -/
def actionCalls (board : Board) (answers : CommandAnswers) : Action → List BoardCall
  | .beginProv => provisionerEnable board.exchange.provisioner.provKey answers.provEnable
  | .addNodeIdx index =>
      (provisionerAddDevToNode board.unprovDevices index answers.addUnprovDev).handed.toList.map
        fun device => .addUnprovDev device [.rmAfterProv, .startProvNow, .flushableDev]
  | _ => []

/-- The board after an action, unless it crashes: when the stack does not start the program
aborts, and the listing of nodes can go through a NULL pointer. -/
def performAction (board : Board) (answers : CommandAnswers) : Action → Option Board
  | .restart => some Board.boot
  | .startBle =>
      let init := provisionerInit board.exchange.provisioner answers.bluetoothInit
        answers.meshInit
      if init.1 ≠ espOk then none
      else some { board with exchange.provisioner := init.2, started := true }
  | .listProvNodes =>
      (provisionerLogProvDevInfo board.exchange.provisioner.provNodeInfo).map fun _ => board
  | .addNodeIdx index =>
      let result := provisionerAddDevToNode board.unprovDevices index answers.addUnprovDev
      some { board with
        unprovDevices := result.table
        added := if result.answer = 0 then board.added ++ result.handed.toList else board.added }
  | .ping | .beginProv | .listUnprovNodes | .getDeviceComposition | .unknown => some board

/-- A pass of the UART task, with what is in memory from the buffer on. -/
structure UartPass where
  tempDataLen : Nat
  actualBytesRead : Int
  source : Source
  answers : CommandAnswers

/-- Nothing when the pass crashes, and no execution when it executes no command. -/
def UartPass.execution (pass : UartPass) : Option (Option Uart.Execution) :=
  ((uartRxTask pass.tempDataLen pass.actualBytesRead).run pass.source Cursor.start).1

inductive BoardEvent
  | uart (pass : UartPass)
  | recvUnprovAdvPkt (packet : UnprovAdvPkt) (allocated : Bool)
  | mesh (event : ExchangeEvent)

/-- The device as `recv_unprov_adv_pkt` passes it on. -/
def UnprovAdvPkt.device (packet : UnprovAdvPkt) : UnprovDevAdd where
  addr := packet.addr
  addrType := packet.addrType
  uuid := packet.devUuid
  oobInfo := packet.oobInfo
  bearer := packet.bearer

def boardCalls (board : Board) : BoardEvent → List BoardCall
  | .uart pass =>
      match pass.execution with
      | some (some execution) => actionCalls board pass.answers execution.action
      | _ => []
  | .recvUnprovAdvPkt _ _ => []
  | .mesh event => (exchangeCalls board.exchange event).map .mesh

def boardStep (board : Board) : BoardEvent → Option Board
  | .uart pass =>
      match pass.execution with
      | none => none
      | some none => some board
      | some (some execution) => performAction board pass.answers execution.action
  | .recvUnprovAdvPkt packet allocated =>
      some { board with
        unprovDevices := recvUnprovAdvPkt board.unprovDevices packet allocated
        advertised := board.advertised ++ [packet.device] }
  | .mesh event =>
      (exchangeStep board.exchange event).map fun exchange => { board with exchange }

/-! ## What a step can do -/

/-- A call is made for an action that a packet asks for, or by a callback. -/
inductive CallOrigin (board : Board) : BoardEvent → BoardCall → Prop
  | enables {pass execution} (executed : pass.execution = some (some execution))
      (action : execution.action = .beginProv) : CallOrigin board (.uart pass) .provEnable
  | addsKey {pass execution} (executed : pass.execution = some (some execution))
      (action : execution.action = .beginProv) :
      CallOrigin board (.uart pass) (.addLocalAppKey board.exchange.provisioner.provKey)
  | addsDevice {pass execution index device}
      (executed : pass.execution = some (some execution))
      (action : execution.action = .addNodeIdx index)
      (held : board.unprovDevices.get index.toNat = some device) :
      CallOrigin board (.uart pass)
        (.addUnprovDev device [.rmAfterProv, .startProvNow, .flushableDev])
  | answers {event call} (called : call ∈ exchangeCalls board.exchange event) :
      CallOrigin board (.mesh event) (.mesh call)

theorem origin_of_call {board : Board} {event : BoardEvent} {call : BoardCall}
    (called : call ∈ boardCalls board event) : CallOrigin board event call := by
  cases event with
  | uart pass =>
      rw [boardCalls] at called
      split at called
      next execution executed =>
        cases action : execution.action with
        | beginProv =>
            rw [action, actionCalls, provisionerEnable] at called
            split at called
            · rw [List.mem_singleton] at called
              exact called ▸ .enables executed action
            · rcases List.mem_pair.mp called with rfl | rfl
              · exact .enables executed action
              · exact .addsKey executed action
        | addNodeIdx index =>
            rw [action, actionCalls, handed_eq] at called
            rcases List.mem_map.mp called with ⟨device, member, rfl⟩
            exact .addsDevice executed action (Option.mem_toList.mp member)
        | ping | restart | startBle | listUnprovNodes | listProvNodes | getDeviceComposition
        | unknown =>
            rw [action] at called
            cases called
      · cases called
  | recvUnprovAdvPkt packet allocated => cases called
  | mesh event =>
      rcases List.mem_map.mp called with ⟨meshCall, member, rfl⟩
      exact .answers member

/-- The board after a step. -/
inductive Moves (board : Board) : Board → Prop
  | stays : Moves board board
  | restarts : Moves board Board.boot
  | starts (bluetoothInit meshInit : Int)
      (succeeds : (provisionerInit board.exchange.provisioner bluetoothInit meshInit).1 = espOk) :
      Moves board { board with
        exchange.provisioner :=
          (provisionerInit board.exchange.provisioner bluetoothInit meshInit).2
        started := true }
  | adds (index : UInt8) (addUnprovDev : AddUnprovDev) :
      Moves board { board with
        unprovDevices :=
          (provisionerAddDevToNode board.unprovDevices index addUnprovDev).table
        added :=
          if (provisionerAddDevToNode board.unprovDevices index addUnprovDev).answer = 0 then
            board.added ++
              (provisionerAddDevToNode board.unprovDevices index addUnprovDev).handed.toList
          else board.added }
  | receives (packet : UnprovAdvPkt) (allocated : Bool) :
      Moves board { board with
        unprovDevices := recvUnprovAdvPkt board.unprovDevices packet allocated
        advertised := board.advertised ++ [packet.device] }
  | exchanges {event exchange} (happens : exchangeStep board.exchange event = some exchange) :
      Moves board { board with exchange }

theorem moves_of_action {board next : Board} {answers : CommandAnswers} {action : Action}
    (performed : performAction board answers action = some next) : Moves board next := by
  cases action with
  | restart =>
      cases performed
      exact .restarts
  | startBle =>
      rw [performAction] at performed
      dsimp only at performed
      split at performed
      · cases performed
      next succeeds =>
        cases performed
        exact .starts _ _ (not_not.mp succeeds)
  | listProvNodes =>
      rcases Option.map_eq_some_iff.mp performed with ⟨_, _, rfl⟩
      exact .stays
  | addNodeIdx index =>
      cases performed
      exact .adds index answers.addUnprovDev
  | beginProv | ping | listUnprovNodes | getDeviceComposition | unknown =>
      cases performed
      exact .stays

theorem moves_of_step {board next : Board} {event : BoardEvent}
    (happens : boardStep board event = some next) : Moves board next := by
  cases event with
  | uart pass =>
      rw [boardStep] at happens
      split at happens
      · cases happens
      · cases happens
        exact .stays
      · exact moves_of_action happens
  | recvUnprovAdvPkt packet allocated =>
      cases happens
      exact .receives packet allocated
  | mesh event =>
      rcases Option.map_eq_some_iff.mp happens with ⟨exchange, exchanged, rfl⟩
      exact .exchanges exchanged

/-! ## From bytes to devices -/

theorem meaning_addNodeIdx {command : Command} {index : UInt8}
    (meant : command.meaning = some (.addNodeIdx index)) :
    command.group = .provisioner ∧
      command.operation = uartCmdProvisionerOperationAddNodeIdx ∧
      command.payload.head? = some index := by
  rw [Command.meaning] at meant
  cases group : command.group with
  | system =>
      rw [group] at meant
      dsimp only at meant
      split_ifs at meant <;> cases meant
  | bluetooth =>
      rw [group] at meant
      dsimp only at meant
      split_ifs at meant <;> cases meant
  | provisioner =>
      rw [group] at meant
      dsimp only at meant
      split_ifs at meant with _ _ _ adds
      all_goals try cases meant
      rcases Option.map_eq_some_iff.mp meant with ⟨first, head, same⟩
      cases same
      exact ⟨rfl, adds, head⟩

/-- A device that is handed to the stack has advertised itself since the board came up, and a
packet has named its slot. -/
structure HandedOver (board : Board) (event : BoardEvent) (device : UnprovDevAdd)
    (flags : List DevAddFlag) : Prop where
  advertised : device ∈ board.advertised
  flags : flags = [.rmAfterProv, .startProvNow, .flushableDev]
  named : ∃ (pass : UartPass) (command : Command) (index : UInt8), event = .uart pass ∧
    pass.source.HoldsBytes 0 command.body ∧ command.group = .provisioner ∧
    command.operation = uartCmdProvisionerOperationAddNodeIdx ∧
    command.payload.head? = some index ∧ board.unprovDevices.get index.toNat = some device

/-- The devices listed and the devices accepted are among those that have advertised
themselves, each as often as it did at most. -/
def Stocked (board : Board) : Prop :=
  (board.unprovDevices.entries ++ board.added).Subperm board.advertised

theorem stocked_boot : Stocked Board.boot := by
  have none : Board.boot.unprovDevices.entries = [] :=
    SlotTable.filledBy_empty.entries_eq
  rw [Stocked, none]
  exact List.Subperm.refl _

theorem mem_entries_of_get {α : Type} {capacity index : Nat} {table : SlotTable α capacity}
    {entry : α} (held : table.get index = some entry) : entry ∈ table.entries := by
  rw [← SlotTable.filterMap_get, List.mem_filterMap]
  exact ⟨index, List.mem_range.mpr (SlotTable.index_lt_of_get held), held⟩

theorem handedOver_of_call {board : Board} {event : BoardEvent} {device : UnprovDevAdd}
    {flags : List DevAddFlag} (stocked : Stocked board)
    (called : .addUnprovDev device flags ∈ boardCalls board event) :
    HandedOver board event device flags := by
  cases origin_of_call called with
  | @addsDevice pass execution index _ executed action held =>
      have meant := executesMeaning_uartRxTask pass.tempDataLen pass.actualBytesRead pass.source
        Cursor.start execution executed
      rw [action] at meant
      rcases meaning_addNodeIdx meant with ⟨group, operation, payload⟩
      refine ⟨?_, rfl, pass, execution.command, index, rfl, holdsBody_of_executed executed, group,
        operation, payload, held⟩
      exact stocked.subset (List.mem_append_left _ (mem_entries_of_get held))

/-- An advertisement goes into a free slot or into none. -/
theorem recvUnprovAdvPkt_entries {capacity : Nat} (table : SlotTable UnprovDevAdd capacity)
    (packet : UnprovAdvPkt) (allocated : Bool) :
    (recvUnprovAdvPkt table packet allocated).entries.Perm table.entries ∨
      (recvUnprovAdvPkt table packet allocated).entries.Perm (packet.device :: table.entries) := by
  simp only [recvUnprovAdvPkt, provisionerAddUnprovDevInfo]
  cases stop : table.scan fun stored => stored.addr == packet.addr with
  | held _ => exact Or.inl (List.Perm.refl _)
  | full => exact Or.inl (List.Perm.refl _)
  | free index =>
      rcases SlotTable.scan_free stop with ⟨inside, free, _⟩
      cases allocated with
      | false => exact Or.inl (List.Perm.refl _)
      | true =>
          have placed := table.entries_set_perm inside (some packet.device)
          rw [free] at placed
          exact Or.inr placed

/-- A removal takes out what is in the slot. -/
theorem removeUnprovDev_entries {capacity : Nat} (table : SlotTable UnprovDevAdd capacity)
    (idx : UInt8) :
    ((table.get idx.toNat).toList ++ (removeUnprovDev table idx).entries).Perm table.entries := by
  rw [removeUnprovDev]
  split
  next outside =>
    have nothing : table.get idx.toNat = none := by
      cases held : table.get idx.toNat with
      | none => rfl
      | some device => exact absurd (SlotTable.index_lt_of_get held) (Nat.not_lt.mpr outside)
    rw [nothing]
    exact List.Perm.refl _
  next inside =>
    split
    next free =>
      rw [free]
      exact List.Perm.refl _
    · exact table.entries_set_perm (Nat.lt_of_not_le inside) none

/-- A device that the stack accepts leaves the table. -/
theorem addDevToNode_entries {capacity : Nat} (table : SlotTable UnprovDevAdd capacity)
    (idx : UInt8) (addUnprovDev : AddUnprovDev) (added : List UnprovDevAdd) :
    ((provisionerAddDevToNode table idx addUnprovDev).table.entries ++
        if (provisionerAddDevToNode table idx addUnprovDev).answer = 0 then
          added ++ (provisionerAddDevToNode table idx addUnprovDev).handed.toList
        else added).Perm (table.entries ++ added) := by
  rcases addDevToNode_cases table idx addUnprovDev with
    ⟨failed, unchanged⟩ | ⟨succeeded, removed⟩
  · have notZero : ¬ ((-1 : Int) = 0) := by decide
    rw [failed, unchanged, if_neg notZero]
  · rw [succeeded, removed, if_pos rfl, handed_eq]
    have rearranged := (removeUnprovDev_entries table idx).append_right added
    rw [List.append_assoc] at rearranged
    refine List.Perm.trans ?_ rearranged
    exact (List.perm_append_comm.append_left _).trans (List.perm_append_comm_assoc _ _ _)

theorem stocked_of_step {board next : Board} {event : BoardEvent} (stocked : Stocked board)
    (happens : boardStep board event = some next) : Stocked next := by
  cases moves_of_step happens with
  | stays => exact stocked
  | restarts => exact stocked_boot
  | starts bluetoothInit meshInit succeeds => exact stocked
  | adds index addUnprovDev =>
      have moved := addDevToNode_entries board.unprovDevices index addUnprovDev board.added
      exact moved.subperm_right.mpr stocked
  | receives packet allocated =>
      rcases recvUnprovAdvPkt_entries board.unprovDevices packet allocated with same | stored
      · have kept := (same.append_right board.added).subperm_right.mpr stocked
        exact kept.trans (List.sublist_append_left _ _).subperm
      · have grown := (List.subperm_cons packet.device).mpr stocked
        refine (stored.append_right board.added).subperm_right.mpr (grown.trans ?_)
        exact (List.perm_append_singleton packet.device board.advertised).symm.subperm
  | exchanges exchanged => exact stocked

/-- Over any run of commands, advertisements and reports, restarts included: what is handed to
the stack is a device that has advertised itself since the board came up, in a slot that a
packet has named, and no advertisement is used up twice. -/
theorem added_devices_advertised (events : List BoardEvent) :
    EveryStep boardStep (fun board event next =>
      (∀ device flags, .addUnprovDev device flags ∈ boardCalls board event →
        HandedOver board event device flags) ∧ Stocked next) Board.boot events := by
  refine everyStep_of_invariant Stocked ?_ ?_ events stocked_boot
  · intro board event next stocked happens
    exact stocked_of_step stocked happens
  · intro board event next stocked happens
    refine ⟨?_, stocked_of_step stocked happens⟩
    intro device flags called
    exact handedOver_of_call stocked called

/-! ## Keys -/

/-- The application key is the configured one once the stack has been started, and zero
before. -/
structure KeyOfBoard (board : Board) (provKey : ProvKey) : Prop where
  netIdx : provKey.netIdx = 0
  appKey : provKey.appKey = if board.started then configuredKey else 0

/-- Of its key the exchange changes the index only. -/
theorem provKey_of_exchangeStep {capacity : Nat} {exchange next : Exchange capacity}
    {event : ExchangeEvent} (happens : exchangeStep exchange event = some next) :
    next.provisioner.provKey.netIdx = exchange.provisioner.provKey.netIdx ∧
      next.provisioner.provKey.appKey = exchange.provisioner.provKey.appKey := by
  cases event with
  | provComplete param answers =>
      cases happens
      have same : (exchange.complete param answers).provisioner.provKey =
          exchange.provisioner.provKey :=
        provComplete_provKey exchange.provisioner param answers
      rw [same]
      exact ⟨rfl, rfl⟩
  | addLocalAppKeyComp errCode appIdx =>
      cases happens
      dsimp only
      rw [addLocalAppKeyComp]
      split <;> exact ⟨rfl, rfl⟩
  | report position report =>
      rcases reported_of_step happens with ⟨request, ⟨after, calls⟩, _, handled, _, rfl⟩
      have keeps := (handle_keeps handled).2
      dsimp only
      rw [keeps]
      exact ⟨rfl, rfl⟩
  | publish param malloc =>
      rcases Option.map_eq_some_iff.mp happens with ⟨⟨after, calls⟩, handled, rfl⟩
      rcases exampleBleMeshConfigClientCb_effect handled with ⟨_, _, _, rfl⟩
      exact ⟨rfl, rfl⟩

/-- The board has its own key, and its exchange with the nodes is sound. -/
structure Keyed (board : Board) : Prop where
  key : KeyOfBoard board board.exchange.provisioner.provKey
  sound : ∃ stored, Sound board.exchange stored

theorem keyed_boot : Keyed Board.boot :=
  ⟨⟨rfl, rfl⟩, [], Nodes.hold_zeroed, rfl, by simp [Board.boot]⟩

/-- The stack is started with the configured key and leaves the exchange as it was. -/
theorem keyed_started {board : Board} (keyed : Keyed board) {bluetoothInit meshInit : Int}
    (succeeds : (provisionerInit board.exchange.provisioner bluetoothInit meshInit).1 = espOk) :
    Keyed { board with
      exchange.provisioner :=
        (provisionerInit board.exchange.provisioner bluetoothInit meshInit).2
      started := true } := by
  rcases keyed.sound with ⟨stored, sound⟩
  rw [provisionerInit] at succeeds ⊢
  split at succeeds
  · cases succeeds
  next initialized =>
    rw [if_neg initialized]
    exact ⟨⟨rfl, rfl⟩, stored, sound.hold, rfl, sound.compositions⟩

theorem keyed_of_step {board next : Board} {event : BoardEvent} (keyed : Keyed board)
    (happens : boardStep board event = some next) : Keyed next := by
  cases moves_of_step happens with
  | stays => exact keyed
  | restarts => exact keyed_boot
  | starts bluetoothInit meshInit succeeds => exact keyed_started keyed succeeds
  | adds index addUnprovDev => exact ⟨⟨keyed.key.netIdx, keyed.key.appKey⟩, keyed.sound⟩
  | receives packet allocated => exact ⟨⟨keyed.key.netIdx, keyed.key.appKey⟩, keyed.sound⟩
  | exchanges exchanged =>
      have same := provKey_of_exchangeStep exchanged
      exact ⟨⟨same.1.trans keyed.key.netIdx, same.2.trans keyed.key.appKey⟩,
        sound_of_step keyed.sound exchanged⟩

/-- Over any run, restarts included: the local stack is given the application key only, the
configured one if it has been started and all zeros if it has not, and nodes are never sent
a key. -/
theorem keys_stay_on_board (events : List BoardEvent) :
    EveryStep boardStep (fun board event next =>
      (∀ provKey, .addLocalAppKey provKey ∈ boardCalls board event →
        KeyOfBoard board provKey) ∧
      ∀ call, .mesh call ∈ boardCalls board event →
        (∃ nodeIdx name, call = .setNodeName nodeIdx name) ∨
          AsksStoredNode board.exchange.provisioner.provKey next.exchange.provisioner.nodes call)
      Board.boot events := by
  refine everyStep_of_invariant Keyed ?_ ?_ events keyed_boot
  · intro board event next keyed happens
    exact keyed_of_step keyed happens
  · intro board event next keyed happens
    constructor
    · intro provKey called
      cases origin_of_call called with
      | addsKey executed action => exact keyed.key
    · intro call called
      cases origin_of_call called with
      | @answers meshEvent _ called =>
          rcases Option.map_eq_some_iff.mp happens with ⟨exchange, exchanged, rfl⟩
          exact onlyAsks_of_step keyed.sound exchanged call called

end BleMesh.Provisioner
