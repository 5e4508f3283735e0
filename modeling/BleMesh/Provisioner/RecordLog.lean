import BleMesh.Provisioner.Exchange

/-! # The records as a log

Replies fill the records of `prov_node_info` in, completions append to them, and nothing is
taken out. Of a record its name, UUID, address and number of elements stay what they were.
-/

namespace BleMesh.Provisioner

open Foundation Foundation.Execution

variable {capacity : Nat}

/-- What a reply does not change of a record. -/
structure Identity where
  name : String
  device : Device
  deriving DecidableEq

def ProvNodeInfo.identity (record : ProvNodeInfo) : Identity where
  name := record.name
  device := record.device

/-- The identities of the records, in the order of their slots. -/
def identities (table : SlotTable ProvNodeInfo capacity) : List Identity :=
  table.entries.map ProvNodeInfo.identity

/-- The device of a completion that has a unicast address and gets its memory. -/
def ExchangeEvent.recordable : ExchangeEvent → List Device
  | .provComplete param answers =>
      if espBleMeshAddrIsUnicast param.unicast ∧ answers.allocated then [param.device] else []
  | .addLocalAppKeyComp _ _ => []
  | .report _ _ => []
  | .publish _ _ => []

/-- Devices with the names of the slots they are in. -/
def named (devices : List Device) : List Identity :=
  devices.mapIdx fun index device => { name := "Node-" ++ toString index, device }

theorem named_append (devices : List Device) (device : Device) :
    named (devices ++ [device]) =
      named devices ++ [{ name := "Node-" ++ toString devices.length, device }] := by
  rw [named, List.mapIdx_append]
  simp [named]

/-- The records are those of the first devices that could be recorded. -/
def LogOf (recorded : List Device) (table : SlotTable ProvNodeInfo capacity) : Prop :=
  ∃ records, table.FilledBy records ∧
    records.map ProvNodeInfo.identity = named (recorded.take capacity)

theorem logOf_initial : LogOf [] (SlotTable.empty : SlotTable ProvNodeInfo capacity) :=
  ⟨[], SlotTable.filledBy_empty, by simp [named]⟩

theorem LogOf.identities_eq {recorded : List Device} {table : SlotTable ProvNodeInfo capacity}
    (log : LogOf recorded table) : identities table = named (recorded.take capacity) := by
  rcases log with ⟨records, filled, same⟩
  rw [identities, filled.entries_eq, same]

theorem LogOf.of_parseEffect {recorded : List Device}
    {table after : SlotTable ProvNodeInfo capacity} (log : LogOf recorded table)
    {unicast : UInt16} {code : Int} (effect : ParseEffect table unicast code after) :
    LogOf recorded after := by
  rcases log with ⟨records, filled, same⟩
  have rewritten : ∀ index node filledNode, findProvNode table unicast = some (index, node) →
      filledNode.identity = node.identity →
      LogOf recorded (table.set index (some filledNode)) := by
    intro index node filledNode found sameIdentity
    have held := (SlotTable.find_some found).1
    rw [filled.get_eq] at held
    rcases List.getElem?_eq_some_iff.mp held with ⟨inside, present⟩
    refine ⟨records.set index filledNode, filled.set_held inside filledNode, ?_⟩
    have insideMap : index < (records.map ProvNodeInfo.identity).length := by
      rwa [List.length_map]
    have atIndex : (records.map ProvNodeInfo.identity)[index] = node.identity := by
      rw [List.getElem_map, present]
    rw [List.map_set, sameIdentity, ← atIndex, List.set_getElem_self, same]
  cases effect with
  | rejected => exact ⟨records, filled, same⟩
  | noMemory header found => exact rewritten _ _ _ found rfl
  | stored header found _ _ => exact rewritten _ _ _ found rfl

/-- A completion appends its device, as long as there is room. -/
theorem LogOf.of_provComplete {recorded : List Device} {provisioner : ProvisionerState capacity}
    (log : LogOf recorded provisioner.provNodeInfo) (param : ProvCompleteParam)
    (answers : ProvCompleteAnswers) :
    LogOf (recorded ++ (ExchangeEvent.provComplete param answers).recordable)
      (provComplete provisioner param answers).after.provNodeInfo := by
  rw [provComplete_provNodeInfo, ExchangeEvent.recordable]
  by_cases recordable : espBleMeshAddrIsUnicast param.unicast = true ∧ answers.allocated = true
  · rw [if_pos recordable]
    rcases log with ⟨records, filled, same⟩
    have count := congrArg List.length same
    rw [List.length_map, named, List.length_mapIdx, List.length_take] at count
    by_cases room : records.length < capacity
    · have stores : Records provisioner.provNodeInfo param.unicast answers.allocated :=
        ⟨recordable.1, filled.hasRoom_iff.mpr room, recordable.2⟩
      have fits : recorded.length < capacity := by omega
      have slot : records.length = recorded.length := by omega
      refine ⟨_, filledBy_of_records filled stores param.uuid param.elemNum, ?_⟩
      rw [List.take_of_length_le (by simpa using Nat.succ_le_of_lt fits), named_append, List.map_append, same,
        List.take_of_length_le (Nat.le_of_lt fits), slot]
      rfl
    · have full : ¬ Records provisioner.provNodeInfo param.unicast answers.allocated :=
        fun stores => room (filled.hasRoom_iff.mp stores.room)
      rw [provisionerAddProvDevInfo_of_not_records full]
      refine ⟨records, filled, ?_⟩
      rw [List.take_append_of_le_length (by omega), same]
  · rw [if_neg recordable, List.append_nil]
    have skips : ¬ Records provisioner.provNodeInfo param.unicast answers.allocated :=
      fun stores => recordable ⟨stores.isUnicast, stores.memory⟩
    rwa [provisionerAddProvDevInfo_of_not_records skips]

theorem logOf_of_step {exchange next : Exchange capacity} {event : ExchangeEvent}
    {recorded : List Device} (log : LogOf recorded exchange.provisioner.provNodeInfo)
    (happens : exchangeStep exchange event = some next) :
    LogOf (recorded ++ event.recordable) next.provisioner.provNodeInfo := by
  cases event with
  | provComplete param answers =>
      cases happens
      exact log.of_provComplete param answers
  | addLocalAppKeyComp errCode appIdx =>
      cases happens
      have same : (addLocalAppKeyComp exchange.provisioner errCode appIdx).1.provNodeInfo =
          exchange.provisioner.provNodeInfo := by
        rw [addLocalAppKeyComp]
        split <;> rfl
      rwa [ExchangeEvent.recordable, List.append_nil, same]
  | report position report =>
      rcases reported_of_step happens with ⟨request, ⟨after, calls⟩, _, handled, _, rfl⟩
      rcases exampleBleMeshConfigClientCb_effect handled with ⟨code, table, effect, rfl⟩
      rw [ExchangeEvent.recordable, List.append_nil]
      exact log.of_parseEffect effect
  | publish param malloc =>
      rcases Option.map_eq_some_iff.mp happens with ⟨⟨after, calls⟩, handled, rfl⟩
      rcases exampleBleMeshConfigClientCb_effect handled with ⟨code, table, effect, rfl⟩
      rw [ExchangeEvent.recordable, List.append_nil]
      exact log.of_parseEffect effect

/-- Whatever is provisioned and replied, the table is the log of the first devices that had a
unicast address and got memory for a record, as many as it has slots, in their order. -/
theorem records_are_log {exchange : Exchange capacity} {events : List ExchangeEvent}
    (runs : run exchangeStep Exchange.initial events = some exchange) :
    identities exchange.provisioner.provNodeInfo =
      named ((events.flatMap ExchangeEvent.recordable).take capacity) := by
  have keeps : ∀ (exchange : Exchange capacity) (recorded : List Device) event next,
      LogOf recorded exchange.provisioner.provNodeInfo → exchangeStep exchange event = some next →
      LogOf (recorded ++ event.recordable) next.provisioner.provNodeInfo :=
    fun _ _ _ _ => logOf_of_step
  have log := invariant_of_recorded_run _ _ keeps logOf_initial runs
  rw [List.flatMap_eq_foldl]
  exact log.identities_eq

/-- Two devices are provisioned where there is room for one record. -/
def secondDeviceDropped : List ExchangeEvent :=
  [.provComplete { nodeIdx := 0, uuid := 1, unicast := 5, elemNum := 1 }
      { allocated := true, setNodeName := 0, configClientGetState := 0 },
    .provComplete { nodeIdx := 1, uuid := 2, unicast := 6, elemNum := 1 }
      { allocated := true, setNodeName := 0, configClientGetState := 0 }]

theorem records_are_log_full :
    ∃ exchange : Exchange 1,
      run exchangeStep Exchange.initial secondDeviceDropped = some exchange ∧
        identities exchange.provisioner.provNodeInfo =
          [{ name := "Node-0", device := { uuid := 1, unicast := 5, elemNum := 1 } }] := by
  have runs : ∃ exchange : Exchange 1,
      run exchangeStep Exchange.initial secondDeviceDropped = some exchange := ⟨_, rfl⟩
  rcases runs with ⟨exchange, runs⟩
  refine ⟨exchange, runs, ?_⟩
  rw [records_are_log runs]
  decide

end BleMesh.Provisioner
