import BleMesh.Provisioner.FailedCompletion
import BleMesh.Provisioner.ReplyAttribution

/-! # The exchange with the nodes

The provisioner asks a new node for its composition, and asks again when the stack reports
a timeout. What the stack has accepted is in flight until it reports on it, and it reports in
any order. The steps that would follow a composition, AppKey Add and Model App Bind, are
there in `example_ble_mesh_config_client_cb`, each sent in reply to the one before.
-/

namespace BleMesh.Provisioner

open Foundation Foundation.Execution

variable {capacity : Nat}

/-! ## The system -/

/-- A request, and the event with which the stack reports that it has been answered. -/
structure Request where
  answered : CfgClientEvent
  common : ClientCommonParam
  deriving DecidableEq

def StackCall.request : StackCall → Option Request
  | .setNodeName _ _ => none
  | .configClientGetState common _ => some { answered := .getState, common }
  | .configClientSetState common _ => some { answered := .setState, common }

/-- The argument of `esp_ble_mesh_provisioner_bind_app_key_to_local_model`. -/
structure LocalBinding where
  elementAddr : UInt16
  appIdx : UInt16
  modelId : UInt16
  companyId : UInt16
  deriving DecidableEq

def provOwnAddr : UInt16 := 0x0001

def onoffClientModelId : UInt16 := 0x1001

/-- `example_ble_mesh_provisioning_cb` on
ESP_BLE_MESH_PROVISIONER_ADD_LOCAL_APP_KEY_COMP_EVT. -/
def addLocalAppKeyComp (provisioner : ProvisionerState capacity) (errCode : Int)
    (appIdx : UInt16) : ProvisionerState capacity × Option LocalBinding :=
  if errCode = espOk then
    ({ provisioner with provKey.appIdx := appIdx },
      some {
        elementAddr := provOwnAddr
        appIdx
        modelId := onoffClientModelId
        companyId := cidNval })
  else (provisioner, none)

/-- `awaiting` lists the devices whose provisioning returned ESP_OK and that have not
answered since. -/
structure Exchange (capacity : Nat) where
  provisioner : ProvisionerState capacity
  inFlight : List Request
  awaiting : List Device

def Exchange.initial : Exchange capacity where
  provisioner := ProvisionerState.initial
  inFlight := []
  awaiting := []

/-- What the stack reports on a request in flight, and its answer to the call that the
callback makes in turn. -/
structure Report where
  timedOut : Bool
  errorCode : Int
  compositionData : NetBufSimple
  malloc : Nat → Bool
  accepted : Bool

inductive ExchangeEvent
  | provComplete (param : ProvCompleteParam) (answers : ProvCompleteAnswers)
  | addLocalAppKeyComp (errCode : Int) (appIdx : UInt16)
  | report (position : Nat) (report : Report)
  | publish (param : CfgClientParam) (malloc : Nat → Bool)

/-- The callback for a report on a request. -/
def Report.handle (report : Report) (provisioner : ProvisionerState capacity)
    (request : Request) : Option (ProvisionerState capacity × List StackCall) :=
  exampleBleMeshConfigClientCb provisioner
    (if report.timedOut then .timeout else request.answered)
    { errorCode := report.errorCode
      opcode := request.common.opcode
      addr := request.common.addr
      compositionData := report.compositionData } report.malloc

/-- The request has been answered without an error. -/
def Report.isAnswer (report : Report) : Bool :=
  !report.timedOut && report.errorCode == 0

/-- The calls that a step makes. A callback that fails an assertion ends the run. -/
def exchangeCalls (exchange : Exchange capacity) : ExchangeEvent → List StackCall
  | .provComplete param answers => (provComplete exchange.provisioner param answers).calls
  | .addLocalAppKeyComp _ _ => []
  | .report position report =>
      match exchange.inFlight[position]? with
      | none => []
      | some request =>
          match report.handle exchange.provisioner request with
          | none => []
          | some handled => handled.2
  | .publish param malloc =>
      match exampleBleMeshConfigClientCb exchange.provisioner .publish param malloc with
      | none => []
      | some handled => handled.2

/-- The requests among some calls that the stack accepts. -/
def acceptedRequests (accepted : Bool) (calls : List StackCall) : List Request :=
  if accepted then calls.filterMap StackCall.request else []

/-- After a provisioning has been completed. -/
def Exchange.complete (exchange : Exchange capacity) (param : ProvCompleteParam)
    (answers : ProvCompleteAnswers) : Exchange capacity :=
  let outcome := provComplete exchange.provisioner param answers
  let others := exchange.awaiting.filter fun device => device.uuid != param.uuid
  { provisioner := outcome.after
    inFlight := exchange.inFlight ++
      acceptedRequests (answers.configClientGetState == 0) outcome.calls
    awaiting := if outcome.returned = espOk then others ++ [param.device] else others }

def exchangeStep (exchange : Exchange capacity) :
    ExchangeEvent → Option (Exchange capacity)
  | .provComplete param answers => some (exchange.complete param answers)
  | .addLocalAppKeyComp errCode appIdx =>
      some { exchange with
        provisioner := (addLocalAppKeyComp exchange.provisioner errCode appIdx).1 }
  | .report position report =>
      match exchange.inFlight[position]? with
      | none => none
      | some request =>
          (report.handle exchange.provisioner request).map fun handled =>
            { provisioner := handled.1
              inFlight := exchange.inFlight.eraseIdx position ++
                acceptedRequests report.accepted handled.2
              awaiting :=
                if report.isAnswer then
                  exchange.awaiting.filter fun device => device.unicast != request.common.addr
                else exchange.awaiting }
  | .publish param malloc =>
      (exampleBleMeshConfigClientCb exchange.provisioner .publish param malloc).map
        fun handled =>
          { exchange with
            provisioner := handled.1
            inFlight := exchange.inFlight ++ acceptedRequests true handled.2 }

/-! ## What the callbacks send -/

/-- The request for page 0 of the composition data. -/
def compositionGet (provKey : ProvKey) (node : NodeInfo) : StackCall :=
  .configClientGetState (exampleBleMeshSetMsgCommon provKey node .compositionDataGet)
    (.compDataGet 0)

theorem provComplete_provKey (provisioner : ProvisionerState capacity)
    (param : ProvCompleteParam) (answers : ProvCompleteAnswers) :
    (provComplete provisioner param answers).after.provKey = provisioner.provKey := by
  simp only [provComplete]
  split
  · rfl
  split
  · rfl
  split
  · rfl
  · split <;> rfl

/-- The requests that follow the naming of the node: none, or one for its composition once
the device is stored and found again. -/
inductive Asks (provisioner : ProvisionerState capacity) (param : ProvCompleteParam)
    (answers : ProvCompleteAnswers) : List StackCall → Prop
  | nothing (failed : (provComplete provisioner param answers).returned ≠ espOk) :
      Asks provisioner param answers []
  | composition {nodes node}
      (stores : exampleBleMeshStoreNodeInfo provisioner.nodes (some param.node.uuid)
        param.node.unicast param.node.elemNum param.node.onoff = (espOk, nodes))
      (after : (provComplete provisioner param answers).after.nodes = nodes)
      (found : exampleBleMeshGetNodeInfo nodes param.unicast = some node)
      (returned : (provComplete provisioner param answers).returned = espOk ↔
        answers.configClientGetState = 0) :
      Asks provisioner param answers [compositionGet provisioner.provKey node]

theorem provComplete_calls (provisioner : ProvisionerState capacity)
    (param : ProvCompleteParam) (answers : ProvCompleteAnswers) :
    ∃ requests, (provComplete provisioner param answers).calls =
        .setNodeName param.nodeIdx ("NODE-" ++ toString param.nodeIdx.toNat) :: requests ∧
      Asks provisioner param answers requests := by
  have failed : espFail ≠ espOk := by decide
  by_cases named : answers.setNodeName = 0
  · rcases stores : exampleBleMeshStoreNodeInfo provisioner.nodes (some param.uuid)
      param.unicast param.elemNum ledOff with ⟨err, nodes⟩
    by_cases refused : err = 0
    · subst refused
      cases found : exampleBleMeshGetNodeInfo nodes param.unicast with
      | none =>
          refine ⟨[], ?_, .nothing ?_⟩
          · simp only [provComplete, named, stores, found, ne_eq, not_true_eq_false, if_false]
          · simp only [provComplete, named, stores, found, ne_eq, not_true_eq_false, if_false]
            exact failed
      | some node =>
          refine ⟨_, ?_, .composition stores ?_ found ?_⟩
          · simp only [provComplete, named, stores, found, ne_eq, not_true_eq_false, if_false]
            split <;> rfl
          · simp only [provComplete, named, stores, found, ne_eq, not_true_eq_false, if_false]
            split <;> rfl
          · simp only [provComplete, named, stores, found, ne_eq, not_true_eq_false, if_false]
            split
            next notAsked => exact iff_of_false failed notAsked
            next asked => exact iff_of_true rfl (not_not.mp asked)
    · refine ⟨[], ?_, .nothing ?_⟩
      · simp only [provComplete, named, stores, refused, ne_eq, not_true_eq_false, if_false,
          not_false_eq_true, if_true]
      · simp only [provComplete, named, stores, refused, ne_eq, not_true_eq_false, if_false,
          not_false_eq_true, if_true]
        exact failed
  · refine ⟨[], ?_, .nothing ?_⟩
    · simp only [provComplete, named, ne_eq, not_false_eq_true, if_true]
    · simp only [provComplete, named, ne_eq, not_false_eq_true, if_true]
      exact failed

/-- What the callback sends for a report on a request for a composition: the request again,
if it has timed out and the node is still known. -/
theorem handle_of_compositionGet {provisioner after : ProvisionerState capacity}
    {request : Request} {report : Report} {calls : List StackCall}
    (answered : request.answered = .getState)
    (opcode : request.common.opcode = .compositionDataGet)
    (handled : report.handle provisioner request = some (after, calls)) :
    calls = if report.timedOut ∧ report.errorCode = 0 then
      ((exampleBleMeshGetNodeInfo provisioner.nodes request.common.addr).map
        (compositionGet provisioner.provKey)).toList else [] := by
  simp only [Report.handle, exampleBleMeshConfigClientCb, answered, opcode] at handled
  by_cases failed : report.errorCode = 0
  · rw [if_neg (not_not.mpr failed)] at handled
    cases found : exampleBleMeshGetNodeInfo provisioner.nodes request.common.addr with
    | none =>
        rw [found] at handled
        cases handled
        simp
    | some node =>
        rw [found] at handled
        cases timedOut : report.timedOut with
        | true =>
            rw [timedOut] at handled
            cases handled
            simp [failed, compositionGet]
        | false =>
            rw [timedOut] at handled
            rcases Option.map_eq_some_iff.mp handled with ⟨_, _, equal⟩
            cases equal
            simp
  · rw [if_pos failed] at handled
    cases handled
    simp [failed]

theorem publish_calls {provisioner after : ProvisionerState capacity} {param : CfgClientParam}
    {malloc : Nat → Bool} {calls : List StackCall}
    (handled : exampleBleMeshConfigClientCb provisioner .publish param malloc =
      some (after, calls)) : calls = [] := by
  simp only [exampleBleMeshConfigClientCb] at handled
  split at handled
  · cases handled
    rfl
  split at handled
  · cases handled
    rfl
  · cases handled
    rfl

/-! ## The invariant -/

/-- The nodes hold what is stored, and all requests in flight are for compositions. -/
structure Sound (exchange : Exchange capacity) (stored : List NodeInfo) : Prop where
  hold : exchange.provisioner.nodes.Hold stored
  netIdx : exchange.provisioner.provKey.netIdx = 0
  compositions : ∀ request ∈ exchange.inFlight,
    request.answered = .getState ∧ request.common.opcode = .compositionDataGet

theorem sound_initial : Sound (Exchange.initial : Exchange capacity) [] where
  hold := Nodes.hold_zeroed
  netIdx := rfl
  compositions := by simp [Exchange.initial]

theorem mem_stored_of_found {nodes : Nodes capacity} {stored : List NodeInfo}
    (hold : nodes.Hold stored) {unicast : UInt16} {node : NodeInfo}
    (found : exampleBleMeshGetNodeInfo nodes unicast = some node) : node ∈ stored := by
  cases isUnicast : espBleMeshAddrIsUnicast unicast with
  | false => simp [exampleBleMeshGetNodeInfo, isUnicast] at found
  | true =>
      rw [getNodeInfo_eq hold isUnicast] at found
      exact List.mem_of_find?_eq_some found

/-- The callback sets the index of the key only. -/
theorem addLocalAppKeyComp_keeps (provisioner : ProvisionerState capacity) (errCode : Int)
    (appIdx : UInt16) :
    (addLocalAppKeyComp provisioner errCode appIdx).1.nodes = provisioner.nodes ∧
      (addLocalAppKeyComp provisioner errCode appIdx).1.provKey.netIdx =
        provisioner.provKey.netIdx := by
  rw [addLocalAppKeyComp]
  split <;> exact ⟨rfl, rfl⟩

/-- The nodes after a completion: those before, or with the device stored among them. -/
theorem hold_of_provComplete {provisioner : ProvisionerState capacity}
    {stored : List NodeInfo} (hold : provisioner.nodes.Hold stored) (param : ProvCompleteParam)
    (answers : ProvCompleteAnswers) :
    (provComplete provisioner param answers).after.nodes.Hold stored ∨
      espBleMeshAddrIsUnicast param.unicast = true ∧
        (provComplete provisioner param answers).after.nodes.Hold
          (upsert NodeInfo.uuid stored param.node) := by
  rw [provComplete_nodes]
  split
  · exact Or.inl hold
  · rcases stores : provisioner.nodes.store param.node with ⟨err, nodes⟩
    by_cases refused : err = espOk
    · subst refused
      exact Or.inr (store_of_ok hold stores)
    · rw [store_of_error stores refused]
      exact Or.inl hold

theorem stored_of_provComplete {provisioner : ProvisionerState capacity}
    {stored : List NodeInfo} (hold : provisioner.nodes.Hold stored) (param : ProvCompleteParam)
    (answers : ProvCompleteAnswers) :
    ∃ nextStored, (provComplete provisioner param answers).after.nodes.Hold nextStored := by
  rcases hold_of_provComplete hold param answers with kept | ⟨_, stores⟩
  · exact ⟨_, kept⟩
  · exact ⟨_, stores⟩

/-- What a step does, apart from the state it leads to: its calls name a node or ask a stored
one for its composition. -/
structure SoundStep (exchange next : Exchange capacity) (event : ExchangeEvent)
    (stored : List NodeInfo) : Prop where
  sound : Sound next stored
  calls : ∀ call ∈ exchangeCalls exchange event,
    (∃ nodeIdx name, call = .setNodeName nodeIdx name) ∨
      ∃ node ∈ stored, call = compositionGet exchange.provisioner.provKey node

theorem mem_acceptedRequests {accepted : Bool} {calls : List StackCall} {request : Request}
    (member : request ∈ acceptedRequests accepted calls) :
    ∃ call ∈ calls, call.request = some request := by
  rw [acceptedRequests] at member
  split at member
  · exact List.mem_filterMap.mp member
  · cases member

/-- The requests that follow the naming, if the stack accepts them. -/
theorem complete_inFlight {exchange : Exchange capacity} {param : ProvCompleteParam}
    {answers : ProvCompleteAnswers} {requests : List StackCall}
    (calls : (provComplete exchange.provisioner param answers).calls =
      .setNodeName param.nodeIdx ("NODE-" ++ toString param.nodeIdx.toNat) :: requests) :
    (exchange.complete param answers).inFlight = exchange.inFlight ++
      acceptedRequests (answers.configClientGetState == 0) requests := by
  simp only [Exchange.complete, calls, acceptedRequests]
  split <;> rfl

theorem compositions_append {exchange : Exchange capacity} {stored : List NodeInfo}
    (sound : Sound exchange stored) {accepted : Bool} {provKey : ProvKey}
    {calls : List StackCall}
    (shape : ∀ call ∈ calls, ∃ node, call = compositionGet provKey node) :
    ∀ request ∈ exchange.inFlight ++ acceptedRequests accepted calls,
      request.answered = .getState ∧ request.common.opcode = .compositionDataGet := by
  intro request member
  rcases List.mem_append.mp member with member | member
  · exact sound.compositions request member
  · rcases mem_acceptedRequests member with ⟨call, called, sent⟩
    rcases shape call called with ⟨node, rfl⟩
    cases sent
    exact ⟨rfl, rfl⟩

/-- A request for a composition goes to a stored node. -/
theorem Asks.mem_stored {provisioner : ProvisionerState capacity} {param : ProvCompleteParam}
    {answers : ProvCompleteAnswers} {requests : List StackCall} {stored : List NodeInfo}
    (asks : Asks provisioner param answers requests)
    (hold : (provComplete provisioner param answers).after.nodes.Hold stored) :
    ∀ call ∈ requests, ∃ node ∈ stored, call = compositionGet provisioner.provKey node := by
  intro call member
  cases asks with
  | nothing _ => cases member
  | composition _ after found _ =>
      rw [after] at hold
      exact ⟨_, mem_stored_of_found hold found, List.mem_singleton.mp member⟩

theorem Sound.complete {exchange : Exchange capacity} {stored nextStored : List NodeInfo}
    (sound : Sound exchange stored) {param : ProvCompleteParam} {answers : ProvCompleteAnswers}
    {requests : List StackCall}
    (calls : (provComplete exchange.provisioner param answers).calls =
      .setNodeName param.nodeIdx ("NODE-" ++ toString param.nodeIdx.toNat) :: requests)
    (asks : Asks exchange.provisioner param answers requests)
    (hold : (provComplete exchange.provisioner param answers).after.nodes.Hold nextStored) :
    Sound (exchange.complete param answers) nextStored where
  hold := hold
  netIdx := (congrArg ProvKey.netIdx
    (provComplete_provKey exchange.provisioner param answers)).trans sound.netIdx
  compositions := by
    rw [complete_inFlight calls]
    apply compositions_append sound
    intro call member
    rcases asks.mem_stored hold call member with ⟨node, _, asked⟩
    exact ⟨node, asked⟩

/-- The callback keeps all but the records of `prov_node_info`. -/
theorem handle_keeps {provisioner after : ProvisionerState capacity} {request : Request}
    {report : Report} {calls : List StackCall}
    (handled : report.handle provisioner request = some (after, calls)) :
    after.nodes = provisioner.nodes ∧ after.provKey = provisioner.provKey := by
  rcases exampleBleMeshConfigClientCb_effect handled with ⟨_, _, _, rfl⟩
  exact ⟨rfl, rfl⟩

/-- The state after a report that has been handled. -/
theorem reported_of_step {exchange next : Exchange capacity} {position : Nat} {report : Report}
    (happens : exchangeStep exchange (.report position report) = some next) :
    ∃ request handled, exchange.inFlight[position]? = some request ∧
      report.handle exchange.provisioner request = some handled ∧
      exchangeCalls exchange (.report position report) = handled.2 ∧
      next = {
        provisioner := handled.1
        inFlight := exchange.inFlight.eraseIdx position ++
          acceptedRequests report.accepted handled.2
        awaiting :=
          if report.isAnswer then
            exchange.awaiting.filter fun device => device.unicast != request.common.addr
          else exchange.awaiting } := by
  cases present : exchange.inFlight[position]? with
  | none => simp [exchangeStep, present] at happens
  | some request =>
      simp only [exchangeStep, present] at happens
      rcases Option.map_eq_some_iff.mp happens with ⟨handled, returns, equal⟩
      exact ⟨request, handled, rfl, returns, by simp [exchangeCalls, present, returns], equal.symm⟩

theorem sound_of_report {exchange next : Exchange capacity} {stored : List NodeInfo}
    (sound : Sound exchange stored) {position : Nat} {report : Report}
    (happens : exchangeStep exchange (.report position report) = some next) :
    Sound next stored ∧ ∀ call ∈ exchangeCalls exchange (.report position report),
      ∃ node ∈ stored, call = compositionGet exchange.provisioner.provKey node := by
  rcases reported_of_step happens with ⟨request, ⟨after, calls⟩, present, handled, made, rfl⟩
  rcases handle_keeps handled with ⟨nodes, provKey⟩
  have asked := sound.compositions request (List.mem_of_getElem? present)
  have sent := handle_of_compositionGet asked.1 asked.2 handled
  have shape : ∀ call ∈ calls,
      ∃ node ∈ stored, call = compositionGet exchange.provisioner.provKey node := by
    intro call member
    rw [sent] at member
    split at member
    · rcases Option.map_eq_some_iff.mp (Option.mem_toList.mp member) with ⟨node, found, rfl⟩
      exact ⟨node, mem_stored_of_found sound.hold found, rfl⟩
    · cases member
  refine ⟨⟨nodes ▸ sound.hold, provKey ▸ sound.netIdx, ?_⟩, made ▸ shape⟩
  intro other member
  rcases List.mem_append.mp member with member | member
  · exact sound.compositions other (List.mem_of_mem_eraseIdx member)
  · rcases mem_acceptedRequests member with ⟨call, called, requested⟩
    rcases shape call called with ⟨node, _, rfl⟩
    cases requested
    exact ⟨rfl, rfl⟩

theorem Sound.addLocalAppKeyComp {exchange : Exchange capacity} {stored : List NodeInfo}
    (sound : Sound exchange stored) (errCode : Int) (appIdx : UInt16) :
    Sound { exchange with
      provisioner :=
        (Provisioner.addLocalAppKeyComp exchange.provisioner errCode appIdx).1 } stored := by
  have keeps := addLocalAppKeyComp_keeps exchange.provisioner errCode appIdx
  exact ⟨keeps.1 ▸ sound.hold, keeps.2 ▸ sound.netIdx, sound.compositions⟩

theorem sound_of_publish {exchange next : Exchange capacity} {stored : List NodeInfo}
    (sound : Sound exchange stored) {param : CfgClientParam} {malloc : Nat → Bool}
    (happens : exchangeStep exchange (.publish param malloc) = some next) :
    Sound next stored ∧ exchangeCalls exchange (.publish param malloc) = [] ∧
      next.awaiting = exchange.awaiting := by
  rcases Option.map_eq_some_iff.mp happens with ⟨⟨after, calls⟩, handled, rfl⟩
  have none := publish_calls handled
  have called : exchangeCalls exchange (.publish param malloc) = [] := by
    simp only [exchangeCalls, handled, none]
  rcases exampleBleMeshConfigClientCb_effect handled with ⟨_, _, _, rfl⟩
  have unchanged : exchange.inFlight ++ acceptedRequests true calls = exchange.inFlight := by
    rw [none]
    exact List.append_nil _
  refine ⟨⟨sound.hold, sound.netIdx, ?_⟩, called, rfl⟩
  dsimp only
  rw [unchanged]
  exact sound.compositions

/-! ## What is sent -/

theorem soundStep_of_step {exchange next : Exchange capacity} {stored : List NodeInfo}
    (sound : Sound exchange stored) {event : ExchangeEvent}
    (happens : exchangeStep exchange event = some next) :
    ∃ nextStored, SoundStep exchange next event nextStored := by
  cases event with
  | provComplete param answers =>
      cases happens
      rcases provComplete_calls exchange.provisioner param answers with ⟨requests, calls, asks⟩
      rcases stored_of_provComplete sound.hold param answers with ⟨nextStored, hold⟩
      refine ⟨nextStored, sound.complete calls asks hold, ?_⟩
      intro call member
      rw [exchangeCalls, calls, List.mem_cons] at member
      rcases member with rfl | member
      · exact Or.inl ⟨_, _, rfl⟩
      · exact Or.inr (asks.mem_stored hold call member)
  | addLocalAppKeyComp errCode appIdx =>
      cases happens
      refine ⟨stored, sound.addLocalAppKeyComp errCode appIdx, ?_⟩
      intro call member
      cases member
  | report position report =>
      rcases sound_of_report sound happens with ⟨soundNext, shape⟩
      exact ⟨stored, soundNext, fun call member => Or.inr (shape call member)⟩
  | publish param malloc =>
      rcases sound_of_publish sound happens with ⟨soundNext, called, _⟩
      refine ⟨stored, soundNext, ?_⟩
      intro call member
      rw [called] at member
      cases member

/-- A request for page 0 of the composition data, with the primary network key and the
application key of the provisioner, to the primary address of a node that is in use. -/
def AsksStoredNode (provKey : ProvKey) (nodes : Nodes capacity) (call : StackCall) : Prop :=
  ∃ node ∈ nodes.entries, node.unicast ≠ espBleMeshAddrUnassigned ∧
    call = .configClientGetState {
      opcode := .compositionDataGet
      netIdx := 0
      appIdx := provKey.appIdx
      addr := node.unicast
      sendTtl := 3
      msgTimeout := 0 } (.compDataGet 0)

theorem asksStoredNode_of_sound {exchange next : Exchange capacity} {stored : List NodeInfo}
    (netIdx : exchange.provisioner.provKey.netIdx = 0) (sound : Sound next stored)
    {node : NodeInfo} (member : node ∈ stored) :
    AsksStoredNode exchange.provisioner.provKey next.provisioner.nodes
      (compositionGet exchange.provisioner.provKey node) := by
  refine ⟨node, ?_, sound.hold.assigned node member, ?_⟩
  · rw [sound.hold.entries_eq]
    exact List.mem_append_left _ member
  · rw [compositionGet, exampleBleMeshSetMsgCommon, netIdx]

theorem sound_of_step {exchange next : Exchange capacity} {event : ExchangeEvent}
    (sound : ∃ stored, Sound exchange stored)
    (happens : exchangeStep exchange event = some next) : ∃ stored, Sound next stored := by
  rcases sound with ⟨stored, sound⟩
  rcases soundStep_of_step sound happens with ⟨nextStored, step⟩
  exact ⟨nextStored, step.sound⟩

/-- A call names a node, or asks a node that is stored then for its composition. -/
def OnlyAsks (exchange : Exchange capacity) (event : ExchangeEvent) (next : Exchange capacity) :
    Prop :=
  ∀ call ∈ exchangeCalls exchange event,
    (∃ nodeIdx name, call = .setNodeName nodeIdx name) ∨
      AsksStoredNode exchange.provisioner.provKey next.provisioner.nodes call

theorem onlyAsks_of_step {exchange next : Exchange capacity} {event : ExchangeEvent}
    (sound : ∃ stored, Sound exchange stored)
    (happens : exchangeStep exchange event = some next) : OnlyAsks exchange event next := by
  intro call called
  rcases sound with ⟨stored, soundNow⟩
  rcases soundStep_of_step soundNow happens with ⟨nextStored, step⟩
  rcases step.calls call called with naming | ⟨node, nodeMember, rfl⟩
  · exact Or.inl naming
  · exact Or.inr (asksStoredNode_of_sound soundNow.netIdx step.sound nodeMember)

/-- In every run, whatever the order of completions and reports, the only messages that
nodes are sent are requests for their composition: no node is ever given the application
key, and no model is bound to it. -/
theorem only_compositions_asked (events : List ExchangeEvent) :
    EveryStep exchangeStep OnlyAsks (Exchange.initial : Exchange capacity) events := by
  refine everyStep_of_invariant (fun exchange => ∃ stored, Sound exchange stored) ?_ ?_ events
    ⟨[], sound_initial⟩
  · intro exchange event next sound happens
    exact sound_of_step sound happens
  · intro exchange event next sound happens
    exact onlyAsks_of_step sound happens

/-! ## Ranges of addresses -/

/-- The stack gives each device its own range of addresses, with one for each element. -/
def OwnsRange (exchange : Exchange capacity) : ExchangeEvent → Prop
  | .provComplete param _ =>
      param.device.elemNum ≠ 0 ∧
        rangeIsFree exchange.provisioner.nodes.devices param.device = true
  | _ => True

instance (exchange : Exchange capacity) (event : ExchangeEvent) :
    Decidable (OwnsRange exchange event) :=
  match event with
  | .provComplete _ _ => inferInstanceAs (Decidable (_ ∧ _))
  | .addLocalAppKeyComp _ _ => isTrue trivial
  | .report _ _ => isTrue trivial
  | .publish _ _ => isTrue trivial

/-- The stored nodes have their own ranges, and the devices that are awaited are stored. -/
structure OwnRanges (exchange : Exchange capacity) (stored : List NodeInfo) : Prop extends
    Sound exchange stored where
  isUnicast : ∀ node ∈ stored, espBleMeshAddrIsUnicast node.unicast = true
  elements : ∀ node ∈ stored, node.device.elemNum ≠ 0
  apart : ∀ node ∈ stored, ∀ other ∈ stored, other.uuid ≠ node.uuid →
    other.device.Disjoint node.device
  known : ∀ device ∈ exchange.awaiting, device ∈ stored.map NodeInfo.device

theorem ownRanges_initial : OwnRanges (Exchange.initial : Exchange capacity) [] where
  toSound := sound_initial
  isUnicast := by simp
  elements := by simp
  apart := by simp
  known := by simp [Exchange.initial]

/-- A stored node is found at its own address. -/
theorem OwnRanges.getNodeInfo {exchange : Exchange capacity} {stored : List NodeInfo}
    (ranges : OwnRanges exchange stored) {node : NodeInfo} (member : node ∈ stored) :
    exampleBleMeshGetNodeInfo exchange.provisioner.nodes node.unicast = some node := by
  rw [getNodeInfo_eq ranges.hold (ranges.isUnicast node member)]
  have ownCovers := node.device.covers_unicast_iff.mpr (ranges.elements node member)
  cases found : stored.find? fun other => other.covers node.unicast with
  | none =>
      have misses := List.find?_eq_none.mp found node member
      rw [covers_iff] at misses
      exact absurd ownCovers misses
  | some other =>
      have otherMember := List.mem_of_find?_eq_some found
      have covers := List.find?_some found
      rw [covers_iff] at covers
      by_contra different
      have otherUuid : other.uuid ≠ node.uuid := by
        intro same
        exact different (congrArg some
          (List.inj_on_of_nodup_map ranges.hold.distinct otherMember member same))
      have disjoint := ranges.apart node member other otherMember otherUuid
      exact (Device.disjoint_iff _ _).mp disjoint node.unicast.toNat ⟨covers, ownCovers⟩

/-- A device with a free range keeps the ranges apart. -/
theorem OwnRanges.apart_upsert {exchange : Exchange capacity} {stored : List NodeInfo}
    (ranges : OwnRanges exchange stored) {new : NodeInfo}
    (free : rangeIsFree exchange.provisioner.nodes.devices new.device = true) :
    ∀ node ∈ upsert NodeInfo.uuid stored new, ∀ other ∈ upsert NodeInfo.uuid stored new,
      other.uuid ≠ node.uuid → other.device.Disjoint node.device := by
  have ownRange : ∀ node ∈ stored, node.uuid ≠ new.uuid →
      node.device.Disjoint new.device := by
    intro node member different
    rw [ranges.hold.devices_eq] at free
    exact disjoint_of_rangeIsFree free (List.mem_map_of_mem member) different
  intro node member other otherMember different
  rw [mem_upsert_iff] at member otherMember
  rcases member with rfl | ⟨member, elsewhere⟩ <;>
    rcases otherMember with rfl | ⟨otherMember, otherElsewhere⟩
  · exact absurd rfl different
  · exact ownRange other otherMember otherElsewhere
  · exact (ownRange node member elsewhere).symm
  · exact ranges.apart node member other otherMember different

theorem awaiting_of_complete {exchange : Exchange capacity} {param : ProvCompleteParam}
    {answers : ProvCompleteAnswers} {device : Device}
    (member : device ∈ (exchange.complete param answers).awaiting) :
    device ∈ exchange.awaiting ∧ device.uuid ≠ param.uuid ∨
      device = param.device ∧
        (provComplete exchange.provisioner param answers).returned = espOk := by
  simp only [Exchange.complete] at member
  have others : ∀ device ∈ exchange.awaiting.filter fun device => device.uuid != param.uuid,
      device ∈ exchange.awaiting ∧ device.uuid ≠ param.uuid := by
    intro device member
    simpa using List.mem_filter.mp member
  split at member
  next returned =>
    rcases List.mem_append.mp member with member | member
    · exact Or.inl (others device member)
    · exact Or.inr ⟨List.mem_singleton.mp member, returned⟩
  · exact Or.inl (others device member)

/-- After a completion that has stored the device. -/
theorem OwnRanges.stores {exchange : Exchange capacity} {stored : List NodeInfo}
    (ranges : OwnRanges exchange stored) {param : ProvCompleteParam}
    {answers : ProvCompleteAnswers} (owns : OwnsRange exchange (.provComplete param answers))
    (isUnicast : espBleMeshAddrIsUnicast param.unicast = true)
    (sound : Sound (exchange.complete param answers)
      (upsert NodeInfo.uuid stored param.node)) :
    OwnRanges (exchange.complete param answers) (upsert NodeInfo.uuid stored param.node) := by
  rcases owns with ⟨elements, free⟩
  refine ⟨sound, ?_, ?_, ranges.apart_upsert free, ?_⟩
  · intro node member
    rcases (mem_upsert_iff node).mp member with rfl | ⟨member, -⟩
    · exact isUnicast
    · exact ranges.isUnicast node member
  · intro node member
    rcases (mem_upsert_iff node).mp member with rfl | ⟨member, -⟩
    · exact elements
    · exact ranges.elements node member
  · intro device member
    rcases awaiting_of_complete member with ⟨member, different⟩ | ⟨rfl, _⟩
    · rcases List.mem_map.mp (ranges.known device member) with ⟨node, nodeMember, rfl⟩
      exact List.mem_map_of_mem ((mem_upsert_iff node).mpr (Or.inr ⟨nodeMember, different⟩))
    · exact List.mem_map_of_mem ((mem_upsert_iff _).mpr (Or.inl rfl))

/-- A completion that returns ESP_OK has asked the device for its composition. -/
theorem OwnRanges.complete {exchange : Exchange capacity} {stored : List NodeInfo}
    (ranges : OwnRanges exchange stored) {param : ProvCompleteParam}
    {answers : ProvCompleteAnswers} (owns : OwnsRange exchange (.provComplete param answers))
    {requests : List StackCall}
    (calls : (provComplete exchange.provisioner param answers).calls =
      .setNodeName param.nodeIdx ("NODE-" ++ toString param.nodeIdx.toNat) :: requests)
    (asks : Asks exchange.provisioner param answers requests) :
    ∃ nextStored, OwnRanges (exchange.complete param answers) nextStored ∧
      ((provComplete exchange.provisioner param answers).returned = espOk →
        answers.configClientGetState = 0 ∧
          requests = [compositionGet exchange.provisioner.provKey param.node]) := by
  have completes : ∀ {nextStored},
      (provComplete exchange.provisioner param answers).after.nodes.Hold nextStored →
      Sound (exchange.complete param answers) nextStored := ranges.toSound.complete calls asks
  cases asks with
  | nothing failed =>
      rcases hold_of_provComplete ranges.hold param answers with hold | ⟨isUnicast, hold⟩
      · have known : ∀ device ∈ (exchange.complete param answers).awaiting,
            device ∈ stored.map NodeInfo.device := by
          intro device member
          rcases awaiting_of_complete member with ⟨before, _⟩ | ⟨_, returned⟩
          · exact ranges.known device before
          · exact absurd returned failed
        exact ⟨stored, ⟨completes hold, ranges.isUnicast, ranges.elements, ranges.apart, known⟩,
          fun returned => absurd returned failed⟩
      · exact ⟨_, ranges.stores owns isUnicast (completes hold),
          fun returned => absurd returned failed⟩
  | composition stores after found returned =>
      have held := store_of_ok ranges.hold stores
      have next := ranges.stores owns held.1 (completes (after ▸ held.2))
      have foundOwn := next.getNodeInfo ((mem_upsert_iff param.node).mpr (Or.inl rfl))
      have sameNodes : (exchange.complete param answers).provisioner.nodes = _ := after
      rw [sameNodes] at foundOwn
      have same := Option.some_inj.mp (found.symm.trans foundOwn)
      exact ⟨_, next, fun ok => ⟨returned.mp ok, by rw [same]⟩⟩

theorem ownRanges_of_step {exchange next : Exchange capacity} {event : ExchangeEvent}
    (ranges : ∃ stored, OwnRanges exchange stored) (owns : OwnsRange exchange event)
    (happens : exchangeStep exchange event = some next) :
    ∃ stored, OwnRanges next stored := by
  rcases ranges with ⟨stored, ranges⟩
  cases event with
  | provComplete param answers =>
      cases happens
      rcases provComplete_calls exchange.provisioner param answers with ⟨requests, calls, asks⟩
      rcases ranges.complete owns calls asks with ⟨nextStored, rangesNext, _⟩
      exact ⟨nextStored, rangesNext⟩
  | addLocalAppKeyComp errCode appIdx =>
      cases happens
      exact ⟨stored, ranges.toSound.addLocalAppKeyComp errCode appIdx, ranges.isUnicast,
        ranges.elements, ranges.apart, ranges.known⟩
  | report position report =>
      rcases sound_of_report ranges.toSound happens with ⟨sound, _⟩
      rcases reported_of_step happens with ⟨request, handled, _, _, _, rfl⟩
      refine ⟨stored, sound, ranges.isUnicast, ranges.elements, ranges.apart, ?_⟩
      intro device member
      dsimp only at member
      split at member
      · exact ranges.known device (List.mem_of_mem_filter member)
      · exact ranges.known device member
  | publish param malloc =>
      rcases sound_of_publish ranges.toSound happens with ⟨sound, _, awaiting⟩
      exact ⟨stored, sound, ranges.isUnicast, ranges.elements, ranges.apart,
        awaiting ▸ ranges.known⟩

/-! ## What is lost -/

/-- A request to each device that has yet to answer is in flight. -/
def NoneLost (exchange : Exchange capacity) : Prop :=
  ∀ device ∈ exchange.awaiting,
    ∃ request ∈ exchange.inFlight, request.common.addr = device.unicast

/-- A report on the last request to a device that has yet to answer is no error, and if it
is a timeout the stack accepts the next request. -/
def KeepsRequests (exchange : Exchange capacity) : ExchangeEvent → Prop
  | .report position report =>
      ∀ request, exchange.inFlight[position]? = some request →
        (∃ device ∈ exchange.awaiting, device.unicast = request.common.addr) →
        (∀ other another, other ≠ position → exchange.inFlight[other]? = some another →
          another.common.addr ≠ request.common.addr) →
        report.errorCode = 0 ∧ (report.timedOut = true → report.accepted = true)
  | _ => True

theorem noneLost_complete {exchange : Exchange capacity} {stored : List NodeInfo}
    (ranges : OwnRanges exchange stored) (noneLost : NoneLost exchange)
    {param : ProvCompleteParam} {answers : ProvCompleteAnswers}
    (owns : OwnsRange exchange (.provComplete param answers)) :
    NoneLost (exchange.complete param answers) := by
  rcases provComplete_calls exchange.provisioner param answers with ⟨requests, calls, asks⟩
  rcases ranges.complete owns calls asks with ⟨_, _, asked⟩
  intro device member
  rw [complete_inFlight calls]
  rcases awaiting_of_complete member with ⟨before, _⟩ | ⟨rfl, returned⟩
  · rcases noneLost device before with ⟨request, flying, addr⟩
    exact ⟨request, List.mem_append_left _ flying, addr⟩
  · rcases asked returned with ⟨accepted, rfl⟩
    let request : Request := {
      answered := .getState
      common := exampleBleMeshSetMsgCommon exchange.provisioner.provKey param.node
        .compositionDataGet }
    refine ⟨request, List.mem_append_right _ ?_, rfl⟩
    rw [accepted, acceptedRequests, if_pos (beq_self_eq_true 0)]
    exact List.mem_singleton.mpr rfl

/-- What is left in flight after a report. -/
theorem flies_of_report {exchange : Exchange capacity} {position : Nat} {request : Request}
    {later : List Request} :
    request ∈ exchange.inFlight.eraseIdx position ++ later ↔
      (∃ other, other ≠ position ∧ exchange.inFlight[other]? = some request) ∨
        request ∈ later := by
  rw [List.mem_append, List.mem_eraseIdx_iff_getElem?]

/-- A request that is neither answered nor repeated is gone. -/
theorem keepsRequests_of_noneLost {exchange next : Exchange capacity} {stored : List NodeInfo}
    (sound : Sound exchange stored) {position : Nat} {report : Report}
    (happens : exchangeStep exchange (.report position report) = some next)
    (noneLost : NoneLost next) : KeepsRequests exchange (.report position report) := by
  rcases reported_of_step happens with ⟨request, ⟨after, calls⟩, present, handled, _, rfl⟩
  have asked := sound.compositions request (List.mem_of_getElem? present)
  have sent := handle_of_compositionGet asked.1 asked.2 handled
  intro requested held awaited last
  cases present.symm.trans held
  rcases awaited with ⟨device, member, addr⟩
  by_contra stopped
  have noAnswer : report.isAnswer = false := by
    by_contra answer
    simp only [Report.isAnswer, Bool.not_eq_false, Bool.and_eq_true, Bool.not_eq_true',
      beq_iff_eq] at answer
    refine stopped ⟨answer.2, ?_⟩
    intro timedOut
    rw [answer.1] at timedOut
    cases timedOut
  have nothing : acceptedRequests report.accepted calls = [] := by
    rw [sent, acceptedRequests]
    split
    next accepted =>
      have notRepeated : ¬ (report.timedOut = true ∧ report.errorCode = 0) :=
        fun repeats => stopped ⟨repeats.2, fun _ => accepted⟩
      rw [if_neg notRepeated]
      rfl
    · rfl
  rcases noneLost device (by simpa [noAnswer] using member) with ⟨another, flies, sameAddr⟩
  rw [flies_of_report, nothing] at flies
  rcases flies with ⟨other, different, elsewhere⟩ | none
  · exact last other another different elsewhere (sameAddr.trans addr)
  · cases none

/-- The request that is sent after a timeout goes to the device that is awaited. -/
theorem repeats_of_timeout {exchange : Exchange capacity} {stored : List NodeInfo}
    (ranges : OwnRanges exchange stored) {request : Request} {report : Report}
    {after : ProvisionerState capacity} {calls : List StackCall}
    (asked : request.answered = .getState ∧ request.common.opcode = .compositionDataGet)
    (handled : report.handle exchange.provisioner request = some (after, calls))
    {device : Device} (member : device ∈ exchange.awaiting)
    (own : request.common.addr = device.unicast) (timedOut : report.timedOut = true)
    (noError : report.errorCode = 0) (accepted : report.accepted = true) :
    ∃ again ∈ acceptedRequests report.accepted calls, again.common.addr = device.unicast := by
  rcases List.mem_map.mp (ranges.known device member) with ⟨node, nodeMember, rfl⟩
  have found := ranges.getNodeInfo nodeMember
  have lookup : exampleBleMeshGetNodeInfo exchange.provisioner.nodes request.common.addr =
      some node := by
    rw [own]
    exact found
  let again : Request := {
    answered := .getState
    common := exampleBleMeshSetMsgCommon exchange.provisioner.provKey node .compositionDataGet }
  refine ⟨again, ?_, rfl⟩
  rw [handle_of_compositionGet asked.1 asked.2 handled, if_pos ⟨timedOut, noError⟩, lookup,
    accepted]
  exact List.mem_singleton.mpr rfl

theorem noneLost_of_keepsRequests {exchange next : Exchange capacity} {stored : List NodeInfo}
    (ranges : OwnRanges exchange stored) (noneLost : NoneLost exchange) {position : Nat}
    {report : Report} (happens : exchangeStep exchange (.report position report) = some next)
    (keeps : KeepsRequests exchange (.report position report)) : NoneLost next := by
  rcases reported_of_step happens with ⟨request, ⟨after, calls⟩, present, handled, _, rfl⟩
  have asked := ranges.compositions request (List.mem_of_getElem? present)
  intro device member
  have before : device ∈ exchange.awaiting ∧
      (report.isAnswer = true → device.unicast ≠ request.common.addr) := by
    dsimp only at member
    split at member
    · rcases List.mem_filter.mp member with ⟨member, elsewhere⟩
      exact ⟨member, fun _ => bne_iff_ne.mp elsewhere⟩
    next noAnswer => exact ⟨member, fun answer => absurd answer noAnswer⟩
  by_cases elsewhere : ∃ other another, other ≠ position ∧
      exchange.inFlight[other]? = some another ∧ another.common.addr = device.unicast
  · rcases elsewhere with ⟨other, another, different, flying, addr⟩
    exact ⟨another, flies_of_report.mpr (Or.inl ⟨other, different, flying⟩), addr⟩
  · have own : request.common.addr = device.unicast := by
      rcases noneLost device before.1 with ⟨another, flying, addr⟩
      rcases List.getElem?_of_mem flying with ⟨other, held⟩
      by_cases here : other = position
      · rw [here, present] at held
        cases held
        exact addr
      · exact absurd ⟨other, another, here, held, addr⟩ elsewhere
    have last : ∀ other another, other ≠ position →
        exchange.inFlight[other]? = some another →
        another.common.addr ≠ request.common.addr := by
      intro other another different flying addr
      exact elsewhere ⟨other, another, different, flying, addr.trans own⟩
    have goesOn := keeps request present ⟨device, before.1, own.symm⟩ last
    have timedOut : report.timedOut = true := by
      by_contra answered
      have answer : report.isAnswer = true := by
        rw [Report.isAnswer, Bool.eq_false_iff.mpr answered, goesOn.1]
        rfl
      exact before.2 answer own.symm
    rcases repeats_of_timeout ranges asked handled before.1 own timedOut goesOn.1
      (goesOn.2 timedOut) with ⟨again, sent, addr⟩
    exact ⟨again, flies_of_report.mpr (Or.inr sent), addr⟩

/-- A step from a state in which no request is lost. -/
theorem noneLost_next_iff {exchange next : Exchange capacity} {event : ExchangeEvent}
    (ranges : ∃ stored, OwnRanges exchange stored) (noneLost : NoneLost exchange)
    (owns : OwnsRange exchange event) (happens : exchangeStep exchange event = some next) :
    NoneLost next ↔ KeepsRequests exchange event := by
  rcases ranges with ⟨stored, ranges⟩
  cases event with
  | provComplete param answers =>
      cases happens
      exact iff_of_true (noneLost_complete ranges noneLost owns) trivial
  | addLocalAppKeyComp errCode appIdx =>
      cases happens
      exact iff_of_true noneLost trivial
  | report position report =>
      exact ⟨keepsRequests_of_noneLost ranges.toSound happens,
        noneLost_of_keepsRequests ranges noneLost happens⟩
  | publish param malloc =>
      rcases Option.map_eq_some_iff.mp happens with ⟨handled, _, rfl⟩
      refine iff_of_true ?_ trivial
      intro device member
      rcases noneLost device member with ⟨request, flying, addr⟩
      exact ⟨request, List.mem_append_left _ flying, addr⟩

/-- Along every run in which the stack gives each device its own range of addresses, a
request to each device that has yet to answer is in flight in every state, exactly if no
error is reported on the last request to such a device and the stack accepts the request
that follows its timeout. -/
theorem noneLost_throughout_iff (events : List ExchangeEvent)
    (owns : ∀ performed ∈ taken exchangeStep (Exchange.initial : Exchange capacity) events,
      OwnsRange performed.1 performed.2) :
    (∀ exchange ∈ visited exchangeStep (Exchange.initial : Exchange capacity) events,
        NoneLost exchange) ↔
      ∀ performed ∈ taken exchangeStep (Exchange.initial : Exchange capacity) events,
        KeepsRequests performed.1 performed.2 := by
  refine forall_visited_iff_of_assumed (fun exchange => ∃ stored, OwnRanges exchange stored)
    ?_ ?_ events ⟨[], ownRanges_initial⟩ ?_ owns
  · intro exchange event next ranges owns happens
    exact ownRanges_of_step ranges owns happens
  · intro exchange event next ranges noneLost owns happens
    exact noneLost_next_iff ranges noneLost owns happens
  · intro device member
    cases member

/-- Two devices with two elements each are provisioned, and the request to the second times
out once. -/
def secondAskedAgain : List ExchangeEvent :=
  [.provComplete { nodeIdx := 0, uuid := 1, unicast := 5, elemNum := 2 }
      { allocated := true, setNodeName := 0, configClientGetState := 0 },
    .provComplete { nodeIdx := 1, uuid := 2, unicast := 7, elemNum := 2 }
      { allocated := true, setNodeName := 0, configClientGetState := 0 },
    .report 1 {
      timedOut := true
      errorCode := 0
      compositionData := { len := 0, data := fun _ => 0 }
      malloc := fun _ => true
      accepted := true }]

theorem noneLost_throughout_asked_again :
    (∀ exchange ∈ visited exchangeStep (Exchange.initial : Exchange 2) secondAskedAgain,
        NoneLost exchange) ↔
      ∀ performed ∈ taken exchangeStep (Exchange.initial : Exchange 2) secondAskedAgain,
        KeepsRequests performed.1 performed.2 :=
  noneLost_throughout_iff secondAskedAgain (by decide)

end BleMesh.Provisioner
