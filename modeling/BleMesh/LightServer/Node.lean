import BleMesh.Initializer.Startup
import BleMesh.Lightness.Server
import BleMesh.OnOff.Node

/-! # The node of the light server

Start-up, the handlers of events and the servers behind them in one system. The array of
callbacks stands between the stack and the servers. Each server runs as if it were alone
with the events that are for it, or does not run at all.
-/

namespace BleMesh.LightServer

open Foundation.Execution Initializer

/-! ## Models and events -/

/-- The models of the composition that get lighting events. -/
inductive LightingModel
  | lightnessSetup
  | lightness
  | ctlSetup
  | ctl
  | hslSetup
  | hsl
  | hslHue
  | hslSat
  deriving DecidableEq

def LightingModel.modelId : LightingModel → UInt16
  | .lightnessSetup => modelIdLightLightnessSetupSrv
  | .lightness => modelIdLightLightnessSrv
  | .ctlSetup => modelIdLightCtlSetupSrv
  | .ctl => modelIdLightCtlSrv
  | .hslSetup => modelIdLightHslSetupSrv
  | .hsl => modelIdLightHslSrv
  | .hslHue => modelIdLightHslHueSrv
  | .hslSat => modelIdLightHslSatSrv

def LightingModel.element : LightingModel → Nat
  | .lightnessSetup | .lightness | .ctlSetup | .ctl => 1
  | .hslSetup | .hsl | .hslHue | .hslSat => 2

/-- The models of the composition. -/
inductive LightModel
  | config
  | onoff
  | level
  | lighting (model : LightingModel)
  deriving DecidableEq

def LightModel.modelId : LightModel → UInt16
  | .config => modelIdConfigSrv
  | .onoff => modelIdGenOnoffSrv
  | .level => modelIdGenLevelSrv
  | .lighting model => model.modelId

def LightModel.element : LightModel → Nat
  | .config => 0
  | .onoff => 1
  | .level => 1
  | .lighting model => model.element

/-- The model as a publish update has it. -/
def LightModel.publishing (model : LightModel) : PublishingModel LightCallback LightData where
  modelId := model.modelId
  vndModelId := 0
  userData := none

/-- `esp_ble_mesh_generic_server_cb_param_t` with its event. The callback of the level
model reads nothing but the event. -/
inductive GenericParam
  | onoff (param : OnOff.OnoffParam)
  | level (event : OnOff.ServerEvent)

def GenericParam.model : GenericParam → LightModel
  | .onoff _ => .onoff
  | .level _ => .level

def GenericParam.event : GenericParam → OnOff.ServerEvent
  | .onoff param => param.event
  | .level event => event

/-- `esp_ble_mesh_lighting_server_cb_event_t`. -/
inductive LightingServerEvent
  | stateChange
  | recvGetMsg
  | recvSetMsg
  | recvStatusMsg
  | other
  deriving DecidableEq

/-- `esp_ble_mesh_lighting_server_cb_param_t` with its event. -/
structure LightingParam where
  model : LightingModel
  event : LightingServerEvent
  stateChange : Lightness.StateChange

/-- The numbers of the events. -/
def genericEventNumber : OnOff.ServerEvent → Nat
  | .stateChange => 0
  | .recvGetMsg => 1
  | .recvSetMsg => 2
  | .other => 3

def lightingEventNumber : LightingServerEvent → Nat
  | .stateChange => 0
  | .recvGetMsg => 1
  | .recvSetMsg => 2
  | .recvStatusMsg => 3
  | .other => 4

def GenericParam.call (param : GenericParam) : ServerCall where
  event := genericEventNumber param.event
  element := param.model.element
  modelId := param.model.modelId

def LightingParam.call (param : LightingParam) : ServerCall where
  event := lightingEventNumber param.event
  element := param.model.element
  modelId := param.model.modelId

/-- What happens to the node after start-up. -/
inductive LightEvent
  | generic (time : Nat) (param : GenericParam)
  | lighting (param : LightingParam)
  | publishUpdate (time : Nat) (model : LightModel)
  | expire (time : Nat)

/-! ## The node -/

/-- The handlers with their array, and the two servers that do something: the Generic OnOff
server, and the record of the Light Lightness server with its calls to the stack. -/
structure LightNode where
  served : Served LightCallback LightData
  onoff : OnOff.World
  lightness : Lightness.Outcome

/-- What `BLE_mesh_light_lightness_server_initialize` leaves. -/
def LightNode.startUp (memory : Fin 10 → Memory) (publishAddr : UInt16) : Option LightNode :=
  (run initializerStep (Served.initial lightElements)
    ((bleMeshLightLightnessServerInitialize memory).map .register)).map fun served =>
      { served
        onoff := OnOff.World.initial publishAddr
        lightness := { states := Lightness.LightnessState.initial, calls := [] } }

/-- The calls of the Light Lightness server on a state change come after the earlier
ones. -/
def answer (conversions : Lightness.Conversions) (stack : Lightness.Stack)
    (lightness : Lightness.Outcome) (param : Lightness.StateChange) : Lightness.Outcome :=
  let outcome := Lightness.lightLightnessModelServerStateChangeEventProcessor conversions stack
    lightness.states param
  { states := outcome.states, calls := lightness.calls ++ outcome.calls }

namespace LightNode

def userData (node : LightNode) (model : LightModel) : Option LightData :=
  node.served.session.registry.userData model.element model.modelId

/-- A call through `sig_generic_model_cb`. The OnOff server is what the user data of the
model points to. A callback for another type of parameter is never to be called so. -/
def genericCallback (time : Nat) (param : GenericParam) (node : LightNode) :
    LightCallback → Option LightNode
  | .genericOnOffModelCallback =>
      match param, node.userData param.model with
      | .onoff param, some .genericOnoffServerUserData =>
          some { node with
            onoff := OnOff.bleMeshLightServerGenericOnOffModelCallback
              { node.onoff with now := time } param.event param.ctx param.value }
      | _, _ => none
  | .genericLevelModelCallback => some node
  | _ => none

/-- Other events than a state change are only logged. -/
def bleMeshLightServerLightnessServerCallback (conversions : Lightness.Conversions)
    (stack : Lightness.Stack) (node : LightNode) (param : LightingParam) : LightNode :=
  match param.event with
  | .stateChange =>
      { node with lightness := answer conversions stack node.lightness param.stateChange }
  | .recvGetMsg => node
  | .recvSetMsg => node
  | .recvStatusMsg => node
  | .other => node

/-- A call through `sig_lighting_model_cb`. -/
def lightingCallback (conversions : Lightness.Conversions) (stack : Lightness.Stack)
    (param : LightingParam) (node : LightNode) : LightCallback → Option LightNode
  | .lightnessServerCallback =>
      some (bleMeshLightServerLightnessServerCallback conversions stack node param)
  | .lightnessModelSetupServerCallback => some node
  | .hslModelSetupServerCallback => some node
  | .hslServerCallback => some node
  | .hslHueServerCallback => some node
  | .hslSaturationServerCallback => some node
  | .ctlModelSetupServerCallback => some node
  | .ctlLightnessServerCallback => some node
  | .genericOnOffModelCallback => none
  | .genericOnOffServerPublicationCallback => none
  | .genericLevelModelCallback => none

/-- A call through `model_publication_cb`. -/
def publicationCallback (time : Nat) (model : LightModel) (node : LightNode) :
    LightCallback → Option LightNode
  | .genericOnOffServerPublicationCallback =>
      match node.userData model with
      | some .genericOnoffServerUserData =>
          some { node with
            onoff := OnOff.bleMeshLightServertGenericOnOffServerPublicationCallback
              { node.onoff with now := time } }
      | _ => none
  | _ => none

end LightNode

namespace LightNode

/-- The handlers of `BLE_mesh_initializer.c`, which do not get past an unsafe access. -/
def handle (node : LightNode) (event : StackEvent LightCallback LightData) :
    Option LightNode :=
  (haltingStep node.served event.toInitializerEvent).map fun served => { node with served }

/-- The model callbacks that have been called since. -/
def calledSince (node before : LightNode) : List LightCallback :=
  (node.served.session.registry.invoked.drop
    before.served.session.registry.invoked.length).map Prod.fst

def publishedSince (node before : LightNode) : List LightCallback :=
  (node.served.published.drop before.served.published.length).map Publication.callback

end LightNode

def lightNodeStep (conversions : Lightness.Conversions) (stack : Lightness.Stack)
    (node : LightNode) : LightEvent → Option LightNode
  | .generic time param =>
      (node.handle (.generic param.call)).bind fun handled =>
        (handled.calledSince node).foldlM (LightNode.genericCallback time param) handled
  | .lighting param =>
      (node.handle (.lighting param.call)).bind fun handled =>
        (handled.calledSince node).foldlM
          (LightNode.lightingCallback conversions stack param) handled
  | .publishUpdate time model =>
      (node.handle (.publishUpdate model.publishing)).bind fun handled =>
        (handled.publishedSince node).foldlM
          (LightNode.publicationCallback time model) handled
  | .expire time =>
      (OnOff.serverStep node.onoff (.expire time)).map fun onoff => { node with onoff }

/-! ## The servers by themselves -/

structure Servers where
  onoff : OnOff.World
  lightness : Lightness.Outcome

def Servers.initial (publishAddr : UInt16) : Servers where
  onoff := OnOff.World.initial publishAddr
  lightness := { states := Lightness.LightnessState.initial, calls := [] }

inductive ServersEvent
  | onoff (event : OnOff.NodeEvent)
  | lightness (param : Lightness.StateChange)
  | readNull

/-- Each server takes its own events, and nothing comes after a read through NULL. -/
def serversStep (conversions : Lightness.Conversions) (stack : Lightness.Stack)
    (servers : Servers) : ServersEvent → Option Servers
  | .onoff event => (OnOff.nodeStep servers.onoff event).map fun onoff => { servers with onoff }
  | .lightness param =>
      some { servers with lightness := answer conversions stack servers.lightness param }
  | .readNull => none

/-- The registration for the model was given memory. -/
def Registered (memory : Fin 10 → Memory) (model : LightModel) : Prop :=
  model.modelId ∈ (lightStored memory).map Registration.modelId

instance (memory : Fin 10 → Memory) (model : LightModel) : Decidable (Registered memory model) :=
  inferInstanceAs (Decidable (_ ∈ _))

/-- What an event is for the servers, given which registrations were given memory. -/
def LightEvent.forServers (memory : Fin 10 → Memory) : LightEvent → List ServersEvent
  | .generic time (.onoff param) =>
      if Registered memory .onoff then [.onoff (.deliver time param)] else []
  | .generic _ (.level _) => []
  | .lighting param =>
      if Registered memory (.lighting param.model) ∧ param.model = .lightness ∧
          param.event = .stateChange then
        [.lightness param.stateChange]
      else []
  | .publishUpdate time model =>
      if Registered memory model then
        if model = .onoff then [.onoff (.publishUpdate time)] else []
      else if (lightStored memory).length = userArgsCount then []
      else [.readNull]
  | .expire time => [.onoff (.expire time)]

def LightNode.servers (node : LightNode) : Servers where
  onoff := node.onoff
  lightness := node.lightness

/-! ## The registrations -/

variable {memory : Fin 10 → Memory}

theorem mem_lightRegistrations {registration : Registration LightCallback LightData}
    (member : registration ∈ lightStored memory) : registration ∈ lightRegistrations := by
  rw [← registrations_of_startup memory]
  exact (List.filter_sublist.map _).subset member

theorem registrationFor_of_registered {model : LightModel} (registered : Registered memory model) :
    ∃ registration ∈ lightStored memory,
      registrationFor (lightStored memory) model.modelId = some registration ∧
        registration.modelId = model.modelId := by
  cases found : registrationFor (lightStored memory) model.modelId with
  | none =>
      rcases List.mem_map.mp registered with ⟨registration, member, same⟩
      have differs := List.find?_eq_none.mp found registration member
      exact absurd (beq_iff_eq.mpr same) differs
  | some registration =>
      have same := List.find?_some found
      exact ⟨registration, List.mem_of_find?_eq_some found, rfl, beq_iff_eq.mp same⟩

theorem registrationFor_of_not_registered {model : LightModel}
    (unregistered : ¬ Registered memory model) :
    registrationFor (lightStored memory) model.modelId = none := by
  apply List.find?_eq_none.mpr
  intro registration member same
  apply unregistered
  rw [Registered, ← beq_iff_eq.mp same]
  exact List.mem_map_of_mem member

/-- The callbacks registered for lighting events. -/
def LightingModel.callback : LightingModel → LightCallback
  | .lightnessSetup => .lightnessModelSetupServerCallback
  | .lightness => .lightnessServerCallback
  | .ctlSetup => .ctlModelSetupServerCallback
  | .ctl => .ctlLightnessServerCallback
  | .hslSetup => .hslModelSetupServerCallback
  | .hsl => .hslServerCallback
  | .hslHue => .hslHueServerCallback
  | .hslSat => .hslSaturationServerCallback

theorem onoff_registration : ∀ registration ∈ lightRegistrations,
    registration.modelId = LightModel.onoff.modelId →
      registration.modelCallback = .genericOnOffModelCallback ∧
      registration.modelUserData.modelPublicationCb =
        some .genericOnOffServerPublicationCallback ∧
      registration.isFor 1 LightModel.onoff.modelId = true ∧
      registration.args = some .genericOnoffServerUserData := by decide

theorem level_registration : ∀ registration ∈ lightRegistrations,
    registration.modelId = LightModel.level.modelId →
      registration.modelCallback = .genericLevelModelCallback := by decide

theorem lighting_registration (model : LightingModel) :
    ∀ registration ∈ lightRegistrations, registration.modelId = model.modelId →
      registration.modelCallback = model.callback := by
  cases model <;> decide

/-- Only the OnOff model publishes something of its own. -/
theorem publication_registration {model : LightModel} (other : model ≠ .onoff) :
    ∀ registration ∈ lightRegistrations, registration.modelId = model.modelId →
      registration.modelUserData.modelPublicationCb = none := by
  cases model with
  | config => decide
  | onoff => exact absurd rfl other
  | level => decide
  | lighting model => cases model <;> decide

/-! ## One event -/

/-- What stays as start-up has left it. -/
structure Dispatching (memory : Fin 10 → Memory) (node : LightNode) : Prop where
  filled : node.served.session.registry.userArgs.FilledBy
    ((lightStored memory).map Registration.modelUserData)
  safe : node.served.session.registry.AccessedSafely
  userData : Registered memory .onoff → node.userData .onoff = some .genericOnoffServerUserData

theorem dispatching_startUp (memory : Fin 10 → Memory) (publishAddr : UInt16) :
    ∃ node, LightNode.startUp memory publishAddr = some node ∧ Dispatching memory node ∧
      node.servers = Servers.initial publishAddr := by
  rcases startedWith_lightStored memory with ⟨started, starts, startedWith, stay⟩
  refine ⟨_, by rw [LightNode.startUp, starts]; rfl, ?_, rfl⟩
  constructor
  · exact startedWith.filled
  · exact (accessedSafely_throughout_iff _ _).mpr stay started (mem_visited_of_run starts)
  · intro registered
    rcases registrationFor_of_registered registered with ⟨registration, member, _, same⟩
    have known := onoff_registration registration (mem_lightRegistrations member) same
    have data := startedWith.userData 1 LightModel.onoff.modelId
    cases found : (lightStored memory).find? fun registration =>
        registration.isFor 1 LightModel.onoff.modelId with
    | none => exact absurd known.2.2.1 (List.find?_eq_none.mp found registration member)
    | some first =>
        have firstMember := mem_lightRegistrations (List.mem_of_find?_eq_some found)
        have isFor := List.find?_some found
        have firstSame := modelId_of_isFor isFor
        rw [found] at data
        exact data.trans (onoff_registration first firstMember firstSame).2.2.2

/-- What the handlers make of an event. -/
structure Handled (memory : Fin 10 → Memory) (node : LightNode)
    (event : StackEvent LightCallback LightData) (handled : LightNode) : Prop where
  dispatching : Dispatching memory handled
  servers : handled.servers = node.servers
  called : handled.calledSince node = (event.calls (lightStored memory)).map Prod.fst
  published : handled.publishedSince node =
    (event.publications (lightStored memory)).map Publication.callback

theorem Dispatching.handle {node : LightNode} (dispatching : Dispatching memory node)
    (event : StackEvent LightCallback LightData) (stays : event.StaysWith (lightStored memory)) :
    ∃ handled, node.handle event = some handled ∧ Handled memory node event handled := by
  have happens : ∃ served, initializerStep node.served event.toInitializerEvent = some served := by
    cases event <;> exact ⟨_, rfl⟩
  rcases happens with ⟨served, happens⟩
  have serves := serves_of_step dispatching.filled (distinct_lightStored memory) happens
  have stays := (staysInTable_iff_staysWith dispatching.filled event).mpr stays
  have safe : served.session.registry.AccessedSafely :=
    (accessedSafely_next_iff ⟨_, dispatching.filled⟩ dispatching.safe happens).mpr stays
  refine ⟨{ node with served }, ?_, ?_⟩
  · rw [LightNode.handle, haltingStep, halting, happens, Option.bind_some, if_pos safe]
    rfl
  · constructor
    · constructor
      · exact serves.userArgs ▸ dispatching.filled
      · exact safe
      · intro registered
        have data := dispatching.userData registered
        simp only [LightNode.userData, Registry.userData] at data ⊢
        rw [serves.elements]
        exact data
    · rfl
    · rw [LightNode.calledSince, serves.invoked, List.drop_left]
    · rw [LightNode.publishedSince, serves.published, List.drop_left]

theorem Dispatching.handle_of_not_stays {node : LightNode} (dispatching : Dispatching memory node)
    {event : StackEvent LightCallback LightData}
    (strays : ¬ event.StaysWith (lightStored memory)) : node.handle event = none := by
  rw [LightNode.handle, haltingStep, halting]
  cases happens : initializerStep node.served event.toInitializerEvent with
  | none => rfl
  | some served =>
      have strays := mt (staysInTable_iff_staysWith dispatching.filled event).mp strays
      have unsafely : ¬ served.session.registry.AccessedSafely :=
        mt (accessedSafely_next_iff ⟨_, dispatching.filled⟩ dispatching.safe happens).mp strays
      rw [Option.bind_some, if_neg unsafely, Option.map_none]

/-! ## The refinement -/

variable {node : LightNode} (conversions : Lightness.Conversions) (stack : Lightness.Stack)

/-- A generic event runs the callback of its model, if the registration was given memory. -/
theorem simulates_generic (dispatching : Dispatching memory node) (time : Nat)
    (param : GenericParam) :
    (lightNodeStep conversions stack node (.generic time param)).map LightNode.servers =
      run (serversStep conversions stack) node.servers
        ((LightEvent.generic time param).forServers memory) := by
  rcases dispatching.handle (.generic param.call) trivial with ⟨handled, happens, effect⟩
  have called := effect.called
  rw [StackEvent.calls] at called
  rw [lightNodeStep, happens, Option.bind_some, called]
  have servers := effect.servers
  by_cases registered : Registered memory param.model
  · rcases registrationFor_of_registered registered with ⟨registration, member, found, same⟩
    have listed := mem_lightRegistrations member
    have foundCall : registrationFor (lightStored memory) param.call.modelId =
        some registration := found
    rw [foundCall]
    cases param with
    | onoff param =>
        have callback := (onoff_registration registration listed same).1
        have data := effect.dispatching.userData registered
        have forServer : (LightEvent.generic time (.onoff param)).forServers memory =
            [.onoff (.deliver time param)] := if_pos registered
        have onoff : handled.onoff = node.onoff := congrArg Servers.onoff servers
        have lightness : handled.lightness = node.lightness := congrArg Servers.lightness servers
        rw [forServer]
        simp [callback, LightNode.genericCallback, GenericParam.model, data, run, serversStep,
          OnOff.nodeStep, LightNode.servers, onoff, lightness]
    | level event =>
        have callback := level_registration registration listed same
        simp [callback, LightNode.genericCallback, LightEvent.forServers, servers]
  · have absent : registrationFor (lightStored memory) param.call.modelId = none :=
      registrationFor_of_not_registered registered
    rw [absent]
    cases param with
    | onoff param =>
        have notForServer : (LightEvent.generic time (.onoff param)).forServers memory = [] :=
          if_neg registered
        simp [notForServer, servers]
    | level event => simp [LightEvent.forServers, servers]

/-- Of the callbacks of lighting events one does something, and only on a state change. -/
theorem lightingCallback_servers (node : LightNode) (param : LightingParam) :
    (LightNode.lightingCallback conversions stack param node param.model.callback).map
        LightNode.servers =
      run (serversStep conversions stack) node.servers
        (if param.model = .lightness ∧ param.event = .stateChange then
          [.lightness param.stateChange]
        else []) := by
  rcases param with ⟨model, event, stateChange⟩
  cases model with
  | lightness => cases event <;> rfl
  | _ => rfl

theorem simulates_lighting (dispatching : Dispatching memory node) (param : LightingParam) :
    (lightNodeStep conversions stack node (.lighting param)).map LightNode.servers =
      run (serversStep conversions stack) node.servers
        ((LightEvent.lighting param).forServers memory) := by
  rcases dispatching.handle (.lighting param.call) trivial with ⟨handled, happens, effect⟩
  have called := effect.called
  rw [StackEvent.calls] at called
  rw [lightNodeStep, happens, Option.bind_some, called, LightEvent.forServers]
  by_cases registered : Registered memory (.lighting param.model)
  · rcases registrationFor_of_registered registered with ⟨registration, member, found, same⟩
    have callback := lighting_registration param.model registration
      (mem_lightRegistrations member) same
    have foundCall : registrationFor (lightStored memory) param.call.modelId =
        some registration := found
    have acts := lightingCallback_servers conversions stack handled param
    rw [effect.servers] at acts
    rw [foundCall]
    simpa [callback, registered] using acts
  · have absent : registrationFor (lightStored memory) param.call.modelId = none :=
      registrationFor_of_not_registered registered
    rw [absent]
    simp [registered, effect.servers]

theorem isSig_publishing (model : LightModel) : model.publishing.isSig = true := by
  cases model with
  | lighting model => cases model <;> decide
  | _ => decide

theorem simulates_publishUpdate (dispatching : Dispatching memory node) (time : Nat)
    (model : LightModel) :
    (lightNodeStep conversions stack node (.publishUpdate time model)).map LightNode.servers =
      run (serversStep conversions stack) node.servers
        ((LightEvent.publishUpdate time model).forServers memory) := by
  have stays : (StackEvent.publishUpdate model.publishing).StaysWith (lightStored memory) ↔
      Registered memory model ∨ (lightStored memory).length = userArgsCount :=
    forall_prop_of_true (isSig_publishing model)
  rw [lightNodeStep, LightEvent.forServers]
  by_cases registered : Registered memory model
  · rcases dispatching.handle _ (stays.mpr (Or.inl registered)) with ⟨handled, happens, effect⟩
    rcases registrationFor_of_registered registered with ⟨registration, member, found, same⟩
    have listed := mem_lightRegistrations member
    have published := effect.published
    have foundModel : registrationFor (lightStored memory) model.publishing.modelId =
        some registration := found
    rw [StackEvent.publications, if_pos (isSig_publishing model), foundModel] at published
    rw [happens, Option.bind_some, published, if_pos registered]
    by_cases isOnoff : model = .onoff
    · subst isOnoff
      have callback := (onoff_registration registration listed same).2.1
      have data := effect.dispatching.userData registered
      have servers := effect.servers
      have onoff : handled.onoff = node.onoff := congrArg Servers.onoff servers
      have lightness : handled.lightness = node.lightness := congrArg Servers.lightness servers
      simp [CustomModelUserData.publication, callback, LightNode.publicationCallback, data, run,
        serversStep, OnOff.nodeStep, LightNode.servers, onoff, lightness]
    · have callback := publication_registration isOnoff registration listed same
      simp [CustomModelUserData.publication, callback, isOnoff, effect.servers]
  · rw [if_neg registered]
    by_cases full : (lightStored memory).length = userArgsCount
    · rcases dispatching.handle _ (stays.mpr (Or.inr full)) with ⟨handled, happens, effect⟩
      have published := effect.published
      have absent : registrationFor (lightStored memory) model.publishing.modelId = none :=
        registrationFor_of_not_registered registered
      rw [StackEvent.publications, if_pos (isSig_publishing model), absent] at published
      rw [happens, Option.bind_some, published, if_pos full]
      simp [effect.servers]
    · have strays := dispatching.handle_of_not_stays (mt stays.mp (not_or.mpr ⟨registered, full⟩))
      rw [strays, if_neg full]
      rfl

theorem simulates (event : LightEvent) (dispatching : Dispatching memory node) :
    (lightNodeStep conversions stack node event).map LightNode.servers =
      run (serversStep conversions stack) node.servers (event.forServers memory) := by
  cases event with
  | generic time param => exact simulates_generic conversions stack dispatching time param
  | lighting param => exact simulates_lighting conversions stack dispatching param
  | publishUpdate time model =>
      exact simulates_publishUpdate conversions stack dispatching time model
  | expire time =>
      cases expired : OnOff.serverStep node.onoff (.expire time) <;>
        simp [lightNodeStep, LightEvent.forServers, run, serversStep, OnOff.nodeStep,
          LightNode.servers, expired]

/-! ## Runs -/

theorem Dispatching.congr {other : LightNode} (dispatching : Dispatching memory node)
    (same : other.served = node.served) : Dispatching memory other := by
  constructor
  · rw [same]
    exact dispatching.filled
  · rw [same]
    exact dispatching.safe
  · intro registered
    rw [LightNode.userData, same]
    exact dispatching.userData registered

theorem genericCallback_served {time : Nat} {param : GenericParam} {callback : LightCallback}
    {next : LightNode} (calls : LightNode.genericCallback time param node callback = some next) :
    next.served = node.served := by
  simp only [LightNode.genericCallback] at calls
  repeat' split at calls
  all_goals cases calls <;> rfl

theorem lightingCallback_served {param : LightingParam} {callback : LightCallback}
    {next : LightNode}
    (calls : LightNode.lightingCallback conversions stack param node callback = some next) :
    next.served = node.served := by
  cases callback <;> cases calls <;> try rfl
  simp only [LightNode.bleMeshLightServerLightnessServerCallback]
  split <;> rfl

theorem publicationCallback_served {time : Nat} {model : LightModel} {callback : LightCallback}
    {next : LightNode}
    (calls : LightNode.publicationCallback time model node callback = some next) :
    next.served = node.served := by
  simp only [LightNode.publicationCallback] at calls
  repeat' split at calls
  all_goals cases calls <;> rfl

/-- Callbacks leave the array alone. -/
theorem foldlM_served {call : LightNode → LightCallback → Option LightNode}
    (keeps : ∀ node callback next, call node callback = some next → next.served = node.served)
    {callbacks : List LightCallback} {final : LightNode}
    (calls : callbacks.foldlM call node = some final) : final.served = node.served := by
  induction callbacks generalizing node with
  | nil =>
      cases calls
      rfl
  | cons callback callbacks induction =>
      rw [List.foldlM_cons] at calls
      rcases Option.bind_eq_some_iff.mp calls with ⟨next, first, rest⟩
      exact (induction rest).trans (keeps node callback next first)

theorem Dispatching.of_handle {handled : LightNode} (dispatching : Dispatching memory node)
    {event : StackEvent LightCallback LightData} (happens : node.handle event = some handled) :
    Dispatching memory handled := by
  by_cases stays : event.StaysWith (lightStored memory)
  · rcases dispatching.handle event stays with ⟨same, found, effect⟩
    rw [happens, Option.some_inj] at found
    exact found ▸ effect.dispatching
  · rw [dispatching.handle_of_not_stays stays] at happens
    cases happens

theorem dispatching_of_step {event : LightEvent} {next : LightNode}
    (dispatching : Dispatching memory node)
    (happens : lightNodeStep conversions stack node event = some next) :
    Dispatching memory next := by
  cases event with
  | generic time param =>
      rw [lightNodeStep, Option.bind_eq_some_iff] at happens
      rcases happens with ⟨handled, handles, calls⟩
      apply (dispatching.of_handle handles).congr
      exact foldlM_served (fun _ _ _ => genericCallback_served) calls
  | lighting param =>
      rw [lightNodeStep, Option.bind_eq_some_iff] at happens
      rcases happens with ⟨handled, handles, calls⟩
      apply (dispatching.of_handle handles).congr
      exact foldlM_served (fun _ _ _ => lightingCallback_served conversions stack) calls
  | publishUpdate time model =>
      rw [lightNodeStep, Option.bind_eq_some_iff] at happens
      rcases happens with ⟨handled, handles, calls⟩
      apply (dispatching.of_handle handles).congr
      exact foldlM_served (fun _ _ _ => publicationCallback_served) calls
  | expire time =>
      rw [lightNodeStep, Option.map_eq_some_iff] at happens
      rcases happens with ⟨onoff, _, rfl⟩
      exact dispatching.congr rfl

/-- Whichever allocations of start-up were granted, and in whatever order the events for
the models come, each server is where its own events bring it, and the node gets stuck
exactly where a server does or a publish update reads through NULL. -/
theorem light_node_refines_servers (memory : Fin 10 → Memory) (publishAddr : UInt16)
    (events : List LightEvent) :
    ((LightNode.startUp memory publishAddr).bind fun node =>
        run (lightNodeStep conversions stack) node events).map LightNode.servers =
      run (serversStep conversions stack) (Servers.initial publishAddr)
        (events.flatMap (LightEvent.forServers memory)) := by
  rcases dispatching_startUp memory publishAddr with ⟨node, starts, dispatching, servers⟩
  rw [starts, Option.bind_some, ← servers]
  exact run_map_of_simulation LightNode.servers (LightEvent.forServers memory)
    (fun _ _ _ holds happens => dispatching_of_step conversions stack holds happens)
    (fun _ event holds => simulates conversions stack event holds) events dispatching

end BleMesh.LightServer
