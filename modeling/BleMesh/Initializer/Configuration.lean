import BleMesh.Initializer.Startup
import BleMesh.Initializer.VendorModels

/-! # Configuration of the node

`ble_mesh_config_server_cb` gives the message of a model whose publication is set the address
of an array of its own. The array is gone when the call returns, and the address stays.
-/

namespace BleMesh.Initializer

open Foundation.Execution

/-! ## Data -/

/-- Where the bytes of a message are: in the buffer that was defined with it, or in the local
array of one of the calls. -/
inductive MessageData
  | buffer
  | localArray (call : Nat)
  deriving DecidableEq

/-- The fields of `pub->msg` that the callback sets. -/
structure PublicationMessage where
  data : MessageData
  len : Nat
  deriving DecidableEq

/-- `esp_ble_mesh_model_t` with its publication, if it has one. -/
structure ConfiguredModel (Id : Type) where
  id : Id
  pub : Option PublicationMessage

structure ConfiguredElement where
  sigModels : List (ConfiguredModel UInt16)
  vndModels : List (ConfiguredModel VendorId)

/-- The two arrays of models that an element has. -/
inductive ModelArray
  | sigModels
  | vndModels
  deriving DecidableEq

/-- Where a model with its message is in the composition. -/
structure MessageRef where
  element : Nat
  array : ModelArray
  index : Nat
  deriving DecidableEq

/-- `param->ctx.recv_op` with the part of `param->value.state_change` that is not only
logged. -/
inductive CfgStateChange
  | appKeyAdd
  | modelAppBind
  | modelPubSet (elementAddr companyId modelId : UInt16)
  | modelSubAdd (elementAddr companyId modelId subAddr : UInt16)
  | modelSubDelete (elementAddr companyId modelId subAddr : UInt16)
  | other

/-- The calls of the stack. -/
inductive SubscriptionCall
  | subscribeGroupAddr (elementAddr companyId modelId groupAddr : UInt16)
  | unsubscribeGroupAddr (elementAddr companyId modelId groupAddr : UInt16)
  deriving DecidableEq

/-- The elements of the composition, how often the callback has been called and the calls it
has made. -/
structure ConfiguredNode where
  elements : List ConfiguredElement
  called : Nat
  calls : List SubscriptionCall

/-! ## The callback -/

/-- `esp_ble_mesh_find_element` of the stack: the position of the element that has an address.
The elements keep their addresses over a run. -/
abbrev FindElement := UInt16 → Option Nat

def espBleMeshCidNval : UInt16 := 0xFFFF

/-- The loops over the models of an element. The company of a vendor model does not
matter. -/
def ConfiguredElement.findModel (element : ConfiguredElement) (companyId modelId : UInt16) :
    Option (ModelArray × Nat) :=
  if espBleMeshCidNval = companyId then
    (element.sigModels.findIdx? fun model => model.id == modelId).map fun index =>
      (.sigModels, index)
  else
    (element.vndModels.findIdx? fun model => model.id.modelId == modelId).map fun index =>
      (.vndModels, index)

/-- The search for the element and in it. -/
def findModel (findElement : FindElement) (elements : List ConfiguredElement)
    (elementAddr companyId modelId : UInt16) : Option MessageRef :=
  (findElement elementAddr).bind fun index =>
    elements[index]?.bind fun element =>
      (element.findModel companyId modelId).map fun found =>
        { element := index, array := found.1, index := found.2 }

/-- An entry is written through a pointer that may be NULL. -/
def writeAt {Entry : Type} (entries : List Entry) (index : Nat) (write : Entry → Option Entry) :
    Option (List Entry) :=
  (entries[index]?.bind write).map fun entry => entries.set index entry

/-- `*model->pub->msg = message`. -/
def ConfiguredModel.setMessage {Id : Type} (message : PublicationMessage)
    (model : ConfiguredModel Id) : Option (ConfiguredModel Id) :=
  model.pub.map fun _ => { model with pub := some message }

def ConfiguredElement.setMessage (array : ModelArray) (index : Nat)
    (message : PublicationMessage) (element : ConfiguredElement) : Option ConfiguredElement :=
  match array with
  | .sigModels =>
      (writeAt element.sigModels index (ConfiguredModel.setMessage message)).map
        fun sigModels => { element with sigModels }
  | .vndModels =>
      (writeAt element.vndModels index (ConfiguredModel.setMessage message)).map
        fun vndModels => { element with vndModels }

def setMessage (elements : List ConfiguredElement) (ref : MessageRef)
    (message : PublicationMessage) : Option (List ConfiguredElement) :=
  writeAt elements ref.element (ConfiguredElement.setMessage ref.array ref.index message)

/-- The branches of the callback for a state change. -/
def bleMeshConfigServerCb (findElement : FindElement) (node : ConfiguredNode)
    (change : CfgStateChange) : Option ConfiguredNode :=
  match change with
  | .appKeyAdd => some node
  | .modelAppBind => some node
  | .modelPubSet elementAddr companyId modelId =>
      match findModel findElement node.elements elementAddr companyId modelId with
      | none => some node
      | some ref =>
          (setMessage node.elements ref { data := .localArray node.called, len := 1 }).map
            fun elements => { node with elements }
  | .modelSubAdd elementAddr companyId modelId subAddr =>
      some { node with
        calls := node.calls ++ [.subscribeGroupAddr elementAddr companyId modelId subAddr] }
  | .modelSubDelete elementAddr companyId modelId subAddr =>
      some { node with
        calls := node.calls ++ [.unsubscribeGroupAddr elementAddr companyId modelId subAddr] }
  | .other => some node

/-- The stack calls the callback, or begins a new message in the buffer of a model. -/
inductive ConfigurationEvent
  | stateChange (change : CfgStateChange)
  | otherEvent
  | beginMessage (ref : MessageRef)

def configurationStep (findElement : FindElement) (node : ConfiguredNode) :
    ConfigurationEvent → Option ConfiguredNode
  | .stateChange change =>
      (bleMeshConfigServerCb findElement node change).map fun next =>
        { next with called := node.called + 1 }
  | .otherEvent => some { node with called := node.called + 1 }
  | .beginMessage ref =>
      (setMessage node.elements ref { data := .buffer, len := 0 }).map
        fun elements => { node with elements }

/-! ## What has become of the messages -/

def ConfiguredElement.message (element : ConfiguredElement) (array : ModelArray) (index : Nat) :
    Option PublicationMessage :=
  match array with
  | .sigModels => element.sigModels[index]?.bind ConfiguredModel.pub
  | .vndModels => element.vndModels[index]?.bind ConfiguredModel.pub

def message (elements : List ConfiguredElement) (ref : MessageRef) : Option PublicationMessage :=
  elements[ref.element]?.bind fun element => element.message ref.array ref.index

namespace ConfigurationEvent

/-- The message that an event changes. -/
def target (findElement : FindElement) (composition : List ConfiguredElement) :
    ConfigurationEvent → Option MessageRef
  | .stateChange (.modelPubSet elementAddr companyId modelId) =>
      findModel findElement composition elementAddr companyId modelId
  | .stateChange _ => none
  | .otherEvent => none
  | .beginMessage ref => some ref

/-- An event for a model without a publication goes through NULL. -/
def goesOn (findElement : FindElement) (composition : List ConfiguredElement)
    (event : ConfigurationEvent) : Bool :=
  (event.target findElement composition).all fun ref => (message composition ref).isSome

/-- The callback has left the address of its array. -/
def leavesAddress : ConfigurationEvent → Bool
  | .stateChange _ => true
  | .otherEvent => true
  | .beginMessage _ => false

def calls : ConfigurationEvent → List SubscriptionCall
  | .stateChange (.modelSubAdd elementAddr companyId modelId subAddr) =>
      [.subscribeGroupAddr elementAddr companyId modelId subAddr]
  | .stateChange (.modelSubDelete elementAddr companyId modelId subAddr) =>
      [.unsubscribeGroupAddr elementAddr companyId modelId subAddr]
  | _ => []

end ConfigurationEvent

/-- The latest event for a message decides where its bytes are. -/
def danglesAfter (findElement : FindElement) (composition : List ConfiguredElement)
    (events : List ConfigurationEvent) (ref : MessageRef) : Bool :=
  (events.reverse.find? fun event => event.target findElement composition == some ref).any
    ConfigurationEvent.leavesAddress

def PublicationMessage.dangles (message : PublicationMessage) : Bool :=
  match message.data with
  | .buffer => false
  | .localArray _ => true

/-- The message is in an array that is gone. -/
def ConfiguredNode.dangles (node : ConfiguredNode) (ref : MessageRef) : Bool :=
  (message node.elements ref).any PublicationMessage.dangles

/-- A model as it is in the composition. -/
def ConfiguredModel.fresh {Id : Type} (model : ConfiguredModel Id) : ConfiguredModel Id :=
  { model with pub := model.pub.map fun _ => { data := .buffer, len := 0 } }

def ConfiguredElement.fresh (element : ConfiguredElement) : ConfiguredElement :=
  { element with
    sigModels := element.sigModels.map ConfiguredModel.fresh
    vndModels := element.vndModels.map ConfiguredModel.fresh }

def ConfiguredNode.start (composition : List ConfiguredElement) : ConfiguredNode where
  elements := composition.map ConfiguredElement.fresh
  called := 0
  calls := []

/-! ## Writing a message -/

section

variable {Entry : Type} {entries written : List Entry} {index : Nat}
  {write : Entry → Option Entry}

theorem writeAt_eq_some_iff :
    writeAt entries index write = some written ↔
      ∃ entry next, entries[index]? = some entry ∧ write entry = some next ∧
        written = entries.set index next := by
  rw [writeAt]
  cases there : entries[index]? with
  | none => simp
  | some entry =>
      cases result : write entry with
      | none => simp [result]
      | some next => simp [result, eq_comm]

theorem isSome_writeAt : (writeAt entries index write).isSome =
    (entries[index]?.bind write).isSome := Option.isSome_map

/-- Writing an entry keeps what it has in common with the old one. -/
theorem map_of_writeAt {Shape : Type} {shape : Entry → Shape}
    (keeps : ∀ entry next, write entry = some next → shape next = shape entry)
    (wrote : writeAt entries index write = some written) :
    written.map shape = entries.map shape := by
  rcases writeAt_eq_some_iff.mp wrote with ⟨entry, next, there, result, rfl⟩
  rcases List.getElem?_eq_some_iff.mp there with ⟨inside, rfl⟩
  rw [List.map_set, keeps _ next result, ← List.map_set, List.set_getElem_self]

theorem getElem?_of_writeAt (wrote : writeAt entries index write = some written) (other : Nat) :
    written[other]? = if other = index then entries[index]?.bind write else entries[other]? := by
  rcases writeAt_eq_some_iff.mp wrote with ⟨entry, next, there, result, rfl⟩
  rcases List.getElem?_eq_some_iff.mp there with ⟨inside, -⟩
  by_cases same : other = index
  · subst same
    rw [if_pos rfl, List.getElem?_set_self inside, there, Option.bind_some, result]
  · rw [if_neg same, List.getElem?_set_ne (Ne.symm same)]

end

section

variable {Id : Type} {models written : List (ConfiguredModel Id)} {index : Nat}
  {sent : PublicationMessage}

theorem fresh_of_setModel
    (wrote : writeAt models index (ConfiguredModel.setMessage sent) = some written) :
    written.map ConfiguredModel.fresh = models.map ConfiguredModel.fresh := by
  apply map_of_writeAt _ wrote
  rintro ⟨id, pub⟩ next set
  cases pub with
  | none => cases set
  | some old =>
      cases set
      rfl

theorem pub_of_setModel
    (wrote : writeAt models index (ConfiguredModel.setMessage sent) = some written) (other : Nat) :
    written[other]?.bind ConfiguredModel.pub =
      if other = index then some sent else models[other]?.bind ConfiguredModel.pub := by
  rw [getElem?_of_writeAt wrote]
  by_cases same : other = index
  · rcases writeAt_eq_some_iff.mp wrote with ⟨⟨id, pub⟩, next, there, set, -⟩
    rw [if_pos same, if_pos same, there, Option.bind_some, set]
    cases pub with
    | none => cases set
    | some old =>
        cases set
        rfl
  · rw [if_neg same, if_neg same]

theorem isSome_setModel (models : List (ConfiguredModel Id)) (index : Nat)
    (sent : PublicationMessage) :
    (writeAt models index (ConfiguredModel.setMessage sent)).isSome =
      (models[index]?.bind ConfiguredModel.pub).isSome := by
  rw [isSome_writeAt]
  cases models[index]? with
  | none => rfl
  | some model => exact Option.isSome_map

end

namespace ConfiguredElement

variable {element next : ConfiguredElement} {array : ModelArray} {index : Nat}
  {sent : PublicationMessage}

theorem isSome_setMessage (element : ConfiguredElement) (array : ModelArray) (index : Nat)
    (sent : PublicationMessage) :
    (element.setMessage array index sent).isSome = (element.message array index).isSome := by
  cases array with
  | sigModels => exact Option.isSome_map.trans (isSome_setModel ..)
  | vndModels => exact Option.isSome_map.trans (isSome_setModel ..)

theorem fresh_of_setMessage (set : element.setMessage array index sent = some next) :
    next.fresh = element.fresh := by
  cases array with
  | sigModels =>
      rcases Option.map_eq_some_iff.mp set with ⟨written, wrote, rfl⟩
      rw [fresh, fresh, fresh_of_setModel wrote]
  | vndModels =>
      rcases Option.map_eq_some_iff.mp set with ⟨written, wrote, rfl⟩
      rw [fresh, fresh, fresh_of_setModel wrote]

theorem message_of_setMessage (set : element.setMessage array index sent = some next)
    (otherArray : ModelArray) (other : Nat) :
    next.message otherArray other =
      if otherArray = array ∧ other = index then some sent
      else element.message otherArray other := by
  cases array with
  | sigModels =>
      rcases Option.map_eq_some_iff.mp set with ⟨written, wrote, rfl⟩
      cases otherArray with
      | sigModels => simp [message, pub_of_setModel wrote]
      | vndModels => simp [message]
  | vndModels =>
      rcases Option.map_eq_some_iff.mp set with ⟨written, wrote, rfl⟩
      cases otherArray with
      | sigModels => simp [message]
      | vndModels => simp [message, pub_of_setModel wrote]

end ConfiguredElement

section

variable {elements next : List ConfiguredElement} {ref : MessageRef} {sent : PublicationMessage}

theorem isSome_setMessage (elements : List ConfiguredElement) (ref : MessageRef)
    (sent : PublicationMessage) :
    (setMessage elements ref sent).isSome = (message elements ref).isSome := by
  rw [setMessage, isSome_writeAt, message]
  cases elements[ref.element]? with
  | none => rfl
  | some element => exact element.isSome_setMessage ref.array ref.index sent

theorem fresh_of_setMessage (set : setMessage elements ref sent = some next) :
    next.map ConfiguredElement.fresh = elements.map ConfiguredElement.fresh :=
  map_of_writeAt (fun _ _ => ConfiguredElement.fresh_of_setMessage) set

theorem message_of_setMessage (set : setMessage elements ref sent = some next)
    (other : MessageRef) :
    message next other = if other = ref then some sent else message elements other := by
  rcases other with ⟨otherElement, otherArray, otherIndex⟩
  rcases writeAt_eq_some_iff.mp set with ⟨element, changed, there, result, -⟩
  rw [message, getElem?_of_writeAt set, message]
  by_cases same : otherElement = ref.element
  · simp only [if_pos same, there, Option.bind_some, result,
      ConfiguredElement.message_of_setMessage result]
    subst same
    rw [there, Option.bind_some]
    apply if_congr _ rfl rfl
    cases ref
    simp
  · have differs : (⟨otherElement, otherArray, otherIndex⟩ : MessageRef) ≠ ref := by
      intro equal
      exact same (congrArg MessageRef.element equal)
    rw [if_neg same, if_neg differs]

/-- What is found in a composition does not depend on the messages. -/
theorem findModel_fresh (findElement : FindElement) (elements : List ConfiguredElement)
    (elementAddr companyId modelId : UInt16) :
    findModel findElement (elements.map ConfiguredElement.fresh) elementAddr companyId modelId =
      findModel findElement elements elementAddr companyId modelId := by
  have found : ∀ element : ConfiguredElement,
      element.fresh.findModel companyId modelId = element.findModel companyId modelId := by
    intro element
    rw [ConfiguredElement.findModel, ConfiguredElement.findModel, ConfiguredElement.fresh,
      List.findIdx?_map, List.findIdx?_map]
    rfl
  rw [findModel, findModel]
  apply congrArg (Option.bind _)
  funext index
  rw [List.getElem?_map]
  cases elements[index]? with
  | none => rfl
  | some element => rw [Option.map_some, Option.bind_some, Option.bind_some, found]

/-- The message of a model as it is in the composition. -/
theorem message_fresh (elements : List ConfiguredElement) (ref : MessageRef) :
    message (elements.map ConfiguredElement.fresh) ref =
      (message elements ref).map fun _ => { data := .buffer, len := 0 } := by
  have pub : ∀ {Id : Type} (models : List (ConfiguredModel Id)) (index : Nat),
      (models.map ConfiguredModel.fresh)[index]?.bind ConfiguredModel.pub =
        (models[index]?.bind ConfiguredModel.pub).map fun _ => { data := .buffer, len := 0 } := by
    intro Id models index
    rw [List.getElem?_map]
    cases models[index]? <;> rfl
  rw [message, message, List.getElem?_map]
  cases elements[ref.element]? with
  | none => rfl
  | some element =>
      rw [Option.map_some, Option.bind_some, Option.bind_some]
      cases ref.array with
      | sigModels => exact pub element.sigModels ref.index
      | vndModels => exact pub element.vndModels ref.index

theorem isSome_message_fresh (elements : List ConfiguredElement) (ref : MessageRef) :
    (message (elements.map ConfiguredElement.fresh) ref).isSome =
      (message elements ref).isSome := by
  rw [message_fresh]
  exact Option.isSome_map

end

/-! ## Runs -/

/-- The node after some events. -/
structure Configured (findElement : FindElement) (composition : List ConfiguredElement)
    (past : List ConfigurationEvent) (node : ConfiguredNode) : Prop where
  fresh : node.elements.map ConfiguredElement.fresh =
    composition.map ConfiguredElement.fresh
  dangles : node.dangles = danglesAfter findElement composition past
  calls : node.calls = past.flatMap ConfigurationEvent.calls

theorem configured_start (findElement : FindElement) (composition : List ConfiguredElement) :
    Configured findElement composition [] (ConfiguredNode.start composition) where
  fresh := by
    have again : ∀ element : ConfiguredElement, element.fresh.fresh = element.fresh := by
      intro element
      have models : ∀ {Id : Type} (model : ConfiguredModel Id), model.fresh.fresh = model.fresh := by
        rintro Id ⟨id, pub⟩
        cases pub <;> rfl
      simp [ConfiguredElement.fresh, models, Function.comp_def]
    simp [ConfiguredNode.start, again, Function.comp_def]
  dangles := by
    funext ref
    rw [ConfiguredNode.dangles, ConfiguredNode.start, message_fresh]
    cases message composition ref <;> rfl
  calls := rfl

theorem danglesAfter_append (findElement : FindElement)
    (composition : List ConfiguredElement) (past : List ConfigurationEvent)
    (event : ConfigurationEvent) (ref : MessageRef) :
    danglesAfter findElement composition (past ++ [event]) ref =
      if event.target findElement composition = some ref then event.leavesAddress
      else danglesAfter findElement composition past ref := by
  rw [danglesAfter, List.reverse_append, List.reverse_singleton, List.singleton_append,
    List.find?_cons]
  by_cases hit : event.target findElement composition = some ref
  · simp [hit]
  · have miss : (event.target findElement composition == some ref) = false := beq_false_of_ne hit
    rw [miss, if_neg hit]
    rfl

namespace Configured

variable {findElement : FindElement} {composition : List ConfiguredElement}
  {past : List ConfigurationEvent} {node : ConfiguredNode} {event : ConfigurationEvent}

/-- An event that is for no message leaves them as they are. -/
theorem quiet (configured : Configured findElement composition past node)
    (target : event.target findElement composition = none) (called : Nat) :
    Configured findElement composition (past ++ [event])
      { node with called, calls := node.calls ++ event.calls } where
  fresh := configured.fresh
  dangles := by
    funext ref
    rw [danglesAfter_append, target, if_neg (by simp), ← configured.dangles]
    rfl
  calls := by simp [configured.calls]

theorem write (configured : Configured findElement composition past node) {ref : MessageRef}
    (target : event.target findElement composition = some ref) (quiet : event.calls = [])
    {sent : PublicationMessage} (dangles : sent.dangles = event.leavesAddress)
    {elements : List ConfiguredElement} (set : setMessage node.elements ref sent = some elements)
    (called : Nat) :
    Configured findElement composition (past ++ [event]) { node with elements, called } where
  fresh := (fresh_of_setMessage set).trans configured.fresh
  dangles := by
    funext other
    rw [danglesAfter_append, target, ← configured.dangles, ConfiguredNode.dangles,
      message_of_setMessage set]
    by_cases same : other = ref
    · rw [if_pos same, if_pos (congrArg some same.symm)]
      exact dangles
    · rw [if_neg same, if_neg fun equal => same (Option.some.inj equal).symm]
      rfl
  calls := by simp [configured.calls, quiet]

theorem findModel_eq (configured : Configured findElement composition past node)
    (elementAddr companyId modelId : UInt16) :
    findModel findElement node.elements elementAddr companyId modelId =
      findModel findElement composition elementAddr companyId modelId := by
  rw [← findModel_fresh, configured.fresh, findModel_fresh]

theorem isSome_setMessage_eq (configured : Configured findElement composition past node)
    (ref : MessageRef) (sent : PublicationMessage) :
    (setMessage node.elements ref sent).isSome = (message composition ref).isSome := by
  rw [isSome_setMessage, ← isSome_message_fresh, configured.fresh, isSome_message_fresh]

/-- What happens to an event for a message. -/
theorem writes (configured : Configured findElement composition past node) {ref : MessageRef}
    (target : event.target findElement composition = some ref) (quiet : event.calls = [])
    {sent : PublicationMessage} (dangles : sent.dangles = event.leavesAddress) (called : Nat)
    (result : configurationStep findElement node event = (setMessage node.elements ref sent).map
      fun elements => { node with elements, called }) :
    if event.goesOn findElement composition then
      ∃ next, configurationStep findElement node event = some next ∧
        Configured findElement composition (past ++ [event]) next
    else configurationStep findElement node event = none := by
  have isSome := configured.isSome_setMessage_eq ref sent
  rw [ConfigurationEvent.goesOn, target, Option.all_some, ← isSome, result]
  cases set : setMessage node.elements ref sent with
  | none => rfl
  | some elements => exact ⟨_, rfl, configured.write target quiet dangles set called⟩

theorem goesOn_quiet (configured : Configured findElement composition past node)
    (target : event.target findElement composition = none) (called : Nat)
    (result : configurationStep findElement node event =
      some { node with called, calls := node.calls ++ event.calls }) :
    if event.goesOn findElement composition then
      ∃ next, configurationStep findElement node event = some next ∧
        Configured findElement composition (past ++ [event]) next
    else configurationStep findElement node event = none := by
  rw [ConfigurationEvent.goesOn, target]
  exact ⟨_, result, configured.quiet target called⟩

/-- An event goes on unless it is for a model without a publication. -/
theorem step (configured : Configured findElement composition past node)
    (event : ConfigurationEvent) :
    if event.goesOn findElement composition then
      ∃ next, configurationStep findElement node event = some next ∧
        Configured findElement composition (past ++ [event]) next
    else configurationStep findElement node event = none := by
  have unchanged : { node with called := node.called + 1, calls := node.calls ++ [] } =
      ({ node with called := node.called + 1 } : ConfiguredNode) := by
    rw [List.append_nil]
  cases event with
  | otherEvent =>
      apply configured.goesOn_quiet rfl (node.called + 1)
      exact congrArg some unchanged.symm
  | beginMessage ref =>
      exact configured.writes rfl rfl rfl node.called rfl
  | stateChange change =>
      cases change with
      | appKeyAdd =>
          apply configured.goesOn_quiet rfl (node.called + 1)
          exact congrArg some unchanged.symm
      | modelAppBind =>
          apply configured.goesOn_quiet rfl (node.called + 1)
          exact congrArg some unchanged.symm
      | other =>
          apply configured.goesOn_quiet rfl (node.called + 1)
          exact congrArg some unchanged.symm
      | modelSubAdd elementAddr companyId modelId subAddr =>
          exact configured.goesOn_quiet rfl (node.called + 1) rfl
      | modelSubDelete elementAddr companyId modelId subAddr =>
          exact configured.goesOn_quiet rfl (node.called + 1) rfl
      | modelPubSet elementAddr companyId modelId =>
          have same := configured.findModel_eq elementAddr companyId modelId
          let event : ConfigurationEvent :=
            .stateChange (.modelPubSet elementAddr companyId modelId)
          cases found : findModel findElement composition elementAddr companyId modelId with
          | none =>
              have target : event.target findElement composition = none := found
              apply configured.goesOn_quiet target (node.called + 1)
              rw [configurationStep, bleMeshConfigServerCb, same, found]
              exact congrArg some unchanged.symm
          | some ref =>
              have target : event.target findElement composition = some ref := found
              have dangles : (⟨.localArray node.called, 1⟩ : PublicationMessage).dangles =
                  event.leavesAddress := rfl
              apply configured.writes target rfl dangles (node.called + 1)
              rw [configurationStep, bleMeshConfigServerCb, same, found]
              exact Option.map_map ..

end Configured

/-- Over any run, the message of a model is in an array that is gone exactly if the latest
event for it was a publication set and not the beginning of a new message; the subscriptions
called for are those reported, and only a publication set for a model without a publication
stops the node. -/
theorem messages_dangle_after_publication_set (findElement : FindElement)
    (composition : List ConfiguredElement) (events : List ConfigurationEvent) :
    (run (configurationStep findElement) (ConfiguredNode.start composition) events).map
        (fun node => (node.dangles, node.calls)) =
      if events.all (ConfigurationEvent.goesOn findElement composition) then
        some (danglesAfter findElement composition events, events.flatMap ConfigurationEvent.calls)
      else none := by
  have runs : ∀ past node, Configured findElement composition past node →
      (run (configurationStep findElement) node events).map
          (fun node => (node.dangles, node.calls)) =
        if events.all (ConfigurationEvent.goesOn findElement composition) then
          some (danglesAfter findElement composition (past ++ events),
            (past ++ events).flatMap ConfigurationEvent.calls)
        else none := by
    induction events with
    | nil =>
        intro past node configured
        simp [configured.dangles, configured.calls]
    | cons event events induction =>
        intro past node configured
        have stepped := configured.step event
        rw [List.all_cons]
        cases goesOn : event.goesOn findElement composition with
        | false =>
            rw [goesOn, if_neg Bool.false_ne_true] at stepped
            rw [run, stepped]
            rfl
        | true =>
            rw [goesOn, if_pos rfl] at stepped
            rcases stepped with ⟨next, happens, configuredNext⟩
            have later := induction (past ++ [event]) next configuredNext
            rw [List.append_assoc, List.singleton_append] at later
            rw [run, happens, Bool.true_and]
            exact later
  exact runs [] _ (configured_start findElement composition)

/-- The composition of the light server. -/
def lightComposition : List ConfiguredElement :=
  lightElements.map fun models =>
    { sigModels := models.map fun model =>
        { id := model.modelId
          pub :=
            if model.modelId = modelIdConfigSrv then none else some { data := .buffer, len := 0 } }
      vndModels := [] }

-- The OnOff server is in the second element, whose address is 6 here.
example : danglesAfter (fun elementAddr => if elementAddr = 6 then some 1 else none)
    lightComposition [.stateChange (.modelPubSet 6 espBleMeshCidNval modelIdGenOnoffSrv)]
    { element := 1, array := .sigModels, index := 0 } = true := by
  decide

end BleMesh.Initializer
