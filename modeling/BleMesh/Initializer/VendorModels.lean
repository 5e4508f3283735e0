import BleMesh.Foundation.Execution
import BleMesh.Initializer.TableAccess

/-! # Vendor models

A vendor model gets its callbacks through its own user data, an object that
`ble_mesh_register_vendor_model_user_args` allocates for it. No array comes in between, and no
object is ever freed.
-/

namespace BleMesh.Initializer

open Foundation.Execution

variable {Callback Args : Type}

/-! ## Data -/

/-- `s_custom_model_user_data_struct_t` of a vendor model. -/
structure VendorUserData (Callback Args : Type) where
  modelId : UInt16
  modelCb : Option Callback
  modelPublicationCb : Option Callback
  args : Option Args
  deriving DecidableEq

/-- A vendor model of an element. `userData` is the number of the object that the pointer
points to. -/
structure VendorModel where
  companyId : UInt16
  modelId : UInt16
  userData : Option Nat
  deriving DecidableEq

/-- Where a model is in the composition. -/
structure ModelRef where
  element : Nat
  index : Nat
  deriving DecidableEq

/-- What `param->model_operation` has. `isSubscribed` is the answer of
`esp_ble_mesh_is_model_subscribed_to_group` for the destination. -/
structure OperationParam where
  opcode : UInt32
  addr : UInt16
  recvDst : UInt16
  isSubscribed : Bool
  msg : List UInt8
  deriving DecidableEq

/-- What an event leads to. -/
inductive VendorCall (Callback Args : Type)
  | modelCallback (callback : Callback) (model : ModelRef) (param : OperationParam)
      (args : Option Args)
  | publicationCallback (callback : Callback) (model : ModelRef) (args : Option Args)
  | printMessage (data : UInt8)
  | searchSigModels (modelId : UInt16)
  deriving DecidableEq

/-- The vendor models of the elements, the objects allocated so far, what the registrations
have returned and what the events have led to. -/
structure VendorNode (Callback Args : Type) where
  elements : List (List VendorModel)
  objects : List (VendorUserData Callback Args)
  returned : List Int
  calls : List (VendorCall Callback Args)

/-- The arguments of a registration, with the answers of `malloc`. -/
structure VendorRegistration (Callback Args : Type) where
  elementId : UInt16
  modelId : UInt16
  modelCallback : Option Callback
  publicationCallback : Option Callback
  args : Option Args
  malloc : Nat → Bool

/-! ## Registrations -/

/-- The loop over the models of the element. -/
def registerVendorModels (modelUserData : VendorUserData Callback Args) :
    (Nat → Bool) → List VendorModel → List (VendorUserData Callback Args) →
      Int × List VendorModel × List (VendorUserData Callback Args)
  | _, [], objects => (0, [], objects)
  | malloc, model :: models, objects =>
      if model.modelId = modelUserData.modelId then
        if malloc 0 then
          let later := registerVendorModels modelUserData (fun call => malloc (call + 1)) models
            (objects ++ [modelUserData])
          (later.1, { model with userData := some objects.length } :: later.2.1, later.2.2)
        else (-1, model :: models, objects)
      else
        let later := registerVendorModels modelUserData malloc models objects
        (later.1, model :: later.2.1, later.2.2)

/-- The argument `args` is not used. -/
def VendorRegistration.modelUserData (registration : VendorRegistration Callback Args) :
    VendorUserData Callback Args where
  modelId := registration.modelId
  modelCb := registration.modelCallback
  modelPublicationCb := registration.publicationCallback
  args := none

def bleMeshRegisterVendorModelUserArgs (node : VendorNode Callback Args)
    (registration : VendorRegistration Callback Args) : Int × VendorNode Callback Args :=
  match node.elements[registration.elementId.toNat]? with
  | none => (-1, node)
  | some models =>
      let modelSize := models.length
      if modelSize > models.length ∨ 0 = registration.modelId then (-1, node)
      else
        let result := registerVendorModels registration.modelUserData registration.malloc models
          node.objects
        (result.1, { node with
          elements := node.elements.set registration.elementId.toNat result.2.1
          objects := result.2.2 })

/-! ## Events -/

def espBleMeshAddrIsGroup (addr : UInt16) : Bool := 0xC000 ≤ addr && addr < 0xFF00

def espBleMeshAddrIsUnicast (addr : UInt16) : Bool := addr != 0 && addr < 0x8000

namespace VendorNode

def model (node : VendorNode Callback Args) (ref : ModelRef) : Option VendorModel :=
  node.elements[ref.element]?.bind fun models => models[ref.index]?

/-- What the pointer `user_data` of a model points to. -/
def userData (node : VendorNode Callback Args) (ref : ModelRef) :
    Option (VendorUserData Callback Args) :=
  (node.model ref).bind fun model => model.userData.bind fun address => node.objects[address]?

end VendorNode

/-- The branch for ESP_BLE_MESH_MODEL_OPERATION_EVT, given the user data of the model. -/
def operationCalls (modelUserArgs : Option (VendorUserData Callback Args)) (model : ModelRef)
    (param : OperationParam) : List (VendorCall Callback Args) :=
  if espBleMeshAddrIsGroup param.recvDst && param.isSubscribed then
    match param.msg with
    | [data] => [.printMessage data]
    | _ => []
  else if espBleMeshAddrIsUnicast param.recvDst then
    match modelUserArgs with
    | none => []
    | some modelUserArgs =>
        match modelUserArgs.modelCb with
        | none => []
        | some callback => [.modelCallback callback model param modelUserArgs.args]
  else []

/-- The branch for ESP_BLE_MESH_MODEL_PUBLISH_UPDATE_EVT. A model that is taken for a SIG
model is searched for in the array. -/
def publishUpdateCalls (modelUserArgs : Option (VendorUserData Callback Args))
    (companyId modelId : UInt16) (model : ModelRef) : List (VendorCall Callback Args) :=
  if cidEsp != companyId && 0x00 == modelId then [.searchSigModels companyId]
  else
    match modelUserArgs with
    | none => []
    | some modelUserArgs =>
        match modelUserArgs.modelPublicationCb with
        | none => []
        | some callback => [.publicationCallback callback model modelUserArgs.args]

inductive VendorEvent (Callback Args : Type)
  | register (registration : VendorRegistration Callback Args)
  | operation (model : ModelRef) (param : OperationParam)
  | publishUpdate (model : ModelRef)

/-- Events are for models that there are. -/
def vendorStep (node : VendorNode Callback Args) :
    VendorEvent Callback Args → Option (VendorNode Callback Args)
  | .register registration =>
      let result := bleMeshRegisterVendorModelUserArgs node registration
      some { result.2 with returned := node.returned ++ [result.1] }
  | .operation ref param =>
      (node.model ref).map fun _ =>
        { node with calls := node.calls ++ operationCalls (node.userData ref) ref param }
  | .publishUpdate ref =>
      (node.model ref).map fun model =>
        { node with
          calls := node.calls ++
            publishUpdateCalls (node.userData ref) model.companyId model.modelId ref }

/-! ## The dispatcher -/

/-- The company id and the model id of a vendor model. -/
structure VendorId where
  companyId : UInt16
  modelId : UInt16
  deriving DecidableEq

def VendorModel.id (model : VendorModel) : VendorId where
  companyId := model.companyId
  modelId := model.modelId

/-- No user data has been registered. -/
def VendorNode.initial (ids : List (List VendorId)) : VendorNode Callback Args where
  elements := ids.map fun models => models.map fun id =>
    { companyId := id.companyId, modelId := id.modelId, userData := none }
  objects := []
  returned := []
  calls := []

/-- How many models of an element have the id. The company does not matter. -/
def matching (ids : List VendorId) (modelId : UInt16) : Nat :=
  ids.countP fun id => id.modelId == modelId

/-- The model of the element has the id, and the allocations for it and for those before it
are granted. -/
def reachesModel (ids : List VendorId) (modelId : UInt16) (malloc : Nat → Bool) (index : Nat) :
    Bool :=
  (ids[index]?.any fun id => id.modelId == modelId) &&
    (List.range (matching (ids.take index) modelId + 1)).all malloc

namespace VendorRegistration

/-- The registration gets to the model. -/
def reaches (registration : VendorRegistration Callback Args) (ids : List (List VendorId))
    (ref : ModelRef) : Bool :=
  registration.elementId.toNat == ref.element && registration.modelId != 0 &&
    ids[ref.element]?.any fun models =>
      reachesModel models registration.modelId registration.malloc ref.index

/-- The value returned. No model with the id is no error. -/
def code (registration : VendorRegistration Callback Args) (ids : List (List VendorId)) : Int :=
  match ids[registration.elementId.toNat]? with
  | none => -1
  | some models =>
      if registration.modelId = 0 then -1
      else if (List.range (matching models registration.modelId)).all registration.malloc then 0
      else -1

end VendorRegistration

/-- How a message is addressed. Groups have the addresses 0xC000 to 0xFEFF and elements the
addresses 0x0001 to 0x7FFF. -/
inductive Destination
  | subscribedGroup
  | element
  | elsewhere

def OperationParam.destination (param : OperationParam) : Destination :=
  if 0xC000 ≤ param.recvDst ∧ param.recvDst ≤ 0xFEFF ∧ param.isSubscribed = true then
    .subscribedGroup
  else if 0x0001 ≤ param.recvDst ∧ param.recvDst ≤ 0x7FFF then .element
  else .elsewhere

/-- What the vendor models are for: each has the callbacks of the latest registration that
got to it. The argument of a registration is not kept. -/
structure Dispatcher (Callback Args : Type) where
  assigned : ModelRef → Option (VendorUserData Callback Args)
  returned : List Int
  calls : List (VendorCall Callback Args)

def Dispatcher.initial : Dispatcher Callback Args where
  assigned := fun _ => none
  returned := []
  calls := []

/-- The object that a model has in a heap. -/
def VendorModel.object (objects : List (VendorUserData Callback Args)) (model : VendorModel) :
    Option (VendorUserData Callback Args) :=
  model.userData.bind fun address => objects[address]?

/-- The addresses that some models point to. -/
def pointers (models : List VendorModel) : List Nat := models.filterMap VendorModel.userData

variable {modelUserData : VendorUserData Callback Args} {malloc : Nat → Bool}
  {models : List VendorModel} {objects : List (VendorUserData Callback Args)}

theorem registerVendorModels_ids (modelUserData : VendorUserData Callback Args)
    (malloc : Nat → Bool) (models : List VendorModel)
    (objects : List (VendorUserData Callback Args)) :
    (registerVendorModels modelUserData malloc models objects).2.1.map VendorModel.id =
      models.map VendorModel.id := by
  induction models generalizing malloc objects with
  | nil => rfl
  | cons model models induction =>
      simp only [registerVendorModels]
      split
      · split
        · rw [List.map_cons, induction]
          rfl
        · rfl
      · rw [List.map_cons, induction]
        rfl

theorem range_all_succ (malloc : Nat → Bool) (count : Nat) :
    (List.range (count + 1)).all malloc =
      (malloc 0 && (List.range count).all fun call => malloc (call + 1)) := by
  rw [List.range_succ_eq_map, List.all_cons, List.all_map]
  rfl

theorem registerVendorModels_code (modelUserData : VendorUserData Callback Args)
    (malloc : Nat → Bool) (models : List VendorModel)
    (objects : List (VendorUserData Callback Args)) :
    (registerVendorModels modelUserData malloc models objects).1 =
      if (List.range (matching (models.map VendorModel.id) modelUserData.modelId)).all malloc then
        0
      else -1 := by
  induction models generalizing malloc objects with
  | nil => rfl
  | cons model models induction =>
      by_cases same : model.modelId = modelUserData.modelId
      · have count : matching ((model :: models).map VendorModel.id) modelUserData.modelId =
            matching (models.map VendorModel.id) modelUserData.modelId + 1 := by
          simp [matching, VendorModel.id, same]
        rw [count, range_all_succ]
        cases first : malloc 0 with
        | true => simp [registerVendorModels, same, first, induction]
        | false => simp [registerVendorModels, same, first]
      · have count : matching ((model :: models).map VendorModel.id) modelUserData.modelId =
            matching (models.map VendorModel.id) modelUserData.modelId := by
          simp [matching, VendorModel.id, same]
        rw [count]
        simp [registerVendorModels, same, induction]

/-- Objects are only added. -/
theorem registerVendorModels_objects (modelUserData : VendorUserData Callback Args)
    (malloc : Nat → Bool) (models : List VendorModel)
    (objects : List (VendorUserData Callback Args)) :
    ∃ count, (registerVendorModels modelUserData malloc models objects).2.2 =
      objects ++ List.replicate count modelUserData := by
  induction models generalizing malloc objects with
  | nil => exact ⟨0, (List.append_nil _).symm⟩
  | cons model models induction =>
      simp only [registerVendorModels]
      split
      · split
        · rcases induction (fun call => malloc (call + 1)) (objects ++ [modelUserData]) with
            ⟨count, added⟩
          refine ⟨count + 1, ?_⟩
          rw [added, List.append_assoc, List.replicate_succ]
          rfl
        · exact ⟨0, (List.append_nil _).symm⟩
      · exact induction malloc objects

theorem object_append {model : VendorModel}
    (inside : ∀ address ∈ model.userData, address < objects.length)
    (more : List (VendorUserData Callback Args)) :
    model.object (objects ++ more) = model.object objects := by
  rw [VendorModel.object, VendorModel.object]
  cases points : model.userData with
  | none => rfl
  | some address =>
      exact List.getElem?_append_left (inside address (Option.mem_def.mpr points))

theorem reachesModel_cons_succ_of_match {id : VendorId} {modelId : UInt16}
    (same : id.modelId = modelId) (granted : malloc 0 = true) (ids : List VendorId)
    (index : Nat) :
    reachesModel (id :: ids) modelId malloc (index + 1) =
      reachesModel ids modelId (fun call => malloc (call + 1)) index := by
  have earlier : matching ((id :: ids).take (index + 1)) modelId =
      matching (ids.take index) modelId + 1 := by simp [matching, same]
  rw [reachesModel, reachesModel, earlier, range_all_succ malloc, granted, Bool.true_and,
    List.getElem?_cons_succ]

theorem reachesModel_cons_succ_of_other {id : VendorId} {modelId : UInt16}
    (other : id.modelId ≠ modelId) (ids : List VendorId) (index : Nat) :
    reachesModel (id :: ids) modelId malloc (index + 1) =
      reachesModel ids modelId malloc index := by
  have earlier : matching ((id :: ids).take (index + 1)) modelId =
      matching (ids.take index) modelId := by simp [matching, other]
  rw [reachesModel, reachesModel, earlier, List.getElem?_cons_succ]

theorem reachesModel_of_refused (refused : malloc 0 = false) (ids : List VendorId)
    (modelId : UInt16) (index : Nat) : reachesModel ids modelId malloc index = false := by
  rw [reachesModel, range_all_succ, refused, Bool.false_and, Bool.and_false]

/-- Each model that the registration gets to has an object of its own. -/
theorem registerVendorModels_object (modelUserData : VendorUserData Callback Args)
    (malloc : Nat → Bool)
    (inside : ∀ model ∈ models, ∀ address ∈ model.userData, address < objects.length)
    (index : Nat) :
    ((registerVendorModels modelUserData malloc models objects).2.1[index]?.bind
        (VendorModel.object (registerVendorModels modelUserData malloc models objects).2.2)) =
      if reachesModel (models.map VendorModel.id) modelUserData.modelId malloc index then
        some modelUserData
      else models[index]?.bind (VendorModel.object objects) := by
  induction models generalizing malloc objects index with
  | nil => simp [registerVendorModels, reachesModel]
  | cons model models induction =>
      rw [List.forall_mem_cons] at inside
      rw [List.map_cons]
      by_cases same : model.modelId = modelUserData.modelId
      · cases first : malloc 0 with
        | false =>
            rw [reachesModel_of_refused first]
            simp [registerVendorModels, same, first]
        | true =>
            simp only [registerVendorModels, same, first, if_true]
            cases index with
            | zero =>
                have reaches : reachesModel (model.id :: models.map VendorModel.id)
                    modelUserData.modelId malloc 0 = true := by
                  simp [reachesModel, VendorModel.id, same, matching, first]
                rcases registerVendorModels_objects modelUserData
                  (fun call => malloc (call + 1)) models (objects ++ [modelUserData]) with
                  ⟨count, added⟩
                rw [if_pos reaches, added]
                simp [VendorModel.object]
            | succ index =>
                have insideNow : ∀ model ∈ models, ∀ address ∈ model.userData,
                    address < (objects ++ [modelUserData]).length := by
                  intro model member address points
                  rw [List.length_append]
                  exact Nat.lt_add_right _ (inside.2 model member address points)
                have unmoved : models[index]?.bind
                      (VendorModel.object (objects ++ [modelUserData])) =
                    models[index]?.bind (VendorModel.object objects) := by
                  cases present : models[index]? with
                  | none => rfl
                  | some other =>
                      exact object_append (inside.2 other (List.mem_of_getElem? present)) _
                have hasId : model.id.modelId = modelUserData.modelId := same
                rw [List.getElem?_cons_succ, List.getElem?_cons_succ,
                  induction (fun call => malloc (call + 1)) insideNow index, unmoved,
                  reachesModel_cons_succ_of_match hasId first]
      · simp only [registerVendorModels, same, if_false]
        have differs : model.id.modelId ≠ modelUserData.modelId := same
        cases index with
        | zero =>
            have misses : reachesModel (model.id :: models.map VendorModel.id)
                modelUserData.modelId malloc 0 = false := by
              simp [reachesModel, differs]
            rcases registerVendorModels_objects modelUserData malloc models objects with
              ⟨count, added⟩
            rw [misses, added]
            exact object_append inside.1 _
        | succ index =>
            rw [List.getElem?_cons_succ, List.getElem?_cons_succ,
              induction malloc inside.2 index, reachesModel_cons_succ_of_other differs]

/-- Some pointers stay, and the others point to the new objects. -/
theorem registerVendorModels_pointers (modelUserData : VendorUserData Callback Args)
    (malloc : Nat → Bool) (models : List VendorModel)
    (objects : List (VendorUserData Callback Args)) :
    ∃ kept count, kept.Sublist (pointers models) ∧
      (registerVendorModels modelUserData malloc models objects).2.2 =
        objects ++ List.replicate count modelUserData ∧
      (pointers (registerVendorModels modelUserData malloc models objects).2.1).Perm
        (kept ++ List.range' objects.length count) := by
  induction models generalizing malloc objects with
  | nil =>
      refine ⟨[], 0, List.Sublist.refl _, (List.append_nil _).symm, ?_⟩
      exact List.Perm.refl _
  | cons model models induction =>
      have later : (pointers models).Sublist (pointers (model :: models)) :=
        (List.sublist_cons_self model models).filterMap VendorModel.userData
      simp only [registerVendorModels]
      split
      · split
        · rcases induction (fun call => malloc (call + 1)) (objects ++ [modelUserData]) with
            ⟨kept, count, sublist, added, points⟩
          refine ⟨kept, count + 1, sublist.trans later, ?_, ?_⟩
          · rw [added, List.append_assoc, List.replicate_succ]
            rfl
          · rw [List.length_append, List.length_singleton] at points
            rw [List.range'_succ]
            exact (points.cons objects.length).trans List.perm_middle.symm
        · refine ⟨pointers (model :: models), 0, List.Sublist.refl _,
            (List.append_nil _).symm, ?_⟩
          simp [List.Perm.refl]
      · rcases induction malloc objects with ⟨kept, count, sublist, added, points⟩
        cases own : model.userData with
        | none =>
            refine ⟨kept, count, sublist.trans later, added, ?_⟩
            rw [pointers, List.filterMap_cons_none own]
            exact points
        | some address =>
            refine ⟨address :: kept, count, ?_, added, ?_⟩
            · rw [pointers, List.filterMap_cons_some own]
              exact sublist.cons_cons address
            · rw [pointers, List.filterMap_cons_some own]
              exact points.cons address

/-! ## One event -/

def VendorNode.pointers (node : VendorNode Callback Args) : List Nat :=
  node.elements.flatMap Initializer.pointers

/-- The models are those of the composition, and each has its own object, if it has one. No
object has an argument. -/
structure Owned (ids : List (List VendorId)) (node : VendorNode Callback Args) : Prop where
  ids : node.elements.map (fun models => models.map VendorModel.id) = ids
  inside : ∀ address ∈ node.pointers, address < node.objects.length
  distinct : node.pointers.Nodup
  noArgs : ∀ object ∈ node.objects, object.args = none

/-- What an event does to objects and pointers. -/
structure Allocates (before after : VendorNode Callback Args) (kept : List Nat)
    (added : List (VendorUserData Callback Args)) : Prop where
  sublist : kept.Sublist before.pointers
  objects : after.objects = before.objects ++ added
  pointers : after.pointers.Perm (kept ++ List.range' before.objects.length added.length)
  noArgs : ∀ object ∈ added, object.args = none

theorem allocates_nothing {before after : VendorNode Callback Args}
    (elements : after.elements = before.elements) (objects : after.objects = before.objects) :
    Allocates before after before.pointers [] := by
  constructor
  · exact List.Sublist.refl _
  · rw [objects, List.append_nil]
  · rw [VendorNode.pointers, elements]
    simp [VendorNode.pointers]
  · intro object member
    cases member

theorem flatMap_set {Item Entry : Type} {items : List Item} {index : Nat} {item : Item}
    (present : items[index]? = some item) (entries : Item → List Entry) (other : Item) :
    ∃ front back, items.flatMap entries = front ++ entries item ++ back ∧
      (items.set index other).flatMap entries = front ++ entries other ++ back := by
  rcases List.getElem?_eq_some_iff.mp present with ⟨inside, rfl⟩
  refine ⟨(items.take index).flatMap entries, (items.drop (index + 1)).flatMap entries, ?_, ?_⟩
  · have split : items.take index ++ items[index] :: items.drop (index + 1) = items := by
      rw [← List.drop_eq_getElem_cons inside, List.take_append_drop]
    have parts := congrArg (List.flatMap entries) split
    rw [List.flatMap_append, List.flatMap_cons, ← List.append_assoc] at parts
    exact parts.symm
  · rw [List.set_eq_take_append_cons_drop, if_pos inside, List.flatMap_append,
      List.flatMap_cons, List.append_assoc]

theorem allocates_register (node : VendorNode Callback Args)
    (registration : VendorRegistration Callback Args) :
    ∃ kept added, Allocates node (bleMeshRegisterVendorModelUserArgs node registration).2 kept
      added := by
  cases present : node.elements[registration.elementId.toNat]? with
  | none =>
      refine ⟨node.pointers, [], allocates_nothing ?_ ?_⟩ <;>
        simp [bleMeshRegisterVendorModelUserArgs, present]
  | some models =>
      by_cases rejected : registration.modelId = 0
      · refine ⟨node.pointers, [], allocates_nothing ?_ ?_⟩ <;>
          simp [bleMeshRegisterVendorModelUserArgs, present, rejected]
      · have accepted : ¬ (models.length > models.length ∨ 0 = registration.modelId) := by
          simp [eq_comm, rejected]
        rcases registerVendorModels_pointers registration.modelUserData registration.malloc models
          node.objects with ⟨kept, count, sublist, objects, points⟩
        rcases flatMap_set present pointers (registerVendorModels registration.modelUserData
          registration.malloc models node.objects).2.1 with ⟨front, back, before, after⟩
        refine ⟨front ++ kept ++ back, List.replicate count registration.modelUserData, ?_⟩
        simp only [bleMeshRegisterVendorModelUserArgs, present, if_neg accepted]
        constructor
        · rw [VendorNode.pointers, before]
          exact (sublist.append_left front).append_right back
        · exact objects
        · rw [VendorNode.pointers, after, List.length_replicate, List.append_assoc front kept,
            List.append_assoc front, List.append_assoc front]
          apply List.Perm.append_left
          rw [List.append_assoc]
          exact (points.append_right back).trans (by
            rw [List.append_assoc]
            exact List.Perm.append_left kept List.perm_append_comm)
        · intro object member
          rw [List.eq_of_mem_replicate member]
          rfl

theorem allocates_of_step {node next : VendorNode Callback Args}
    {event : VendorEvent Callback Args} (happens : vendorStep node event = some next) :
    ∃ kept added, Allocates node next kept added := by
  cases event with
  | register registration =>
      cases happens
      rcases allocates_register node registration with ⟨kept, added, allocates⟩
      exact ⟨kept, added, allocates.sublist, allocates.objects, allocates.pointers,
        allocates.noArgs⟩
  | operation ref param =>
      rcases Option.map_eq_some_iff.mp happens with ⟨_, _, rfl⟩
      exact ⟨_, _, allocates_nothing rfl rfl⟩
  | publishUpdate ref =>
      rcases Option.map_eq_some_iff.mp happens with ⟨_, _, rfl⟩
      exact ⟨_, _, allocates_nothing rfl rfl⟩

theorem register_ids (node : VendorNode Callback Args)
    (registration : VendorRegistration Callback Args) :
    (bleMeshRegisterVendorModelUserArgs node registration).2.elements.map
        (fun models => models.map VendorModel.id) =
      node.elements.map fun models => models.map VendorModel.id := by
  simp only [bleMeshRegisterVendorModelUserArgs]
  split
  · rfl
  next models present =>
    split
    · rfl
    · rw [List.map_set, registerVendorModels_ids]
      rcases List.getElem?_eq_some_iff.mp present with ⟨inside, rfl⟩
      have unchanged := List.set_getElem_self inside
      exact (List.map_set ..).symm.trans (congrArg _ unchanged)

theorem ids_of_step {node next : VendorNode Callback Args} {event : VendorEvent Callback Args}
    (happens : vendorStep node event = some next) :
    next.elements.map (fun models => models.map VendorModel.id) =
      node.elements.map fun models => models.map VendorModel.id := by
  cases event with
  | register registration =>
      cases happens
      exact register_ids node registration
  | operation ref param =>
      rcases Option.map_eq_some_iff.mp happens with ⟨_, _, rfl⟩
      rfl
  | publishUpdate ref =>
      rcases Option.map_eq_some_iff.mp happens with ⟨_, _, rfl⟩
      rfl

theorem Allocates.inside {before after : VendorNode Callback Args} {kept : List Nat}
    {added : List (VendorUserData Callback Args)} (allocates : Allocates before after kept added)
    (inside : ∀ address ∈ before.pointers, address < before.objects.length) :
    ∀ address ∈ after.pointers, address < after.objects.length := by
  intro address member
  rw [allocates.objects, List.length_append]
  rcases List.mem_append.mp (allocates.pointers.mem_iff.mp member) with old | new
  · exact Nat.lt_add_right _ (inside address (allocates.sublist.subset old))
  · exact (List.mem_range'_1.mp new).2

theorem Allocates.distinct {before after : VendorNode Callback Args} {kept : List Nat}
    {added : List (VendorUserData Callback Args)} (allocates : Allocates before after kept added)
    (inside : ∀ address ∈ before.pointers, address < before.objects.length)
    (distinct : before.pointers.Nodup) : after.pointers.Nodup := by
  apply allocates.pointers.nodup_iff.mpr
  apply List.nodup_append.mpr
  refine ⟨allocates.sublist.nodup distinct, List.nodup_range', ?_⟩
  intro old isOld new isNew
  have below := inside old (allocates.sublist.subset isOld)
  have above := (List.mem_range'_1.mp isNew).1
  omega

theorem owned_initial (ids : List (List VendorId)) :
    Owned ids (VendorNode.initial ids : VendorNode Callback Args) := by
  have none : (VendorNode.initial ids : VendorNode Callback Args).pointers = [] := by
    simp [VendorNode.pointers, VendorNode.initial, pointers]
  constructor
  · simp [VendorNode.initial, VendorModel.id, Function.comp_def]
  · rw [none]
    simp
  · rw [none]
    exact List.nodup_nil
  · intro object member
    cases member

theorem owned_of_step {ids : List (List VendorId)} {node next : VendorNode Callback Args}
    {event : VendorEvent Callback Args} (owned : Owned ids node)
    (happens : vendorStep node event = some next) : Owned ids next := by
  rcases allocates_of_step happens with ⟨kept, added, allocates⟩
  constructor
  · rw [ids_of_step happens]
    exact owned.ids
  · exact allocates.inside owned.inside
  · exact allocates.distinct owned.inside owned.distinct
  · rw [allocates.objects]
    intro object member
    rcases List.mem_append.mp member with old | new
    · exact owned.noArgs object old
    · exact allocates.noArgs object new

/-! ## Objects -/

/-- No two models share an object, no object moves or changes, and none that no model points
to is ever pointed to again. -/
structure ObjectsKept (before after : VendorNode Callback Args) : Prop where
  distinct : after.pointers.Nodup
  inside : ∀ address ∈ after.pointers, address < after.objects.length
  kept : before.objects.IsPrefix after.objects
  lost : ∀ address < before.objects.length, address ∉ before.pointers →
    address ∉ after.pointers

theorem objectsKept_of_step {ids : List (List VendorId)} {node next : VendorNode Callback Args}
    {event : VendorEvent Callback Args} (owned : Owned ids node)
    (happens : vendorStep node event = some next) : ObjectsKept node next := by
  have ownedNext := owned_of_step owned happens
  rcases allocates_of_step happens with ⟨kept, added, allocates⟩
  constructor
  · exact ownedNext.distinct
  · exact ownedNext.inside
  · exact ⟨added, allocates.objects.symm⟩
  · intro address below unreachable member
    rcases List.mem_append.mp (allocates.pointers.mem_iff.mp member) with old | new
    · exact unreachable (allocates.sublist.subset old)
    · exact Nat.not_le_of_lt below (List.mem_range'_1.mp new).1

/-- In every run of registrations and events the models own their objects, and an object
that a later registration has replaced stays allocated and out of reach. -/
theorem vendor_objects_kept (ids : List (List VendorId))
    (events : List (VendorEvent Callback Args)) :
    EveryStep vendorStep (fun before _ after => ObjectsKept before after)
      (VendorNode.initial ids) events := by
  refine everyStep_of_invariant (Owned ids) ?_ ?_ events (owned_initial ids)
  · intro node event next owned happens
    exact owned_of_step owned happens
  · intro node event next owned happens
    exact objectsKept_of_step owned happens

/-! ## The refinement -/

theorem Owned.points_inside {ids : List (List VendorId)} {node : VendorNode Callback Args}
    (owned : Owned ids node) {models : List VendorModel} (present : models ∈ node.elements) :
    ∀ model ∈ models, ∀ address ∈ model.userData, address < node.objects.length := by
  intro model member address points
  apply owned.inside
  apply List.mem_flatMap.mpr
  exact ⟨models, present, List.mem_filterMap.mpr ⟨model, member, points⟩⟩

theorem Owned.ids_eq {ids : List (List VendorId)} {node : VendorNode Callback Args}
    (owned : Owned ids node) (element : Nat) :
    ids[element]? = node.elements[element]?.map fun models => models.map VendorModel.id := by
  rw [← owned.ids, List.getElem?_map]

theorem userData_eq (node : VendorNode Callback Args) (ref : ModelRef) :
    node.userData ref = node.elements[ref.element]?.bind fun models =>
      models[ref.index]?.bind (VendorModel.object node.objects) := by
  rw [VendorNode.userData, VendorNode.model, Option.bind_assoc]
  rfl

theorem Owned.register_code {ids : List (List VendorId)} {node : VendorNode Callback Args}
    (owned : Owned ids node) (registration : VendorRegistration Callback Args) :
    (bleMeshRegisterVendorModelUserArgs node registration).1 = registration.code ids := by
  rw [VendorRegistration.code, owned.ids_eq]
  cases present : node.elements[registration.elementId.toNat]? with
  | none => simp [bleMeshRegisterVendorModelUserArgs, present]
  | some models =>
      by_cases rejected : registration.modelId = 0
      · simp [bleMeshRegisterVendorModelUserArgs, present, rejected]
      · have accepted : ¬ (models.length > models.length ∨ 0 = registration.modelId) := by
          simp [eq_comm, rejected]
        simp only [bleMeshRegisterVendorModelUserArgs, present, if_neg accepted,
          Option.map_some, if_neg rejected]
        exact registerVendorModels_code _ _ _ _

/-- A registration changes the user data of the models that it gets to, and of no others. -/
theorem Owned.register_userData {ids : List (List VendorId)} {node : VendorNode Callback Args}
    (owned : Owned ids node) (registration : VendorRegistration Callback Args) (ref : ModelRef) :
    (bleMeshRegisterVendorModelUserArgs node registration).2.userData ref =
      if registration.reaches ids ref then some registration.modelUserData
      else node.userData ref := by
  rw [VendorRegistration.reaches, owned.ids_eq]
  cases present : node.elements[registration.elementId.toNat]? with
  | none =>
      have unchanged : (bleMeshRegisterVendorModelUserArgs node registration).2 = node := by
        simp [bleMeshRegisterVendorModelUserArgs, present]
      rw [unchanged]
      by_cases here : registration.elementId.toNat = ref.element
      · rw [← here, present]
        simp
      · simp [here]
  | some models =>
      by_cases rejected : registration.modelId = 0
      · simp [bleMeshRegisterVendorModelUserArgs, present, rejected]
      · have accepted : ¬ (models.length > models.length ∨ 0 = registration.modelId) := by
          simp [eq_comm, rejected]
        rw [userData_eq, userData_eq]
        simp only [bleMeshRegisterVendorModelUserArgs, present, if_neg accepted]
        by_cases here : registration.elementId.toNat = ref.element
        · have inside := (List.getElem?_eq_some_iff.mp present).1
          have objects := registerVendorModels_object registration.modelUserData
            registration.malloc
            (owned.points_inside (List.mem_of_getElem? present)) ref.index
          have reaches : (registration.elementId.toNat == registration.elementId.toNat &&
              registration.modelId != 0 &&
              ((some models).map fun models => models.map VendorModel.id).any fun ids =>
                reachesModel ids registration.modelId registration.malloc ref.index) =
              reachesModel (models.map VendorModel.id) registration.modelId
                registration.malloc ref.index := by
            simp [rejected]
          rw [← here, List.getElem?_set_self inside, present, reaches]
          exact objects
        · rcases registerVendorModels_objects registration.modelUserData registration.malloc
            models node.objects with ⟨count, added⟩
          rw [List.getElem?_set_ne here, added]
          have unmoved : ∀ models ∈ node.elements[ref.element]?,
              models[ref.index]?.bind (VendorModel.object
                  (node.objects ++ List.replicate count registration.modelUserData)) =
                models[ref.index]?.bind (VendorModel.object node.objects) := by
            intro models found
            cases there : models[ref.index]? with
            | none => rfl
            | some model =>
                exact object_append (owned.points_inside (List.mem_of_getElem? found) model
                  (List.mem_of_getElem? there)) _
          rw [Option.bind_congr unmoved]
          simp [here]

end BleMesh.Initializer
