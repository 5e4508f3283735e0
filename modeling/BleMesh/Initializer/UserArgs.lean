import BleMesh.Foundation.SlotTable

/-! # The registry of model callbacks

The array `ble_mesh_sig_custom_model_user_args` of `BLE_mesh_initializer.c`, the functions
that put callbacks into it and the handlers of server events that call them. The loop that
looks for a free entry counts bytes, and so it goes on behind the array.
-/

namespace BleMesh.Initializer

open Foundation

variable {Callback Args : Type}

/-! ## Data -/

/-- The entries of `ble_mesh_sig_custom_model_user_args`. -/
def userArgsCount : Nat := 10

/-- `sizeof` the array, whose entries are pointers of four bytes. -/
def sizeofUserArgs : Nat := userArgsCount * 4

/-- `s_custom_model_user_data_struct_t`. The union of model callbacks is one pointer here.
The union `user_data` is left out: it is zeroed and never used. -/
structure CustomModelUserData (Callback Args : Type) where
  elementId : UInt16
  modelId : UInt16
  modelCb : Callback
  modelPublicationCb : Option Callback
  args : Option Args
  deriving DecidableEq

/-- A SIG model of an element. -/
structure SigModel (Args : Type) where
  modelId : UInt16
  userData : Option Args
  deriving DecidableEq

/-- A server event, with the element and the id of the model it is for. -/
structure ServerCall where
  event : Nat
  element : Nat
  modelId : UInt16
  deriving DecidableEq

/-- An access to a word of the array, or to what the pointer in it points to. -/
inductive Access
  | word (index : Nat)
  | pointee (present : Bool)
  deriving DecidableEq

/-- The elements with their SIG models, the array, and which of the words behind the array
are NULL. `accesses` and `invoked` list what has been done so far. -/
structure Registry (Callback Args : Type) where
  elements : List (List (SigModel Args))
  userArgs : SlotTable (CustomModelUserData Callback Args) userArgsCount
  behind : Nat → Bool
  accesses : List Access
  invoked : List (Callback × ServerCall)

/-- Static storage is zeroed. -/
def Registry.initial (elements : List (List (SigModel Args))) : Registry Callback Args where
  elements := elements
  userArgs := SlotTable.empty
  behind := fun _ => true
  accesses := []
  invoked := []

/-! ## Registrations -/

/-- For each word up to the bound of the loop, whether it is NULL. -/
def Registry.nullWords (registry : Registry Callback Args) : List Bool :=
  registry.userArgs.slots.map Option.isNone ++
    (List.range (sizeofUserArgs - userArgsCount)).map registry.behind

/-- The pointer goes into the first word that is NULL, in the array or behind it, or
nowhere. -/
def Registry.store (registry : Registry Callback Args)
    (modelUserData : CustomModelUserData Callback Args) : Registry Callback Args :=
  match registry.nullWords.findIdx? id with
  | none => { registry with
      accesses := registry.accesses ++ (List.range sizeofUserArgs).map .word }
  | some index => { registry with
      userArgs := registry.userArgs.set index (some modelUserData)
      behind := fun word => registry.behind word && userArgsCount + word != index
      accesses := registry.accesses ++ (List.range (index + 1)).map .word }

/-- The loop over the models of the element: the value returned, the models, and the
registry with the new entries. The answers of `malloc` are numbered from 0. -/
def registerModels (modelUserData : CustomModelUserData Callback Args) (args : Option Args) :
    (Nat → Bool) → List (SigModel Args) → Registry Callback Args →
      Int × List (SigModel Args) × Registry Callback Args
  | _, [], registry => (0, [], registry)
  | malloc, model :: models, registry =>
      if model.modelId = modelUserData.modelId then
        if malloc 0 then
          let later := registerModels modelUserData args (fun call => malloc (call + 1)) models
            (registry.store modelUserData)
          (later.1, { model with userData := args } :: later.2.1, later.2.2)
        else (-1, model :: models, registry)
      else
        let later := registerModels modelUserData args malloc models registry
        (later.1, model :: later.2.1, later.2.2)

/-- What the two registrations have in common. -/
def registerSigModelUserArgs (registry : Registry Callback Args) (elementId : UInt16)
    (modelUserData : CustomModelUserData Callback Args) (args : Option Args)
    (malloc : Nat → Bool) : Int × Registry Callback Args :=
  match registry.elements[elementId.toNat]? with
  | none => (-1, registry)
  | some models =>
      let modelSize := models.length
      if modelSize > models.length ∨ 0 = modelUserData.modelId then (-1, registry)
      else
        let result := registerModels modelUserData args malloc models registry
        (result.1,
          { result.2.2 with elements := registry.elements.set elementId.toNat result.2.1 })

def bleMeshRegisterSigLightingModelUserArgs (registry : Registry Callback Args)
    (elementId modelId : UInt16) (modelCallback : Callback) (args : Option Args)
    (malloc : Nat → Bool) : Int × Registry Callback Args :=
  registerSigModelUserArgs registry elementId
    { elementId := 0
      modelId
      modelCb := modelCallback
      modelPublicationCb := none
      args := none } args malloc

def bleMeshRegisterSigGenericModelUserArgs (registry : Registry Callback Args)
    (elementId modelId : UInt16) (modelCallback : Callback) (pubCallback : Option Callback)
    (args : Option Args) (malloc : Nat → Bool) : Int × Registry Callback Args :=
  registerSigModelUserArgs registry elementId
    { elementId := 0
      modelId
      modelCb := modelCallback
      modelPublicationCb := pubCallback
      args := none } args malloc

/-! ## Server events -/

/-- One pass of the loop in the handlers. -/
def callEntry (call : ServerCall) (registry : Registry Callback Args) (index : Nat) :
    Registry Callback Args :=
  let registry := { registry with accesses := registry.accesses ++ [Access.word index] }
  match registry.userArgs.get index with
  | none => registry
  | some modelUserArgs =>
      let registry := { registry with accesses := registry.accesses ++ [Access.pointee true] }
      if modelUserArgs.modelId = call.modelId then
        { registry with invoked := registry.invoked ++ [(modelUserArgs.modelCb, call)] }
      else registry

/-- The body of both handlers. -/
def callEntries (registry : Registry Callback Args) (call : ServerCall) :
    Registry Callback Args :=
  (List.range userArgsCount).foldl (callEntry call) registry

def bleMeshGenericModelCb (registry : Registry Callback Args) (call : ServerCall) :
    Registry Callback Args :=
  callEntries registry call

def espBleMeshLightingModelCb (registry : Registry Callback Args) (call : ServerCall) :
    Registry Callback Args :=
  callEntries registry call

/-! ## What the functions do -/

/-- The callbacks that the array has for a model id. -/
def Registry.callbacks (registry : Registry Callback Args) (modelId : UInt16) : List Callback :=
  (registry.userArgs.entries.filter fun held => held.modelId == modelId).map
    CustomModelUserData.modelCb

/-- The number of SIG models with the id on an element. -/
def Registry.instances (registry : Registry Callback Args) (element : Nat)
    (modelId : UInt16) : Nat :=
  match registry.elements[element]? with
  | none => 0
  | some models => models.countP fun model => model.modelId == modelId

/-- How many of a number of allocations in a row are granted before one is refused. -/
def granted : (Nat → Bool) → Nat → Nat
  | _, 0 => 0
  | malloc, count + 1 => if malloc 0 then granted (fun call => malloc (call + 1)) count + 1 else 0

theorem callEntry_of_none {registry : Registry Callback Args} {index : Nat}
    (free : registry.userArgs.get index = none) (call : ServerCall) :
    (callEntry call registry index).invoked = registry.invoked := by
  simp [callEntry, free]

@[simp] theorem callEntry_userArgs (call : ServerCall) (registry : Registry Callback Args)
    (index : Nat) : (callEntry call registry index).userArgs = registry.userArgs := by
  simp only [callEntry]
  split
  · rfl
  · split <;> rfl

/-- A loop over some entries calls those of them that have the model id. -/
theorem foldl_callEntry_invoked (call : ServerCall) (indices : List Nat)
    (registry : Registry Callback Args) :
    (indices.foldl (callEntry call) registry).invoked =
      registry.invoked ++
        ((indices.filterMap registry.userArgs.get).filter fun held =>
          held.modelId == call.modelId).map fun held => (held.modelCb, call) := by
  induction indices generalizing registry with
  | nil => simp
  | cons index indices induction =>
      rw [List.foldl_cons, induction, callEntry_userArgs]
      cases held : registry.userArgs.get index with
      | none => rw [callEntry_of_none held, List.filterMap_cons_none held]
      | some modelUserArgs =>
          rw [List.filterMap_cons_some held]
          by_cases same : modelUserArgs.modelId = call.modelId <;>
            simp [callEntry, held, same]

/-- A handler calls the callbacks for the id of the model, in the order of the array. -/
theorem callEntries_invoked (registry : Registry Callback Args) (call : ServerCall) :
    (callEntries registry call).invoked =
      registry.invoked ++ (registry.callbacks call.modelId).map fun callback =>
        (callback, call) := by
  rw [callEntries, foldl_callEntry_invoked, SlotTable.filterMap_get, Registry.callbacks,
    List.map_map]
  rfl

/-! ## Storing -/

variable {registry : Registry Callback Args} {held : List (CustomModelUserData Callback Args)}

/-- The first NULL word comes right after the entries, or somewhere behind the array. -/
theorem Registry.findIdx?_nullWords (filled : registry.userArgs.FilledBy held) :
    registry.nullWords.findIdx? id =
      if held.length < userArgsCount then some held.length
      else (((List.range (sizeofUserArgs - userArgsCount)).map registry.behind).findIdx? id).map
        fun word => word + userArgsCount := by
  have words : registry.userArgs.slots.map Option.isNone =
      List.replicate held.length false ++
        List.replicate (userArgsCount - held.length) true := by
    simp [filled.slots_eq, Function.comp_def]
  rw [Registry.nullWords, words, List.append_assoc]
  split
  next room =>
    rcases Nat.exists_eq_add_of_lt room with ⟨spare, countEq⟩
    have spareEq : userArgsCount - held.length = spare + 1 := by omega
    simp [List.findIdx?_append, List.findIdx?_replicate, spareEq, List.replicate_succ,
      List.findIdx?_cons]
  next full =>
    have all : held.length = userArgsCount :=
      Nat.le_antisymm filled.length_le (Nat.le_of_not_lt full)
    simp [List.findIdx?_append, List.findIdx?_replicate, all]

/-- A full array is left alone. -/
theorem Registry.store_filled (filled : registry.userArgs.FilledBy held)
    (modelUserData : CustomModelUserData Callback Args) :
    (registry.store modelUserData).userArgs.FilledBy
      (if held.length < userArgsCount then held ++ [modelUserData] else held) := by
  have found := Registry.findIdx?_nullWords filled
  split
  next room =>
    rw [if_pos room] at found
    rw [Registry.store, found]
    exact filled.set_append room modelUserData
  next full =>
    rw [if_neg full] at found
    rw [Registry.store, found]
    cases behind : ((List.range (sizeofUserArgs - userArgsCount)).map
        registry.behind).findIdx? id with
    | none => exact filled
    | some word =>
        rw [Option.map_some]
        dsimp only
        rw [SlotTable.set_of_le _ (Nat.le_add_left _ _)]
        exact filled

/-! ## What a registration does -/

/-- Only the user data of models is written. -/
theorem registerModels_modelIds (modelUserData : CustomModelUserData Callback Args)
    (args : Option Args) (malloc : Nat → Bool) (models : List (SigModel Args))
    (registry : Registry Callback Args) :
    (registerModels modelUserData args malloc models registry).2.1.map SigModel.modelId =
      models.map SigModel.modelId := by
  induction models generalizing malloc registry with
  | nil => rfl
  | cons model models induction =>
      simp only [registerModels]
      split
      · split
        · simp [induction]
        · rfl
      · simp [induction]

/-- The answer is 0 if every allocation is granted. -/
theorem registerModels_code (modelUserData : CustomModelUserData Callback Args)
    (args : Option Args) (malloc : Nat → Bool) (models : List (SigModel Args))
    (registry : Registry Callback Args) :
    (registerModels modelUserData args malloc models registry).1 =
      if granted malloc (models.countP fun model => model.modelId == modelUserData.modelId) =
          models.countP fun model => model.modelId == modelUserData.modelId
      then 0 else -1 := by
  induction models generalizing malloc registry with
  | nil => rfl
  | cons model models induction =>
      by_cases same : model.modelId = modelUserData.modelId
      · cases first : malloc 0 with
        | true => simp [registerModels, same, first, granted, induction]
        | false => simp [registerModels, same, first, granted]
      · simp [registerModels, same, induction]

/-- One more entry to store is one more copy, if there is room for it. -/
theorem append_replicate_of_store {α : Type} (held : List α) (entry : α)
    (capacity count : Nat) :
    (if held.length < capacity then held ++ [entry] else held) ++
        List.replicate (min count (capacity -
          (if held.length < capacity then held ++ [entry] else held).length)) entry =
      held ++ List.replicate (min (count + 1) (capacity - held.length)) entry := by
  split
  next room =>
    have copies : min (count + 1) (capacity - held.length) =
        min count (capacity - (held ++ [entry]).length) + 1 := by
      rw [List.length_append, List.length_singleton]
      omega
    rw [copies, List.replicate_succ, List.append_assoc, List.singleton_append]
  next full =>
    have noRoom : capacity - held.length = 0 := by omega
    rw [noRoom, Nat.min_zero, Nat.min_zero]

/-- One entry for each allocation that is granted, as long as there is room. -/
theorem registerModels_filled (filled : registry.userArgs.FilledBy held)
    (modelUserData : CustomModelUserData Callback Args) (args : Option Args)
    (malloc : Nat → Bool) (models : List (SigModel Args)) :
    (registerModels modelUserData args malloc models registry).2.2.userArgs.FilledBy
      (held ++ List.replicate
        (min (granted malloc
            (models.countP fun model => model.modelId == modelUserData.modelId))
          (userArgsCount - held.length)) modelUserData) := by
  induction models generalizing malloc registry held with
  | nil => simpa [registerModels, granted] using filled
  | cons model models induction =>
      by_cases same : model.modelId = modelUserData.modelId
      · cases first : malloc 0 with
        | true =>
            have later := induction (registry.store_filled filled modelUserData)
              (fun call => malloc (call + 1))
            rw [append_replicate_of_store] at later
            simpa [registerModels, same, first, granted] using later
        | false => simpa [registerModels, same, first, granted] using filled
      · simpa [registerModels, same] using induction filled malloc

theorem registerSigModelUserArgs_of_rejected {elementId : UInt16}
    {modelUserData : CustomModelUserData Callback Args}
    (rejected : registry.elements[elementId.toNat]? = none ∨ modelUserData.modelId = 0)
    (args : Option Args) (malloc : Nat → Bool) :
    registerSigModelUserArgs registry elementId modelUserData args malloc = (-1, registry) := by
  rw [registerSigModelUserArgs]
  rcases rejected with noElement | noModel
  · rw [noElement]
  · cases registry.elements[elementId.toNat]? with
    | none => rfl
    | some models => simp [noModel]

theorem registerSigModelUserArgs_of_accepted {elementId : UInt16}
    {modelUserData : CustomModelUserData Callback Args} {models : List (SigModel Args)}
    (element : registry.elements[elementId.toNat]? = some models)
    (accepted : modelUserData.modelId ≠ 0) (args : Option Args) (malloc : Nat → Bool) :
    registerSigModelUserArgs registry elementId modelUserData args malloc =
      ((registerModels modelUserData args malloc models registry).1,
        { (registerModels modelUserData args malloc models registry).2.2 with
          elements := registry.elements.set elementId.toNat
            (registerModels modelUserData args malloc models registry).2.1 }) := by
  simp [registerSigModelUserArgs, element, accepted.symm]

theorem instances_of_element {element : Nat} {models : List (SigModel Args)}
    (present : registry.elements[element]? = some models) (modelId : UInt16) :
    registry.instances element modelId =
      (models.map SigModel.modelId).countP fun other => other == modelId := by
  rw [Registry.instances, present, List.countP_map]
  rfl

/-- No model is added or removed. -/
theorem registerSigModelUserArgs_instances (registry : Registry Callback Args)
    (elementId : UInt16) (modelUserData : CustomModelUserData Callback Args)
    (args : Option Args) (malloc : Nat → Bool) (element : Nat) (modelId : UInt16) :
    (registerSigModelUserArgs registry elementId modelUserData args malloc).2.instances element
      modelId = registry.instances element modelId := by
  cases present : registry.elements[elementId.toNat]? with
  | none => rw [registerSigModelUserArgs_of_rejected (Or.inl present)]
  | some models =>
      by_cases noModel : modelUserData.modelId = 0
      · rw [registerSigModelUserArgs_of_rejected (Or.inr noModel)]
      rw [registerSigModelUserArgs_of_accepted present noModel]
      by_cases same : elementId.toNat = element
      · subst same
        have inside := (List.getElem?_eq_some_iff.mp present).1
        rw [instances_of_element present, instances_of_element (List.getElem?_set_self inside),
          registerModels_modelIds]
      · simp only [Registry.instances]
        rw [List.getElem?_set_ne same]

end BleMesh.Initializer
