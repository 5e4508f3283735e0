import BleMesh.Foundation.FirstMatch
import BleMesh.Initializer.TableAccess

/-! # Start-up of the light server

`BLE_mesh_light_lightness_server_initialize` registers ten callbacks, as many as the array
has entries, and hands each model the object of its server. What comes after it are events of
the stack.
-/

namespace BleMesh.Initializer

open Foundation Foundation.Execution

variable {Callback Args : Type}

/-! ## Registrations for single models -/

/-- What the user data of a model points to. The stack takes the first model with the id. -/
def Registry.userData (registry : Registry Callback Args) (element : Nat) (modelId : UInt16) :
    Option Args :=
  match registry.elements[element]? with
  | none => none
  | some models =>
      (models.find? fun model => model.modelId == modelId).bind SigModel.userData

/-- The answer of `malloc` for the only model of the registration. -/
def RegistrationCall.stored (call : RegistrationCall Callback Args) : Bool :=
  call.malloc 0

def Registration.isFor (registration : Registration Callback Args) (element : Nat)
    (modelId : UInt16) : Bool :=
  registration.elementId.toNat == element && registration.modelId == modelId

/-- The element of the registration has one model with the id. -/
def FindsOne (elements : List (List (SigModel Args)))
    (registration : Registration Callback Args) : Prop :=
  registration.modelId ≠ 0 ∧
    (Registry.initial elements : Registry Callback Args).instances
      registration.elementId.toNat registration.modelId = 1

/-- After some registrations, no events, of models that had nothing registered before. -/
structure StartedWith (elements : List (List (SigModel Args)))
    (served : Served Callback Args) (registrations : List (Registration Callback Args)) :
    Prop where
  filled : served.session.registry.userArgs.FilledBy
    (registrations.map Registration.modelUserData)
  instances : served.session.registry.instances =
    (Registry.initial elements : Registry Callback Args).instances
  userData : ∀ element modelId, served.session.registry.userData element modelId =
    (registrations.find? fun registration => registration.isFor element modelId).elim
      ((Registry.initial elements : Registry Callback Args).userData element modelId)
      Registration.args
  invoked : served.session.registry.invoked = []
  published : served.published = []

theorem startedWith_initial (elements : List (List (SigModel Args))) :
    StartedWith elements (Served.initial elements : Served Callback Args) [] where
  filled := SlotTable.filledBy_empty
  instances := rfl
  userData := fun _ _ => rfl
  invoked := rfl
  published := rfl

theorem granted_one (malloc : Nat → Bool) : granted malloc 1 = (malloc 0).toNat := by
  cases first : malloc 0 <;> simp [granted, first]

@[simp] theorem store_invoked (registry : Registry Callback Args)
    (modelUserData : CustomModelUserData Callback Args) :
    (registry.store modelUserData).invoked = registry.invoked := by
  rw [Registry.store]
  split <;> rfl

theorem registerModels_invoked (modelUserData : CustomModelUserData Callback Args)
    (args : Option Args) (malloc : Nat → Bool) (models : List (SigModel Args))
    (registry : Registry Callback Args) :
    (registerModels modelUserData args malloc models registry).2.2.invoked =
      registry.invoked := by
  induction models generalizing malloc registry with
  | nil => rfl
  | cons model models induction =>
      simp only [registerModels]
      split
      · split
        · rw [induction, store_invoked]
        · rfl
      · exact induction malloc registry

theorem register_invoked (registry : Registry Callback Args)
    (registration : Registration Callback Args) (malloc : Nat → Bool) :
    (registry.register registration malloc).2.invoked = registry.invoked := by
  rw [register_eq]
  cases present : registry.elements[registration.elementId.toNat]? with
  | none => rw [registerSigModelUserArgs_of_rejected (Or.inl present)]
  | some models =>
      by_cases rejected : registration.modelUserData.modelId = 0
      · rw [registerSigModelUserArgs_of_rejected (Or.inr rejected)]
      · rw [registerSigModelUserArgs_of_accepted present rejected]
        exact registerModels_invoked _ _ malloc models registry

theorem registerModels_of_absent {modelUserData : CustomModelUserData Callback Args}
    {models : List (SigModel Args)}
    (absent : ∀ model ∈ models, model.modelId ≠ modelUserData.modelId) (args : Option Args)
    (malloc : Nat → Bool) (registry : Registry Callback Args) :
    registerModels modelUserData args malloc models registry = (0, models, registry) := by
  induction models with
  | nil => rfl
  | cons model models induction =>
      rw [List.forall_mem_cons] at absent
      simp [registerModels, absent.1, induction absent.2]

/-- A single model gets the user data, if the allocation is granted. -/
theorem registerModels_models {modelUserData : CustomModelUserData Callback Args}
    {models : List (SigModel Args)}
    (single : (models.countP fun model => model.modelId == modelUserData.modelId) = 1)
    (args : Option Args) (malloc : Nat → Bool) (registry : Registry Callback Args) :
    (registerModels modelUserData args malloc models registry).2.1 =
      models.map fun model =>
        if malloc 0 ∧ model.modelId = modelUserData.modelId then { model with userData := args }
        else model := by
  induction models generalizing registry with
  | nil => rfl
  | cons model models induction =>
      by_cases same : model.modelId = modelUserData.modelId
      · have absent : ∀ other ∈ models, other.modelId ≠ modelUserData.modelId := by
          simpa [List.countP_cons, same] using single
        have unchanged : models.map (fun other =>
            if malloc 0 ∧ other.modelId = modelUserData.modelId then
              { other with userData := args } else other) = models := by
          rw [List.map_congr_left fun other member => if_neg fun both => absent other member both.2,
            List.map_id']
        rw [List.map_cons, unchanged]
        cases first : malloc 0 <;>
          simp [registerModels, same, first, registerModels_of_absent absent]
      · have later : (models.countP fun model => model.modelId == modelUserData.modelId) = 1 := by
          simpa [List.countP_cons, same] using single
        simp [registerModels, same, induction later]

theorem userData_of_element {registry : Registry Callback Args} {element : Nat}
    {models : List (SigModel Args)} (present : registry.elements[element]? = some models)
    (modelId : UInt16) :
    registry.userData element modelId =
      (models.find? fun model => model.modelId == modelId).bind SigModel.userData := by
  rw [Registry.userData, present]

/-- After a registration for a single model its user data is what was registered, if the
allocation was granted. -/
theorem register_userData {registry : Registry Callback Args}
    {registration : Registration Callback Args} (accepted : registration.modelId ≠ 0)
    (single : registry.instances registration.elementId.toNat registration.modelId = 1)
    (malloc : Nat → Bool) (element : Nat) (modelId : UInt16) :
    (registry.register registration malloc).2.userData element modelId =
      if malloc 0 ∧ registration.isFor element modelId then registration.args
      else registry.userData element modelId := by
  rw [register_eq]
  cases present : registry.elements[registration.elementId.toNat]? with
  | none => simp [Registry.instances, present] at single
  | some models =>
      rw [Registry.instances, present] at single
      rw [registerSigModelUserArgs_of_accepted present accepted,
        registerModels_models single registration.args]
      by_cases here : registration.elementId.toNat = element
      · subst here
        have inside := (List.getElem?_eq_some_iff.mp present).1
        have sameIds : ((fun model : SigModel Args => model.modelId == modelId) ∘ fun model =>
            if malloc 0 ∧ model.modelId = registration.modelUserData.modelId then
              { model with userData := registration.args } else model) =
            fun model => model.modelId == modelId := by
          funext model
          simp only [Function.comp_def]
          split <;> rfl
        rw [userData_of_element (List.getElem?_set_self inside), userData_of_element present,
          List.find?_map, sameIds]
        cases found : models.find? fun model => model.modelId == modelId with
        | none =>
            have other : registration.modelId ≠ modelId := by
              intro same
              have absent : (models.countP fun model => model.modelId == registration.modelId) = 0 :=
                List.countP_eq_zero.mpr (same ▸ List.find?_eq_none.mp found)
              exact absurd (absent.symm.trans single) Nat.zero_ne_one
            simp [Registration.isFor, other]
        | some model =>
            have same : model.modelId = modelId := by simpa using List.find?_some found
            have entry : registration.modelUserData.modelId = registration.modelId := rfl
            have forModel : registration.isFor registration.elementId.toNat modelId = true ↔
                model.modelId = registration.modelId := by
              rw [Registration.isFor, beq_self_eq_true, Bool.true_and, beq_iff_eq, same]
              exact eq_comm
            rw [Option.map_some, Option.bind_some, Option.bind_some, entry]
            simp only [forModel]
            split <;> rfl
      · simp only [Registry.userData]
        rw [List.getElem?_set_ne here]
        simp [Registration.isFor, here]

theorem modelId_of_isFor {registration : Registration Callback Args} {element : Nat}
    {modelId : UInt16} (forModel : registration.isFor element modelId = true) :
    registration.modelId = modelId := by
  rw [Registration.isFor, Bool.and_eq_true] at forModel
  exact beq_iff_eq.mp forModel.2

theorem startedWith_of_register {elements : List (List (SigModel Args))}
    {served : Served Callback Args} {registrations : List (Registration Callback Args)}
    (started : StartedWith elements served registrations)
    {call : RegistrationCall Callback Args} (findsOne : FindsOne elements call.registration)
    (room : registrations.length < userArgsCount)
    (fresh : call.registration.modelId ∉ registrations.map Registration.modelId) :
    ∃ next, initializerStep served (.register call) = some next ∧
      StartedWith elements next
        (registrations ++ if call.stored then [call.registration] else []) := by
  have single : (served.session.before call).instances call.registration.elementId.toNat
      call.registration.modelId = 1 := by
    rw [← findsOne.2, ← started.instances]
    rfl
  have filledNow : (served.session.before call).userArgs.FilledBy
      (registrations.map Registration.modelUserData) := started.filled
  refine ⟨_, rfl, ?_⟩
  constructor
  · have stored := register_filled filledNow call.registration findsOne.1 call.malloc
    have roomNow : (call.malloc 0).toNat ≤
        userArgsCount - (registrations.map Registration.modelUserData).length := by
      rw [List.length_map]
      exact Nat.le_trans (Bool.toNat_le _) (Nat.le_sub_of_add_le' room)
    rw [single, granted_one, Nat.min_eq_left roomNow] at stored
    rw [List.map_append]
    cases first : call.malloc 0 <;> rw [first] at stored <;>
      simpa [RegistrationCall.stored, first, List.replicate, Session.answer] using stored
  · rw [← started.instances]
    funext element modelId
    simp only [Session.answer]
    rw [register_eq, registerSigModelUserArgs_instances]
    rfl
  · intro element modelId
    simp only [Session.answer]
    rw [register_userData findsOne.1 single]
    have before : (served.session.before call).userData element modelId =
        served.session.registry.userData element modelId := rfl
    rw [before, started.userData, List.find?_append]
    cases first : call.malloc 0 with
    | false => simp [RegistrationCall.stored, first]
    | true =>
        cases forModel : call.registration.isFor element modelId with
        | false => simp [RegistrationCall.stored, first, forModel]
        | true =>
            have none : registrations.find? (fun registration =>
                registration.isFor element modelId) = none := by
              rw [List.find?_eq_none]
              intro registration member earlier
              have sameIds := (modelId_of_isFor earlier).trans (modelId_of_isFor forModel).symm
              exact fresh (sameIds ▸ List.mem_map_of_mem member)
            simp [RegistrationCall.stored, first, forModel, none]
  · simp only [Session.answer]
    rw [register_invoked]
    exact started.invoked
  · exact started.published

/-- The registration of a single model stays in the array while there is room. -/
theorem staysInTable_of_startedWith {elements : List (List (SigModel Args))}
    {served : Served Callback Args} {registrations : List (Registration Callback Args)}
    (started : StartedWith elements served registrations)
    {call : RegistrationCall Callback Args} (findsOne : FindsOne elements call.registration)
    (room : registrations.length < userArgsCount) : StaysInTable served (.register call) := by
  intro _
  have single : served.session.registry.instances call.registration.elementId.toNat
      call.registration.modelId = 1 := by
    rw [started.instances, findsOne.2]
  rw [grants, single, granted_one, started.filled.room_eq, List.length_map]
  exact Nat.le_trans (Bool.toNat_le _) (Nat.le_sub_of_add_le' room)

/-- Registrations of single models with different ids, no more than the array has entries,
leave what was given memory, in their order. -/
theorem startedWith_of_registers {elements : List (List (SigModel Args))}
    {calls : List (RegistrationCall Callback Args)} {served : Served Callback Args}
    {registrations : List (Registration Callback Args)}
    (started : StartedWith elements served registrations)
    (findOne : ∀ call ∈ calls, FindsOne elements call.registration)
    (fit : registrations.length + calls.length ≤ userArgsCount)
    (distinct : ((registrations ++ calls.map RegistrationCall.registration).map
      Registration.modelId).Nodup) :
    ∃ final, run initializerStep served (calls.map .register) = some final ∧
      StartedWith elements final
        (registrations ++ (calls.filter RegistrationCall.stored).map
          RegistrationCall.registration) ∧
      ∀ performed ∈ taken initializerStep served (calls.map .register),
        StaysInTable performed.1 performed.2 := by
  induction calls generalizing served registrations with
  | nil =>
      refine ⟨served, rfl, ?_, by simp⟩
      simpa using started
  | cons call calls induction =>
      rw [List.forall_mem_cons] at findOne
      rw [List.length_cons] at fit
      have room : registrations.length < userArgsCount := by omega
      have fresh : call.registration.modelId ∉ registrations.map Registration.modelId := by
        intro member
        rw [List.map_append, List.nodup_append] at distinct
        exact distinct.2.2 _ member _ (by simp) rfl
      rcases startedWith_of_register started findOne.1 room fresh with
        ⟨next, happens, startedNext⟩
      have later : ((registrations ++ if call.stored then [call.registration] else []) ++
          calls.map RegistrationCall.registration).Sublist
          (registrations ++ (call :: calls).map RegistrationCall.registration) := by
        rw [List.append_assoc, List.map_cons]
        refine List.Sublist.append_left ?_ _
        split
        · exact List.Sublist.refl _
        · exact List.sublist_cons_self _ _
      have fitNext : (registrations ++ if call.stored then [call.registration] else []).length +
          calls.length ≤ userArgsCount := by
        rw [List.length_append]
        split <;> simp <;> omega
      rcases induction startedNext findOne.2 fitNext ((later.map _).nodup distinct) with
        ⟨final, runs, startedFinal, stay⟩
      refine ⟨final, ?_, ?_, ?_⟩
      · rw [List.map_cons, run_cons_eq_some_iff]
        exact ⟨next, happens, runs⟩
      · cases stored : call.stored <;> simpa [stored] using startedFinal
      · rw [List.map_cons, taken_cons_of_step happens, List.forall_mem_cons]
        exact ⟨staysInTable_of_startedWith started findOne.1 room, stay⟩

/-! ## Events of the stack -/

/-- What happens after start-up. -/
inductive StackEvent (Callback Args : Type)
  | generic (call : ServerCall)
  | lighting (call : ServerCall)
  | publishUpdate (model : PublishingModel Callback Args)

def StackEvent.toInitializerEvent : StackEvent Callback Args → InitializerEvent Callback Args
  | .generic call => .generic call
  | .lighting call => .lighting call
  | .publishUpdate model => .publishUpdate model

/-- The registration for a model id among those that were given memory. -/
def registrationFor (registrations : List (Registration Callback Args)) (modelId : UInt16) :
    Option (Registration Callback Args) :=
  registrations.find? fun registration => registration.modelId == modelId

/-- An event for a model is for the callback registered for it. -/
def StackEvent.calls (registrations : List (Registration Callback Args)) :
    StackEvent Callback Args → List (Callback × ServerCall)
  | .generic call | .lighting call =>
      (registrationFor registrations call.modelId).toList.map fun registration =>
        (registration.modelCallback, call)
  | .publishUpdate _ => []

/-- The call of the publication callback in some user data, if there is one. -/
def CustomModelUserData.publication (modelUserArgs : CustomModelUserData Callback Args)
    (model : PublishingModel Callback Args) : Option (Publication Callback Args) :=
  modelUserArgs.modelPublicationCb.map fun callback =>
    { callback, model, args := modelUserArgs.args }

/-- A publish update of a SIG model is for the publication callback registered for it, that
of a vendor model for the one in its own user data. -/
def StackEvent.publications (registrations : List (Registration Callback Args)) :
    StackEvent Callback Args → List (Publication Callback Args)
  | .generic _ | .lighting _ => []
  | .publishUpdate model =>
      let modelUserArgs :=
        if model.isSig then
          (registrationFor registrations model.modelId).map Registration.modelUserData
        else model.userData
      (modelUserArgs.bind fun modelUserArgs => modelUserArgs.publication model).toList

theorem publish_published (served : Served Callback Args) (model : PublishingModel Callback Args)
    (modelUserArgs : CustomModelUserData Callback Args) :
    (served.publish model modelUserArgs).published =
      served.published ++ (modelUserArgs.publication model).toList := by
  rw [Served.publish, CustomModelUserData.publication]
  cases modelUserArgs.modelPublicationCb with
  | none => exact (List.append_nil _).symm
  | some callback => rfl

/-- The loop of a publish update calls what it has found. -/
theorem publishFromTable_published (served : Served Callback Args)
    (model : PublishingModel Callback Args) {held : List (CustomModelUserData Callback Args)}
    (filled : served.session.registry.userArgs.FilledBy held) :
    (publishFromTable served model).published =
      served.published ++ ((held.find? fun modelUserArgs =>
        modelUserArgs.modelId == model.modelId).bind fun modelUserArgs =>
          modelUserArgs.publication model).toList := by
  rw [← filled.scan_entry, publishFromTable]
  cases stop : served.session.registry.userArgs.scan fun modelUserArgs =>
      modelUserArgs.modelId == model.modelId with
  | held index =>
      dsimp only
      have read : served.session.registry.userArgs.slots[index]?.join =
        served.session.registry.userArgs.get index := rfl
      rw [SlotTable.Position.entry, read]
      cases served.session.registry.userArgs.get index with
      | none => exact (List.append_nil _).symm
      | some modelUserArgs =>
          rw [publish_published]
          rfl
  | free index => exact (List.append_nil _).symm
  | full => exact (List.append_nil _).symm

/-- A publish update of a SIG model finds a registration for it, or an array without a
NULL. -/
def StackEvent.StaysWith (registrations : List (Registration Callback Args)) :
    StackEvent Callback Args → Prop
  | .generic _ | .lighting _ => True
  | .publishUpdate model =>
      model.isSig = true →
        model.modelId ∈ registrations.map Registration.modelId ∨
          registrations.length = userArgsCount

instance (registrations : List (Registration Callback Args)) :
    DecidablePred (StackEvent.StaysWith registrations)
  | .generic _ => isTrue trivial
  | .lighting _ => isTrue trivial
  | .publishUpdate _ => inferInstanceAs (Decidable (_ → _ ∨ _))

theorem find?_modelUserData (registrations : List (Registration Callback Args))
    (modelId : UInt16) :
    (registrations.map Registration.modelUserData).find? (fun modelUserArgs =>
        modelUserArgs.modelId == modelId) =
      (registrationFor registrations modelId).map Registration.modelUserData := by
  rw [List.find?_map]
  rfl

theorem callbacks_of_registrations {registry : Registry Callback Args}
    {registrations : List (Registration Callback Args)}
    (filled : registry.userArgs.FilledBy (registrations.map Registration.modelUserData))
    (distinct : (registrations.map Registration.modelId).Nodup) (modelId : UInt16) :
    registry.callbacks modelId =
      (registrationFor registrations modelId).toList.map Registration.modelCallback := by
  have distinctHeld : ((registrations.map Registration.modelUserData).map
      CustomModelUserData.modelId).Nodup := by
    rw [List.map_map]
    exact distinct
  rw [callbacks_of_filled filled, filter_key_eq_find? distinctHeld, find?_modelUserData]
  cases registrationFor registrations modelId <;> rfl

theorem callEntries_elements (registry : Registry Callback Args) (call : ServerCall) :
    (callEntries registry call).elements = registry.elements := by
  rw [callEntries]
  induction List.range userArgsCount generalizing registry with
  | nil => rfl
  | cons index indices induction =>
      rw [List.foldl_cons, induction]
      simp only [callEntry]
      split
      · rfl
      · split <;> rfl

theorem callEntries_of_registrations {registry : Registry Callback Args}
    {registrations : List (Registration Callback Args)}
    (filled : registry.userArgs.FilledBy (registrations.map Registration.modelUserData))
    (distinct : (registrations.map Registration.modelId).Nodup) (call : ServerCall) :
    (callEntries registry call).invoked =
      registry.invoked ++ (registrationFor registrations call.modelId).toList.map
        fun registration => (registration.modelCallback, call) := by
  rw [callEntries_invoked, callbacks_of_registrations filled distinct, List.map_map]
  rfl

theorem publishUpdate_elements (served : Served Callback Args)
    (model : PublishingModel Callback Args) :
    (bleMeshCustomModelCbPublishUpdate served model).session.registry.elements =
        served.session.registry.elements ∧
      (bleMeshCustomModelCbPublishUpdate served model).session.registry.invoked =
        served.session.registry.invoked := by
  simp only [bleMeshCustomModelCbPublishUpdate, publishFromTable]
  repeat' split
  all_goals simp [Served.withRegistry, Registry.logAccesses]

theorem publishUpdate_published (served : Served Callback Args)
    (model : PublishingModel Callback Args)
    {registrations : List (Registration Callback Args)}
    (filled : served.session.registry.userArgs.FilledBy
      (registrations.map Registration.modelUserData)) :
    (bleMeshCustomModelCbPublishUpdate served model).published =
      served.published ++ (StackEvent.publishUpdate model).publications registrations := by
  rw [bleMeshCustomModelCbPublishUpdate, StackEvent.publications]
  cases model.isSig with
  | true =>
      rw [if_pos rfl, if_pos rfl, publishFromTable_published served model filled,
        find?_modelUserData]
  | false =>
      rw [if_neg (by decide), if_neg (by decide)]
      cases model.userData with
      | none => exact (List.append_nil _).symm
      | some modelUserArgs => exact publish_published served model modelUserArgs

/-- What an event does after registrations for different model ids. -/
structure Serves (registrations : List (Registration Callback Args))
    (served : Served Callback Args) (event : StackEvent Callback Args)
    (next : Served Callback Args) : Prop where
  userArgs : next.session.registry.userArgs = served.session.registry.userArgs
  elements : next.session.registry.elements = served.session.registry.elements
  invoked : next.session.registry.invoked =
    served.session.registry.invoked ++ event.calls registrations
  published : next.published = served.published ++ event.publications registrations

/-- Both handlers of server events do the same. -/
theorem serves_callEntries {registrations : List (Registration Callback Args)}
    {served : Served Callback Args} {event : StackEvent Callback Args} {call : ServerCall}
    (filled : served.session.registry.userArgs.FilledBy
      (registrations.map Registration.modelUserData))
    (distinct : (registrations.map Registration.modelId).Nodup)
    (isServer : event = .generic call ∨ event = .lighting call) :
    Serves registrations served event
      (served.withRegistry (callEntries served.session.registry call)) := by
  have calls : event.calls registrations =
      (registrationFor registrations call.modelId).toList.map fun registration =>
        (registration.modelCallback, call) := by
    rcases isServer with rfl | rfl <;> rfl
  have publications : event.publications registrations = [] := by
    rcases isServer with rfl | rfl <;> rfl
  constructor
  · rw [withRegistry_registry, callEntries_userArgs]
  · rw [withRegistry_registry, callEntries_elements]
  · rw [withRegistry_registry, callEntries_of_registrations filled distinct, calls]
  · rw [publications, List.append_nil, Served.withRegistry]

theorem serves_of_step {registrations : List (Registration Callback Args)}
    {served next : Served Callback Args} {event : StackEvent Callback Args}
    (filled : served.session.registry.userArgs.FilledBy
      (registrations.map Registration.modelUserData))
    (distinct : (registrations.map Registration.modelId).Nodup)
    (happens : initializerStep served event.toInitializerEvent = some next) :
    Serves registrations served event next := by
  cases event with
  | generic call =>
      rw [StackEvent.toInitializerEvent, initializerStep, Option.some_inj,
        bleMeshGenericModelCb] at happens
      exact happens ▸ serves_callEntries filled distinct (Or.inl rfl)
  | lighting call =>
      rw [StackEvent.toInitializerEvent, initializerStep, Option.some_inj,
        espBleMeshLightingModelCb] at happens
      exact happens ▸ serves_callEntries filled distinct (Or.inr rfl)
  | publishUpdate model =>
      rw [StackEvent.toInitializerEvent, initializerStep, Option.some_inj] at happens
      subst happens
      have same := publishUpdate_elements served model
      exact ⟨publishUpdate_userArgs served model, same.1,
        same.2.trans (List.append_nil _).symm, publishUpdate_published served model filled⟩

theorem holds_registration_iff {served : Served Callback Args}
    {registrations : List (Registration Callback Args)}
    (filled : served.session.registry.userArgs.FilledBy
      (registrations.map Registration.modelUserData)) (modelId : UInt16) :
    (served.session.registry.userArgs.Holds fun modelUserArgs =>
        modelUserArgs.modelId = modelId) ↔
      modelId ∈ registrations.map Registration.modelId := by
  constructor
  · intro holds
    rcases holds with ⟨index, modelUserArgs, present, same⟩
    rw [filled.get_eq] at present
    rcases List.mem_map.mp (List.mem_of_getElem? present) with ⟨registration, member, rfl⟩
    exact same ▸ List.mem_map_of_mem member
  · intro member
    rcases List.mem_map.mp member with ⟨registration, member, same⟩
    have stored : registration.modelUserData ∈ registrations.map Registration.modelUserData :=
      List.mem_map_of_mem member
    rcases List.getElem?_of_mem stored with ⟨index, present⟩
    exact ⟨index, registration.modelUserData, (filled.get_eq index).trans present, same⟩

theorem staysInTable_iff_staysWith {served : Served Callback Args}
    {registrations : List (Registration Callback Args)}
    (filled : served.session.registry.userArgs.FilledBy
      (registrations.map Registration.modelUserData)) (event : StackEvent Callback Args) :
    StaysInTable served event.toInitializerEvent ↔ event.StaysWith registrations := by
  cases event with
  | generic call => exact Iff.rfl
  | lighting call => exact Iff.rfl
  | publishUpdate model =>
      have fits := filled.length_le
      rw [List.length_map] at fits
      have full : ¬ served.session.registry.userArgs.HasRoom ↔
          registrations.length = userArgsCount := by
        rw [filled.hasRoom_iff, List.length_map, Nat.not_lt]
        exact ⟨Nat.le_antisymm fits, fun equal => Nat.le_of_eq equal.symm⟩
      simp only [StackEvent.toInitializerEvent, StaysInTable, StackEvent.StaysWith, full,
        holds_registration_iff filled]

/-- After registrations for different model ids, each event of a run reaches what is
registered for its model. -/
theorem serves_of_run {registrations : List (Registration Callback Args)}
    (distinct : (registrations.map Registration.modelId).Nodup)
    (events : List (StackEvent Callback Args)) {served : Served Callback Args}
    (filled : served.session.registry.userArgs.FilledBy
      (registrations.map Registration.modelUserData)) :
    ∃ final, run initializerStep served (events.map StackEvent.toInitializerEvent) = some final ∧
      final.session.registry.elements = served.session.registry.elements ∧
      final.session.registry.invoked = served.session.registry.invoked ++
        events.flatMap (StackEvent.calls registrations) ∧
      final.published = served.published ++
        events.flatMap (StackEvent.publications registrations) ∧
      ((∀ performed ∈ taken initializerStep served (events.map StackEvent.toInitializerEvent),
          StaysInTable performed.1 performed.2) ↔
        ∀ event ∈ events, event.StaysWith registrations) := by
  induction events generalizing served with
  | nil => exact ⟨served, rfl, rfl, by simp, by simp, by simp⟩
  | cons event events induction =>
      have happens : ∃ next, initializerStep served event.toInitializerEvent = some next := by
        cases event <;> exact ⟨_, rfl⟩
      rcases happens with ⟨next, happens⟩
      have serves := serves_of_step filled distinct happens
      have filledNext : next.session.registry.userArgs.FilledBy
          (registrations.map Registration.modelUserData) := serves.userArgs ▸ filled
      rcases induction filledNext with ⟨final, runs, elements, invoked, published, stay⟩
      refine ⟨final, ?_, ?_, ?_, ?_, ?_⟩
      · rw [List.map_cons, run_cons_eq_some_iff]
        exact ⟨next, happens, runs⟩
      · rw [elements, serves.elements]
      · rw [invoked, serves.invoked, List.flatMap_cons, List.append_assoc]
      · rw [published, serves.published, List.flatMap_cons, List.append_assoc]
      · rw [List.map_cons, taken_cons_of_step happens, List.forall_mem_cons,
          List.forall_mem_cons, stay, staysInTable_iff_staysWith filled]

/-! ## The light server -/

/-- The callbacks of `BLE_mesh_light_server.h`. -/
inductive LightCallback
  | genericOnOffModelCallback
  | genericOnOffServerPublicationCallback
  | genericLevelModelCallback
  | lightnessModelSetupServerCallback
  | lightnessServerCallback
  | hslModelSetupServerCallback
  | hslServerCallback
  | hslHueServerCallback
  | hslSaturationServerCallback
  | ctlModelSetupServerCallback
  | ctlLightnessServerCallback
  deriving DecidableEq

/-- The objects that models have as user data. -/
inductive LightData
  | configServer
  | genericOnoffServerUserData
  | genericLevelServerUserData
  | lightnessServerSetupUserData
  | lightnessServerUserData
  | hslSetupServerUserData
  | hslServerUserData
  | hslHueServerUserData
  | hslSaturationServerUserData
  | ctlSetupServerUserData
  | ctlServerUserData
  deriving DecidableEq

def modelIdConfigSrv : UInt16 := 0x0000
def modelIdGenOnoffSrv : UInt16 := 0x1000
def modelIdGenLevelSrv : UInt16 := 0x1002
def modelIdLightLightnessSrv : UInt16 := 0x1300
def modelIdLightLightnessSetupSrv : UInt16 := 0x1301
def modelIdLightCtlSrv : UInt16 := 0x1303
def modelIdLightCtlSetupSrv : UInt16 := 0x1304
def modelIdLightHslSrv : UInt16 := 0x1307
def modelIdLightHslSetupSrv : UInt16 := 0x1308
def modelIdLightHslHueSrv : UInt16 := 0x130A
def modelIdLightHslSatSrv : UInt16 := 0x130B

def rootModels : List (SigModel LightData) :=
  [{ modelId := modelIdConfigSrv, userData := some .configServer }]

def lightLightnessServerModels : List (SigModel LightData) :=
  [{ modelId := modelIdGenOnoffSrv, userData := none },
    { modelId := modelIdGenLevelSrv, userData := none },
    { modelId := modelIdLightLightnessSetupSrv, userData := none },
    { modelId := modelIdLightLightnessSrv, userData := none },
    { modelId := modelIdLightCtlSetupSrv, userData := none },
    { modelId := modelIdLightCtlSrv, userData := none }]

def lightServerHslServerModels : List (SigModel LightData) :=
  [{ modelId := modelIdLightHslSetupSrv, userData := none },
    { modelId := modelIdLightHslSrv, userData := none },
    { modelId := modelIdLightHslHueSrv, userData := none },
    { modelId := modelIdLightHslSatSrv, userData := none }]

/-- The elements of the composition. -/
def lightElements : List (List (SigModel LightData)) :=
  [rootModels, lightLightnessServerModels, lightServerHslServerModels]

def bleMeshLightServerGetLightnessServerData (modelId : UInt16) : Option LightData :=
  if modelIdLightLightnessSetupSrv = modelId then some .lightnessServerSetupUserData
  else if modelIdLightLightnessSrv = modelId then some .lightnessServerUserData
  else none

def bleMeshLightServerGetHslServerData (modelId : UInt16) : Option LightData :=
  if modelIdLightHslSrv = modelId then some .hslServerUserData
  else if modelIdLightHslSetupSrv = modelId then some .hslSetupServerUserData
  else if modelIdLightHslHueSrv = modelId then some .hslHueServerUserData
  else if modelIdLightHslSatSrv = modelId then some .hslSaturationServerUserData
  else none

def bleMeshLightServerGetLightCtlServerData (modelId : UInt16) : Option LightData :=
  if modelIdLightCtlSrv = modelId then some .ctlServerUserData
  else if modelIdLightCtlSetupSrv = modelId then some .ctlSetupServerUserData
  else none

/-- The arguments of the ten calls. -/
def lightRegistrations : List (Registration LightCallback LightData) :=
  [{ kind := .generic (some .genericOnOffServerPublicationCallback)
     elementId := 1
     modelId := modelIdGenOnoffSrv
     modelCallback := .genericOnOffModelCallback
     args := some .genericOnoffServerUserData },
    { kind := .generic none
      elementId := 1
      modelId := modelIdGenLevelSrv
      modelCallback := .genericLevelModelCallback
      args := some .genericLevelServerUserData },
    { kind := .lighting
      elementId := 1
      modelId := modelIdLightLightnessSetupSrv
      modelCallback := .lightnessModelSetupServerCallback
      args := bleMeshLightServerGetLightnessServerData modelIdLightLightnessSetupSrv },
    { kind := .lighting
      elementId := 1
      modelId := modelIdLightLightnessSrv
      modelCallback := .lightnessServerCallback
      args := bleMeshLightServerGetLightnessServerData modelIdLightLightnessSrv },
    { kind := .lighting
      elementId := 2
      modelId := modelIdLightHslSetupSrv
      modelCallback := .hslModelSetupServerCallback
      args := bleMeshLightServerGetHslServerData modelIdLightHslSetupSrv },
    { kind := .lighting
      elementId := 2
      modelId := modelIdLightHslSrv
      modelCallback := .hslServerCallback
      args := bleMeshLightServerGetHslServerData modelIdLightHslSrv },
    { kind := .lighting
      elementId := 2
      modelId := modelIdLightHslHueSrv
      modelCallback := .hslHueServerCallback
      args := bleMeshLightServerGetHslServerData modelIdLightHslHueSrv },
    { kind := .lighting
      elementId := 2
      modelId := modelIdLightHslSatSrv
      modelCallback := .hslSaturationServerCallback
      args := bleMeshLightServerGetHslServerData modelIdLightHslSatSrv },
    { kind := .lighting
      elementId := 1
      modelId := modelIdLightCtlSetupSrv
      modelCallback := .ctlModelSetupServerCallback
      args := bleMeshLightServerGetLightCtlServerData modelIdLightCtlSetupSrv },
    { kind := .lighting
      elementId := 1
      modelId := modelIdLightCtlSrv
      modelCallback := .ctlLightnessServerCallback
      args := bleMeshLightServerGetLightCtlServerData modelIdLightCtlSrv }]

/-- For one call, the answers of `malloc` and the words behind the array. -/
structure Memory where
  malloc : Nat → Bool
  behind : Nat → Bool

/-- The calls that are made, each with its own memory. -/
def bleMeshLightLightnessServerInitialize (memory : Fin 10 → Memory) :
    List (RegistrationCall LightCallback LightData) :=
  List.zipWith (fun registration memory =>
    { registration, malloc := memory.malloc, behind := memory.behind })
    lightRegistrations (List.ofFn memory)

/-- The registrations that were given memory. -/
def lightStored (memory : Fin 10 → Memory) : List (Registration LightCallback LightData) :=
  ((bleMeshLightLightnessServerInitialize memory).filter RegistrationCall.stored).map
    RegistrationCall.registration

theorem registrations_of_startup (memory : Fin 10 → Memory) :
    (bleMeshLightLightnessServerInitialize memory).map RegistrationCall.registration =
      lightRegistrations := rfl

/-- Each registration is for the only model of its element with the id. -/
theorem findsOne_of_mem {registration : Registration LightCallback LightData}
    (member : registration ∈ lightRegistrations) : FindsOne lightElements registration := by
  have all : ∀ registration ∈ lightRegistrations, registration.modelId ≠ 0 ∧
      (Registry.initial lightElements : Registry LightCallback LightData).instances
        registration.elementId.toNat registration.modelId = 1 := by decide
  exact all registration member

theorem distinct_lightRegistrations :
    (lightRegistrations.map Registration.modelId).Nodup := by decide

theorem distinct_lightStored (memory : Fin 10 → Memory) :
    ((lightStored memory).map Registration.modelId).Nodup := by
  have some : (lightStored memory).Sublist lightRegistrations := by
    rw [← registrations_of_startup memory]
    exact List.filter_sublist.map _
  exact (some.map _).nodup distinct_lightRegistrations

/-- The state after start-up. -/
theorem startedWith_lightStored (memory : Fin 10 → Memory) :
    ∃ started, run initializerStep (Served.initial lightElements)
        ((bleMeshLightLightnessServerInitialize memory).map .register) = some started ∧
      StartedWith lightElements started (lightStored memory) ∧
      ∀ performed ∈ taken initializerStep (Served.initial lightElements)
          ((bleMeshLightLightnessServerInitialize memory).map .register),
        StaysInTable performed.1 performed.2 := by
  refine startedWith_of_registers (startedWith_initial lightElements) ?_ ?_ ?_
  · intro call member
    apply findsOne_of_mem
    rw [← registrations_of_startup memory]
    exact List.mem_map_of_mem member
  · have count := congrArg List.length (registrations_of_startup memory)
    rw [List.length_map] at count
    rw [count]
    decide
  · rw [List.nil_append, registrations_of_startup]
    exact distinct_lightRegistrations

/-- The calls of start-up and the events after it. -/
def lightRun (memory : Fin 10 → Memory) (events : List (StackEvent LightCallback LightData)) :
    List (InitializerEvent LightCallback LightData) :=
  (bleMeshLightLightnessServerInitialize memory).map .register ++
    events.map StackEvent.toInitializerEvent

/-- What the user data of a model points to after start-up: what was registered for the model
or what the composition has. -/
def lightUserData (memory : Fin 10 → Memory) (element : Nat) (modelId : UInt16) :
    Option LightData :=
  ((lightStored memory).find? fun registration => registration.isFor element modelId).elim
    ((Registry.initial lightElements : Registry LightCallback LightData).userData element modelId)
    Registration.args

theorem lightRun_serves (memory : Fin 10 → Memory)
    (events : List (StackEvent LightCallback LightData)) :
    ∃ final, run initializerStep (Served.initial lightElements) (lightRun memory events) =
        some final ∧
      final.session.registry.invoked = events.flatMap (StackEvent.calls (lightStored memory)) ∧
      final.published = events.flatMap (StackEvent.publications (lightStored memory)) ∧
      final.session.registry.userData = lightUserData memory := by
  rcases startedWith_lightStored memory with ⟨started, starts, startedWith, _⟩
  rcases serves_of_run (distinct_lightStored memory) events startedWith.filled with
    ⟨final, runs, elements, invoked, published, _⟩
  refine ⟨final, ?_, ?_, ?_, ?_⟩
  · rw [lightRun, run_append, starts, Option.bind_some, runs]
  · rw [invoked, startedWith.invoked, List.nil_append]
  · rw [published, startedWith.published, List.nil_append]
  · funext element modelId
    rw [lightUserData, ← startedWith.userData]
    simp only [Registry.userData, elements]

theorem lightRun_safe_iff (memory : Fin 10 → Memory)
    (events : List (StackEvent LightCallback LightData)) :
    (∀ served ∈ visited initializerStep (Served.initial lightElements) (lightRun memory events),
        served.session.registry.AccessedSafely) ↔
      ∀ event ∈ events, event.StaysWith (lightStored memory) := by
  rcases startedWith_lightStored memory with ⟨started, starts, startedWith, stay⟩
  rcases serves_of_run (distinct_lightStored memory) events startedWith.filled with
    ⟨final, _, _, _, _, stays⟩
  rw [accessedSafely_throughout_iff, lightRun, taken_append_of_run starts, List.forall_mem_append,
    stays]
  exact and_iff_right stay

/-- After start-up each event of a model makes exactly the calls of the callbacks registered
for the model, if the allocation was granted, and the user data of each model is what was
registered or what it was. The program stops at a publish update that reads through NULL. -/
theorem light_events_reach_their_models (memory : Fin 10 → Memory)
    (events : List (StackEvent LightCallback LightData)) :
    (run haltingStep (Served.initial lightElements) (lightRun memory events)).map (fun final =>
        (final.session.registry.invoked, final.published, final.session.registry.userData)) =
      if ∀ event ∈ events, event.StaysWith (lightStored memory) then
        some (events.flatMap (StackEvent.calls (lightStored memory)),
          events.flatMap (StackEvent.publications (lightStored memory)), lightUserData memory)
      else none := by
  have safe := lightRun_safe_iff memory events
  split
  next stays =>
    rcases lightRun_serves memory events with ⟨final, runs, invoked, published, userData⟩
    rw [haltingStep, run_halting_of_good (safe.mpr stays), runs, Option.map_some, invoked,
      published, userData]
  next strays =>
    have halts : run haltingStep (Served.initial lightElements) (lightRun memory events) = none :=
      run_halting_of_bad (accessedSafely_initial lightElements) (mt safe.mp strays)
    rw [halts, Option.map_none]

/-- After start-up all accesses stay in the array and go through no NULL pointer, exactly
if every publish update of a SIG model is for one whose allocation was granted, or all ten
were granted. -/
theorem light_accesses_safe_iff (memory : Fin 10 → Memory)
    (events : List (StackEvent LightCallback LightData)) :
    (∀ served ∈ visited initializerStep (Served.initial lightElements)
        ((bleMeshLightLightnessServerInitialize memory).map .register ++
          events.map StackEvent.toInitializerEvent),
        served.session.registry.AccessedSafely) ↔
      ∀ event ∈ events, event.StaysWith (lightStored memory) :=
  lightRun_safe_iff memory events

end BleMesh.Initializer
