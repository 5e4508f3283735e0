import BleMesh.Initializer.Routing

/-! # Accesses to the array of callbacks

Five loops go over `ble_mesh_sig_custom_model_user_args`. The handlers of server events
test each pointer and stop at the end of the array. The loop of a publish update reads
through every pointer it comes to, and the loops that store an entry only stop at a word
that is NULL.
-/

namespace BleMesh.Initializer

open Foundation Foundation.Execution

variable {Callback Args : Type}

def cidEsp : UInt16 := 0x02E5

/-- `esp_ble_mesh_model_t`. The id of a SIG model and the company id of a vendor model are
the same two bytes, and the id of a vendor model is zero in a SIG model. `userData` is what
the pointer `user_data` is taken to point to. -/
structure PublishingModel (Callback Args : Type) where
  modelId : UInt16
  vndModelId : UInt16
  userData : Option (CustomModelUserData Callback Args)

/-- The test for a SIG model. -/
def PublishingModel.isSig (model : PublishingModel Callback Args) : Bool :=
  cidEsp != model.modelId && 0x00 == model.vndModelId

/-- A publication callback that has been called, with its arguments. -/
structure Publication (Callback Args : Type) where
  callback : Callback
  model : PublishingModel Callback Args
  args : Option Args

/-- The session of registrations, and the publication callbacks called so far. -/
structure Served (Callback Args : Type) where
  session : Session Callback Args
  published : List (Publication Callback Args)

def Served.initial (elements : List (List (SigModel Args))) : Served Callback Args where
  session := Session.initial elements
  published := []

def Served.withRegistry (served : Served Callback Args) (registry : Registry Callback Args) :
    Served Callback Args :=
  { served with session := { served.session with registry } }

@[simp] theorem withRegistry_registry (served : Served Callback Args)
    (registry : Registry Callback Args) :
    (served.withRegistry registry).session.registry = registry := rfl

/-- Call the publication callback of some user data, if it has one. -/
def Served.publish (served : Served Callback Args) (model : PublishingModel Callback Args)
    (modelUserArgs : CustomModelUserData Callback Args) : Served Callback Args :=
  match modelUserArgs.modelPublicationCb with
  | none => served
  | some callback => { served with
      published := served.published ++ [{ callback, model, args := modelUserArgs.args }] }

def Registry.logAccesses (registry : Registry Callback Args) (accesses : List Access) :
    Registry Callback Args :=
  { registry with accesses := registry.accesses ++ accesses }

/-- Reading the ids of the first entries. -/
def readIds (count : Nat) : List Access :=
  (List.range count).flatMap fun index => [.word index, .pointee true]

/-- The loop of a publish update. It ends at the first entry for the model; at a word that
is NULL the program reads through it. -/
def publishFromTable (served : Served Callback Args) (model : PublishingModel Callback Args) :
    Served Callback Args :=
  let registry := served.session.registry
  match registry.userArgs.scan fun modelUserArgs => modelUserArgs.modelId == model.modelId with
  | .held index =>
      let served := served.withRegistry (registry.logAccesses (readIds (index + 1)))
      match registry.userArgs.get index with
      | none => served
      | some modelUserArgs => served.publish model modelUserArgs
  | .free index =>
      served.withRegistry
        (registry.logAccesses (readIds index ++ [.word index, .pointee false]))
  | .full => served.withRegistry (registry.logAccesses (readIds userArgsCount))

/-- What `ble_mesh_custom_model_cb` does on ESP_BLE_MESH_MODEL_PUBLISH_UPDATE_EVT. -/
def bleMeshCustomModelCbPublishUpdate (served : Served Callback Args)
    (model : PublishingModel Callback Args) : Served Callback Args :=
  if model.isSig then publishFromTable served model
  else
    match model.userData with
    | none => served
    | some modelUserArgs => served.publish model modelUserArgs

inductive InitializerEvent (Callback Args : Type)
  | register (call : RegistrationCall Callback Args)
  | generic (call : ServerCall)
  | lighting (call : ServerCall)
  | publishUpdate (model : PublishingModel Callback Args)

def initializerStep (served : Served Callback Args) :
    InitializerEvent Callback Args → Option (Served Callback Args)
  | .register call =>
      (registerStep served.session call).map fun session => { served with session }
  | .generic call =>
      some (served.withRegistry (bleMeshGenericModelCb served.session.registry call))
  | .lighting call =>
      some (served.withRegistry (espBleMeshLightingModelCb served.session.registry call))
  | .publishUpdate model => some (bleMeshCustomModelCbPublishUpdate served model)

/-- The access stays in the array, and goes through no NULL pointer. -/
def Access.IsSafe : Access → Prop
  | .word index => index < userArgsCount
  | .pointee present => present = true

instance : DecidablePred Access.IsSafe
  | .word index => inferInstanceAs (Decidable (index < userArgsCount))
  | .pointee present => inferInstanceAs (Decidable (present = true))

def Registry.AccessedSafely (registry : Registry Callback Args) : Prop :=
  ∀ access ∈ registry.accesses, access.IsSafe

instance (registry : Registry Callback Args) : Decidable registry.AccessedSafely :=
  inferInstanceAs (Decidable (∀ access ∈ registry.accesses, access.IsSafe))

/-- An event that the program gets through: it stops where it reads through NULL or outside
the array. -/
def haltingStep :
    Served Callback Args → InitializerEvent Callback Args → Option (Served Callback Args) :=
  halting (fun served => served.session.registry.AccessedSafely) initializerStep

/-- A registration is granted no more entries than there is room for. A publish update of
a SIG model finds an entry for the model, or no word of the array that is NULL. -/
def StaysInTable (served : Served Callback Args) : InitializerEvent Callback Args → Prop
  | .register call =>
      call.registration.modelId ≠ 0 →
        grants served.session call ≤ served.session.registry.userArgs.room
  | .generic _ => True
  | .lighting _ => True
  | .publishUpdate model =>
      model.isSig = true →
        (served.session.registry.userArgs.Holds fun modelUserArgs =>
            modelUserArgs.modelId = model.modelId) ∨
          ¬ served.session.registry.userArgs.HasRoom

/-! ## One loop -/

variable {registry : Registry Callback Args} {held : List (CustomModelUserData Callback Args)}

theorem accessedSafely_append {accesses : List Access} {before after : Registry Callback Args}
    (logged : after.accesses = before.accesses ++ accesses) :
    after.AccessedSafely ↔ before.AccessedSafely ∧ ∀ access ∈ accesses, access.IsSafe := by
  rw [Registry.AccessedSafely, logged, List.forall_mem_append]
  rfl

theorem readIds_safe {count : Nat} (inside : count ≤ userArgsCount) :
    ∀ access ∈ readIds count, access.IsSafe := by
  intro access member
  rcases List.mem_flatMap.mp member with ⟨index, bound, read⟩
  have word := Nat.lt_of_lt_of_le (List.mem_range.mp bound) inside
  rcases List.mem_pair.mp read with rfl | rfl
  · exact word
  · rfl

theorem words_safe_iff (count : Nat) :
    (∀ access ∈ (List.range count).map Access.word, access.IsSafe) ↔ count ≤ userArgsCount := by
  rw [List.forall_mem_map]
  constructor
  · intro safe
    cases count with
    | zero => exact Nat.zero_le _
    | succ last => exact safe last (List.mem_range.mpr (Nat.lt_succ_self last))
  · intro inside index member
    exact Nat.lt_of_lt_of_le (List.mem_range.mp member) inside

/-- A store reads the words up to the first that is NULL. -/
theorem Registry.store_accessedSafely_iff (filled : registry.userArgs.FilledBy held)
    (modelUserData : CustomModelUserData Callback Args) :
    (registry.store modelUserData).AccessedSafely ↔
      registry.AccessedSafely ∧ held.length < userArgsCount := by
  have found := Registry.findIdx?_nullWords filled
  by_cases room : held.length < userArgsCount
  · rw [if_pos room] at found
    rw [Registry.store, found, accessedSafely_append rfl, words_safe_iff, Nat.succ_le_iff]
  · rw [if_neg room] at found
    rw [Registry.store, found]
    refine iff_of_false ?_ (fun both => room both.2)
    cases ((List.range (sizeofUserArgs - userArgsCount)).map registry.behind).findIdx? id with
    | none =>
        rw [Option.map_none, accessedSafely_append rfl, words_safe_iff]
        exact fun both => absurd both.2 (by decide)
    | some word =>
        rw [Option.map_some, accessedSafely_append rfl, words_safe_iff]
        intro both
        have inside := both.2
        omega

theorem registerModels_accessedSafely_iff (filled : registry.userArgs.FilledBy held)
    (modelUserData : CustomModelUserData Callback Args) (args : Option Args)
    (malloc : Nat → Bool) (models : List (SigModel Args)) :
    (registerModels modelUserData args malloc models registry).2.2.AccessedSafely ↔
      registry.AccessedSafely ∧
        granted malloc (models.countP fun model => model.modelId == modelUserData.modelId) ≤
          userArgsCount - held.length := by
  induction models generalizing malloc registry held with
  | nil => simp [registerModels, granted]
  | cons model models induction =>
      by_cases same : model.modelId = modelUserData.modelId
      · cases first : malloc 0 with
        | true =>
            have later := induction (registry.store_filled filled modelUserData)
              (fun call => malloc (call + 1))
            rw [registry.store_accessedSafely_iff filled, and_assoc] at later
            simp only [registerModels, same, first, if_true, List.countP_cons, beq_self_eq_true,
              granted, later]
            refine and_congr_right fun _ => ?_
            by_cases room : held.length < userArgsCount
            · rw [if_pos room, List.length_append, List.length_singleton]
              omega
            · rw [if_neg room]
              omega
        | false => simp [registerModels, same, first, granted]
      · simpa [registerModels, same] using induction filled malloc

theorem register_accessedSafely_iff (filled : registry.userArgs.FilledBy held)
    (registration : Registration Callback Args) (accepted : registration.modelId ≠ 0)
    (malloc : Nat → Bool) :
    (registry.register registration malloc).2.AccessedSafely ↔
      registry.AccessedSafely ∧
        granted malloc
            (registry.instances registration.elementId.toNat registration.modelId) ≤
          registry.userArgs.room := by
  rw [register_eq, filled.room_eq]
  cases present : registry.elements[registration.elementId.toNat]? with
  | none =>
      rw [registerSigModelUserArgs_of_rejected (Or.inl present)]
      simp [Registry.instances, present, granted]
  | some models =>
      rw [registerSigModelUserArgs_of_accepted present accepted, Registry.instances, present]
      exact registerModels_accessedSafely_iff filled registration.modelUserData
        registration.args malloc models

/-- An entry of the array is tested before it is read. -/
theorem callEntry_accesses (call : ServerCall) (registry : Registry Callback Args)
    (index : Nat) :
    (callEntry call registry index).accesses =
      registry.accesses ++ Access.word index ::
        (registry.userArgs.get index).toList.map fun _ => .pointee true := by
  cases present : registry.userArgs.get index with
  | none => simp [callEntry, present]
  | some modelUserArgs =>
      by_cases same : modelUserArgs.modelId = call.modelId <;> simp [callEntry, present, same]

theorem callEntry_accessedSafely_iff (call : ServerCall) (registry : Registry Callback Args)
    (index : Nat) :
    (callEntry call registry index).AccessedSafely ↔
      registry.AccessedSafely ∧ index < userArgsCount := by
  have pointees : ∀ access ∈ (registry.userArgs.get index).toList.map fun _ =>
      Access.pointee true, access.IsSafe := by
    rw [List.forall_mem_map]
    exact fun _ _ => rfl
  rw [accessedSafely_append (callEntry_accesses call registry index), List.forall_mem_cons]
  exact and_congr_right fun _ => and_iff_left pointees

theorem foldl_callEntry_accessedSafely_iff (call : ServerCall) (indices : List Nat)
    (registry : Registry Callback Args) :
    (indices.foldl (callEntry call) registry).AccessedSafely ↔
      registry.AccessedSafely ∧ ∀ index ∈ indices, index < userArgsCount := by
  induction indices generalizing registry with
  | nil => simp
  | cons index indices induction =>
      rw [List.foldl_cons, induction, callEntry_accessedSafely_iff, List.forall_mem_cons,
        and_assoc]

/-- The handlers of server events stay in the array. -/
theorem callEntries_accessedSafely_iff (registry : Registry Callback Args) (call : ServerCall) :
    (callEntries registry call).AccessedSafely ↔ registry.AccessedSafely := by
  rw [callEntries, foldl_callEntry_accessedSafely_iff]
  exact and_iff_left fun index member => List.mem_range.mp member

@[simp] theorem publish_session (served : Served Callback Args)
    (model : PublishingModel Callback Args)
    (modelUserArgs : CustomModelUserData Callback Args) :
    (served.publish model modelUserArgs).session = served.session := by
  rw [Served.publish]
  split <;> rfl

theorem logAccesses_accessedSafely_iff (registry : Registry Callback Args)
    (accesses : List Access) :
    (registry.logAccesses accesses).AccessedSafely ↔
      registry.AccessedSafely ∧ ∀ access ∈ accesses, access.IsSafe :=
  accessedSafely_append rfl

/-- The loop of a publish update is safe if it ends at an entry for the model, or goes
over a full array. -/
theorem publishFromTable_accessedSafely_iff (served : Served Callback Args)
    (model : PublishingModel Callback Args) :
    (publishFromTable served model).session.registry.AccessedSafely ↔
      served.session.registry.AccessedSafely ∧
        ((served.session.registry.userArgs.HoldsFirst fun modelUserArgs =>
            modelUserArgs.modelId = model.modelId) ∨
          ¬ served.session.registry.userArgs.HasRoom) := by
  rw [publishFromTable]
  cases stop : served.session.registry.userArgs.scan fun modelUserArgs =>
      modelUserArgs.modelId == model.modelId with
  | held index =>
      have first := SlotTable.holdsFirst_of_scan_held stop
      rcases (SlotTable.scan_held stop).1 with ⟨modelUserArgs, present, -⟩
      have inside := SlotTable.index_lt_of_get present
      simp only [beq_iff_eq] at first
      simp only [present, publish_session]
      rw [withRegistry_registry, logAccesses_accessedSafely_iff]
      exact and_congr_right fun _ =>
        iff_of_true (readIds_safe (Nat.succ_le_of_lt inside)) (Or.inl first)
  | free index =>
      have notFirst := SlotTable.not_holdsFirst_of_scan_free stop
      rcases SlotTable.scan_free stop with ⟨inside, free, -⟩
      simp only [beq_iff_eq] at notFirst
      dsimp only
      rw [withRegistry_registry, logAccesses_accessedSafely_iff]
      refine and_congr_right fun _ => iff_of_false ?_ ?_
      · intro safe
        cases safe (.pointee false) (by simp)
      · intro either
        rcases either with first | full
        · exact notFirst first
        · exact full ⟨index, inside, free⟩
  | full =>
      dsimp only
      rw [withRegistry_registry, logAccesses_accessedSafely_iff]
      exact and_congr_right fun _ =>
        iff_of_true (readIds_safe (Nat.le_refl _))
          (Or.inr (SlotTable.not_hasRoom_of_scan_full stop))

/-! ## Runs -/

variable {served next : Served Callback Args} {event : InitializerEvent Callback Args}

theorem callEntries_userArgs (registry : Registry Callback Args) (call : ServerCall) :
    (callEntries registry call).userArgs = registry.userArgs := by
  rw [callEntries]
  induction List.range userArgsCount generalizing registry with
  | nil => rfl
  | cons index indices induction => rw [List.foldl_cons, induction, callEntry_userArgs]

theorem publishUpdate_userArgs (served : Served Callback Args)
    (model : PublishingModel Callback Args) :
    (bleMeshCustomModelCbPublishUpdate served model).session.registry.userArgs =
      served.session.registry.userArgs := by
  simp only [bleMeshCustomModelCbPublishUpdate, publishFromTable]
  repeat' split
  all_goals simp [Served.withRegistry, Registry.logAccesses]

/-- Only a registration changes the entries. -/
theorem filled_of_initializerStep (filled : Filled served.session)
    (happens : initializerStep served event = some next) : Filled next.session := by
  cases event with
  | register call =>
      rw [initializerStep] at happens
      rcases Option.map_eq_some_iff.mp happens with ⟨session, registered, rfl⟩
      exact filled_of_step filled registered
  | generic call =>
      rw [initializerStep, Option.some_inj] at happens
      subst happens
      rcases filled with ⟨held, filled⟩
      refine ⟨held, ?_⟩
      rwa [withRegistry_registry, bleMeshGenericModelCb, callEntries_userArgs]
  | lighting call =>
      rw [initializerStep, Option.some_inj] at happens
      subst happens
      rcases filled with ⟨held, filled⟩
      refine ⟨held, ?_⟩
      rwa [withRegistry_registry, espBleMeshLightingModelCb, callEntries_userArgs]
  | publishUpdate model =>
      rw [initializerStep, Option.some_inj] at happens
      subst happens
      rcases filled with ⟨held, filled⟩
      refine ⟨held, ?_⟩
      rwa [publishUpdate_userArgs]

theorem accessedSafely_of_register (filled : Filled served.session)
    {call : RegistrationCall Callback Args} {session : Session Callback Args}
    (safe : served.session.registry.AccessedSafely)
    (registered : registerStep served.session call = some session) :
    session.registry.AccessedSafely ↔ StaysInTable served (.register call) := by
  cases registered
  rw [StaysInTable]
  by_cases rejected : call.registration.modelId = 0
  · rw [answer_of_rejected rejected]
    exact iff_of_true safe fun accepted => absurd rejected accepted
  · rcases filled with ⟨held, filled⟩
    have filledNow : (served.session.before call).userArgs.FilledBy held := filled
    have exact := register_accessedSafely_iff filledNow call.registration rejected call.malloc
    have safeNow : (served.session.before call).AccessedSafely := safe
    rw [Session.answer, exact, and_iff_right safeNow]
    exact ⟨fun fits _ => fits, fun fits => fits rejected⟩

theorem accessedSafely_of_publishUpdate (filled : Filled served.session)
    (safe : served.session.registry.AccessedSafely) (model : PublishingModel Callback Args) :
    (bleMeshCustomModelCbPublishUpdate served model).session.registry.AccessedSafely ↔
      StaysInTable served (.publishUpdate model) := by
  rcases filled with ⟨held, filled⟩
  rw [bleMeshCustomModelCbPublishUpdate, StaysInTable]
  cases sig : model.isSig with
  | true =>
      rw [if_pos rfl, publishFromTable_accessedSafely_iff, and_iff_right safe,
        filled.holdsFirst_iff, forall_prop_of_true rfl]
  | false =>
      rw [if_neg (by decide)]
      refine iff_of_true ?_ (fun isSig => by cases isSig)
      split
      · exact safe
      · rwa [publish_session]

/-- After an event from a state in which all accesses were safe. -/
theorem accessedSafely_next_iff (filled : Filled served.session)
    (safe : served.session.registry.AccessedSafely)
    (happens : initializerStep served event = some next) :
    next.session.registry.AccessedSafely ↔ StaysInTable served event := by
  cases event with
  | register call =>
      rw [initializerStep] at happens
      rcases Option.map_eq_some_iff.mp happens with ⟨session, registered, rfl⟩
      exact accessedSafely_of_register filled safe registered
  | generic call =>
      rw [initializerStep, Option.some_inj] at happens
      subst happens
      rw [withRegistry_registry, bleMeshGenericModelCb, callEntries_accessedSafely_iff]
      exact iff_of_true safe trivial
  | lighting call =>
      rw [initializerStep, Option.some_inj] at happens
      subst happens
      rw [withRegistry_registry, espBleMeshLightingModelCb, callEntries_accessedSafely_iff]
      exact iff_of_true safe trivial
  | publishUpdate model =>
      rw [initializerStep, Option.some_inj] at happens
      subst happens
      exact accessedSafely_of_publishUpdate filled safe model

theorem accessedSafely_initial (elements : List (List (SigModel Args))) :
    (Served.initial elements : Served Callback Args).session.registry.AccessedSafely := by
  intro access member
  cases member

/-- Along every run of registrations and events the accesses are safe in every state
exactly if each step meets the condition. -/
theorem accessedSafely_throughout_iff (elements : List (List (SigModel Args)))
    (events : List (InitializerEvent Callback Args)) :
    (∀ served ∈ visited initializerStep (Served.initial elements) events,
        served.session.registry.AccessedSafely) ↔
      ∀ performed ∈ taken initializerStep (Served.initial elements) events,
        StaysInTable performed.1 performed.2 := by
  refine forall_visited_iff_forall_taken (fun served => Filled served.session) ?_ ?_ events
    (filled_initial elements) (accessedSafely_initial elements)
  · intro served event next filled happens
    exact filled_of_initializerStep filled happens
  · intro served event next filled safe happens
    exact accessedSafely_next_iff filled safe happens

/-- A Light Lightness Server that publishes and has not been registered. -/
def unregisteredModel : PublishingModel Nat Nat where
  modelId := 0x1300
  vndModelId := 0
  userData := none

/-- The update of a model without an entry reads through the NULL pointer behind the
entries. -/
theorem unregistered_update_reads_null :
    ¬ ∀ (elements : List (List (SigModel Nat))) (events : List (InitializerEvent Nat Nat)),
      ∀ served ∈ visited initializerStep (Served.initial elements) events,
        served.session.registry.AccessedSafely := by
  intro always
  have reached : ∃ served ∈ (visited initializerStep (Served.initial onOffElements)
        [.register (onOffRegistration 1), .publishUpdate unregisteredModel]).getLast?,
      .pointee false ∈ served.session.registry.accesses := ⟨_, rfl, by decide⟩
  rcases reached with ⟨served, member, throughNull⟩
  cases always onOffElements _ served (List.mem_of_getLast? member) _ throughNull

end BleMesh.Initializer
