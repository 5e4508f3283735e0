import BleMesh.Foundation.Execution
import BleMesh.Foundation.Routes
import BleMesh.Initializer.UserArgs

/-! # Routing of server events

An event for a model of an element should reach the callback registered last for the two.
A registration appends to the array without looking at what is there, and the handlers call
every entry with the id of the model.
-/

namespace BleMesh.Initializer

open Foundation Foundation.Execution

variable {Callback Args : Type}

/-- Which of the two functions is called. -/
inductive RegistrationKind (Callback : Type)
  | generic (pubCallback : Option Callback)
  | lighting

structure Registration (Callback Args : Type) where
  kind : RegistrationKind Callback
  elementId : UInt16
  modelId : UInt16
  modelCallback : Callback
  args : Option Args

def Registry.register (registry : Registry Callback Args)
    (registration : Registration Callback Args) (malloc : Nat → Bool) :
    Int × Registry Callback Args :=
  match registration.kind with
  | .generic pubCallback =>
      bleMeshRegisterSigGenericModelUserArgs registry registration.elementId
        registration.modelId registration.modelCallback pubCallback registration.args malloc
  | .lighting =>
      bleMeshRegisterSigLightingModelUserArgs registry registration.elementId
        registration.modelId registration.modelCallback registration.args malloc

/-- A call with the answers of `malloc`. The words behind the array belong to others and
are what they are when the call is made. -/
structure RegistrationCall (Callback Args : Type) where
  registration : Registration Callback Args
  malloc : Nat → Bool
  behind : Nat → Bool

/-- The registry, and the registrations so far with the values they returned, the most
recent first. -/
structure Session (Callback Args : Type) where
  registry : Registry Callback Args
  answered : List (Registration Callback Args × Int)

def Session.initial (elements : List (List (SigModel Args))) : Session Callback Args where
  registry := Registry.initial elements
  answered := []

/-- The registry when the call is made. -/
def Session.before (session : Session Callback Args) (call : RegistrationCall Callback Args) :
    Registry Callback Args :=
  { session.registry with behind := call.behind }

def Session.answer (session : Session Callback Args) (call : RegistrationCall Callback Args) :
    Int × Registry Callback Args :=
  (session.before call).register call.registration call.malloc

def registerStep (session : Session Callback Args) (call : RegistrationCall Callback Args) :
    Option (Session Callback Args) :=
  some {
    registry := (session.answer call).2
    answered := (call.registration, (session.answer call).1) :: session.answered }

/-- The callback of the most recent registration for a model of an element that
returned 0. -/
def Session.latest (session : Session Callback Args) (element : Nat) (modelId : UInt16) :
    Option Callback :=
  (session.answered.find? fun answer =>
    answer.2 = 0 ∧ answer.1.elementId.toNat = element ∧ answer.1.modelId = modelId).map
      fun answer => answer.1.modelCallback

/-- Both handlers call that callback once, and no other. -/
def RoutesExactly (session : Session Callback Args) : Prop :=
  ∀ call : ServerCall, 0 < session.registry.instances call.element call.modelId →
    let expected := (session.latest call.element call.modelId).toList.map fun callback =>
      (callback, call)
    (bleMeshGenericModelCb session.registry call).invoked =
        session.registry.invoked ++ expected ∧
      (espBleMeshLightingModelCb session.registry call).invoked =
        session.registry.invoked ++ expected

/-- The element and the id of the model to register. -/
def RegistrationCall.destination (call : RegistrationCall Callback Args) : Nat × UInt16 :=
  (call.registration.elementId.toNat, call.registration.modelId)

def Session.IsThere (session : Session Callback Args) (destination : Nat × UInt16) : Prop :=
  0 < session.registry.instances destination.1 destination.2

/-- How many allocations of the call are granted before one is refused. -/
def grants (session : Session Callback Args) (call : RegistrationCall Callback Args) : Nat :=
  granted call.malloc
    (session.registry.instances call.registration.elementId.toNat call.registration.modelId)

/-- Each of them makes an entry, as long as there is room. -/
def copiesStored (session : Session Callback Args) (call : RegistrationCall Callback Args) : Nat :=
  min (grants session call) session.registry.userArgs.room

/-- An allocation is made for each model of the element with the id. -/
def AllGranted (session : Session Callback Args) (call : RegistrationCall Callback Args) : Prop :=
  grants session call =
    session.registry.instances call.registration.elementId.toNat call.registration.modelId

/-- What is asked of a registration that passes the checks and finds the model on the
element. It stores nothing, and then an allocation fails or the callback is there already;
or it stores one entry, no allocation fails, there was none for the model id, and no other
element has such a model. -/
def KeepsRouting (session : Session Callback Args) (call : RegistrationCall Callback Args) :
    Prop :=
  call.registration.modelId ≠ 0 → session.IsThere call.destination →
    copiesStored session call = 0 ∧
        (¬ AllGranted session call ∨
          session.registry.callbacks call.registration.modelId =
            [call.registration.modelCallback]) ∨
      copiesStored session call = 1 ∧ AllGranted session call ∧
        session.registry.callbacks call.registration.modelId = [] ∧
        ∀ element, element ≠ call.registration.elementId.toNat →
          ¬ session.IsThere (element, call.registration.modelId)

/-! ## One registration -/

variable {registry : Registry Callback Args} {held : List (CustomModelUserData Callback Args)}

/-- The entry that the functions store. -/
def Registration.modelUserData (registration : Registration Callback Args) :
    CustomModelUserData Callback Args where
  elementId := 0
  modelId := registration.modelId
  modelCb := registration.modelCallback
  modelPublicationCb :=
    match registration.kind with
    | .generic pubCallback => pubCallback
    | .lighting => none
  args := none

theorem register_eq (registry : Registry Callback Args)
    (registration : Registration Callback Args) (malloc : Nat → Bool) :
    registry.register registration malloc =
      registerSigModelUserArgs registry registration.elementId registration.modelUserData
        registration.args malloc := by
  rcases registration with ⟨kind, _, _, _, _⟩
  cases kind <;> rfl

/-- One entry for each allocation that is granted, as long as there is room. -/
theorem register_filled (filled : registry.userArgs.FilledBy held)
    (registration : Registration Callback Args) (accepted : registration.modelId ≠ 0)
    (malloc : Nat → Bool) :
    (registry.register registration malloc).2.userArgs.FilledBy
      (held ++ List.replicate
        (min (granted malloc
            (registry.instances registration.elementId.toNat registration.modelId))
          (userArgsCount - held.length)) registration.modelUserData) := by
  rw [register_eq]
  cases present : registry.elements[registration.elementId.toNat]? with
  | none =>
      rw [registerSigModelUserArgs_of_rejected (Or.inl present)]
      simpa [Registry.instances, present, granted] using filled
  | some models =>
      rw [registerSigModelUserArgs_of_accepted present accepted, Registry.instances, present]
      exact registerModels_filled filled registration.modelUserData registration.args malloc models

theorem register_of_modelId_zero {registration : Registration Callback Args}
    (rejected : registration.modelId = 0) (malloc : Nat → Bool) :
    registry.register registration malloc = (-1, registry) := by
  rw [register_eq, registerSigModelUserArgs_of_rejected (Or.inr rejected)]

theorem register_code {registration : Registration Callback Args}
    (accepted : registration.modelId ≠ 0)
    (found : 0 < registry.instances registration.elementId.toNat registration.modelId)
    (malloc : Nat → Bool) :
    (registry.register registration malloc).1 =
      if granted malloc
            (registry.instances registration.elementId.toNat registration.modelId) =
          registry.instances registration.elementId.toNat registration.modelId
      then 0 else -1 := by
  rw [register_eq]
  cases present : registry.elements[registration.elementId.toNat]? with
  | none => simp [Registry.instances, present] at found
  | some models =>
      rw [registerSigModelUserArgs_of_accepted present accepted, Registry.instances, present]
      exact registerModels_code registration.modelUserData registration.args malloc models registry

theorem callbacks_of_filled (filled : registry.userArgs.FilledBy held) (modelId : UInt16) :
    registry.callbacks modelId =
      (held.filter fun modelUserData => modelUserData.modelId == modelId).map
        CustomModelUserData.modelCb := by
  rw [Registry.callbacks, filled.entries_eq]

/-- The callbacks for the model id of the registration follow those that are there; for
other ids nothing changes. -/
theorem register_callbacks (filled : registry.userArgs.FilledBy held)
    (registration : Registration Callback Args) (accepted : registration.modelId ≠ 0)
    (malloc : Nat → Bool) (modelId : UInt16) :
    (registry.register registration malloc).2.callbacks modelId =
      registry.callbacks modelId ++
        if registration.modelId = modelId then
          List.replicate
            (min (granted malloc
                (registry.instances registration.elementId.toNat registration.modelId))
              registry.userArgs.room) registration.modelCallback
        else [] := by
  rw [callbacks_of_filled (register_filled filled registration accepted malloc),
    callbacks_of_filled filled, filled.room_eq, List.filter_append, List.map_append]
  have entry : registration.modelUserData.modelId = registration.modelId := rfl
  have callback : registration.modelUserData.modelCb = registration.modelCallback := rfl
  by_cases same : registration.modelId = modelId <;>
    simp [entry, callback, same]

/-! ## Routing -/

def Session.assigned (session : Session Callback Args) (destination : Nat × UInt16) :
    Option Callback :=
  session.latest destination.1 destination.2

/-- A destination is a model on an element, and its tag is the id of the model. -/
theorem routesExactly_iff (session : Session Callback Args) :
    RoutesExactly session ↔
      DeliversExactly Prod.snd session.IsThere session.registry.callbacks session.assigned := by
  have paired (call : ServerCall) : Function.Injective
      (List.map fun callback : Callback => (callback, call)) :=
    List.map_injective_iff.mpr fun _ _ equal => congrArg Prod.fst equal
  constructor
  · intro routes destination found
    have invoked := (routes { event := 0, element := destination.1, modelId := destination.2 }
      found).1
    rw [bleMeshGenericModelCb, callEntries_invoked, List.append_cancel_left_eq] at invoked
    exact paired _ invoked
  · intro delivers call found
    have same : session.registry.callbacks call.modelId =
        (session.latest call.element call.modelId).toList :=
      delivers (call.element, call.modelId) found
    simp only [bleMeshGenericModelCb, espBleMeshLightingModelCb, callEntries_invoked, same,
      and_self]

variable {session next : Session Callback Args} {call : RegistrationCall Callback Args}

theorem isThere_of_step (happens : registerStep session call = some next) :
    next.IsThere = session.IsThere := by
  cases happens
  funext destination
  rw [Session.IsThere, Session.answer, register_eq, registerSigModelUserArgs_instances]
  rfl

/-- The answer to a registration assigns its callback or leaves what was assigned. -/
theorem assigned_of_step (happens : registerStep session call = some next) :
    next.assigned = assign session.assigned call.destination ((session.answer call).1 = 0)
      call.registration.modelCallback := by
  cases happens
  funext destination
  simp only [assign, Session.assigned, Session.latest, List.find?_cons, Prod.ext_iff,
    RegistrationCall.destination]
  split
  next matched => simp [of_decide_eq_true matched]
  next missed => rw [if_neg (of_decide_eq_false missed)]

/-- The array of the session is filled from the front. -/
def Filled (session : Session Callback Args) : Prop :=
  ∃ held, session.registry.userArgs.FilledBy held

theorem filled_initial (elements : List (List (SigModel Args))) :
    Filled (Session.initial elements : Session Callback Args) :=
  ⟨[], SlotTable.filledBy_empty⟩

theorem routesExactly_initial (elements : List (List (SigModel Args))) :
    RoutesExactly (Session.initial elements : Session Callback Args) := by
  rw [routesExactly_iff]
  intro destination _
  rfl

theorem answer_of_rejected (rejected : call.registration.modelId = 0) :
    session.answer call = (-1, session.before call) :=
  register_of_modelId_zero rejected call.malloc

/-- The answer is 0 exactly if no allocation fails. -/
theorem answer_code_iff (accepted : call.registration.modelId ≠ 0)
    (found : session.IsThere call.destination) :
    (session.answer call).1 = 0 ↔ AllGranted session call := by
  have foundNow : 0 < (session.before call).instances call.registration.elementId.toNat
      call.registration.modelId := found
  rw [Session.answer, register_code accepted foundNow, AllGranted, grants]
  split
  next all => exact iff_of_true rfl all
  next refused => exact iff_of_false (by decide) refused

theorem filled_of_step (filled : Filled session) (happens : registerStep session call = some next) :
    Filled next := by
  rcases filled with ⟨held, filled⟩
  cases happens
  by_cases rejected : call.registration.modelId = 0
  · refine ⟨held, ?_⟩
    rwa [answer_of_rejected rejected]
  · have filledNow : (session.before call).userArgs.FilledBy held := filled
    exact ⟨_, register_filled filledNow call.registration rejected call.malloc⟩

theorem callbacks_of_step (filled : Filled session) (accepted : call.registration.modelId ≠ 0)
    (happens : registerStep session call = some next) :
    next.registry.callbacks =
      fileCopies session.registry.callbacks call.registration.modelId (copiesStored session call)
        call.registration.modelCallback := by
  rcases filled with ⟨held, filled⟩
  have filledNow : (session.before call).userArgs.FilledBy held := filled
  cases happens
  funext modelId
  exact register_callbacks filledNow call.registration accepted call.malloc modelId

/-- A registration that fails the check of the model id changes nothing. -/
theorem routesExactly_of_rejected (rejected : call.registration.modelId = 0)
    (routes : RoutesExactly session) (happens : registerStep session call = some next) :
    RoutesExactly next := by
  rw [routesExactly_iff] at routes ⊢
  rw [isThere_of_step happens, assigned_of_step happens]
  cases happens
  rw [answer_of_rejected rejected]
  intro destination found
  rw [assign, if_neg (by simp)]
  exact routes destination found

/-- After a registration from a session that routes exactly. -/
theorem routesExactly_next_iff (filled : Filled session) (routes : RoutesExactly session)
    (happens : registerStep session call = some next) :
    RoutesExactly next ↔ KeepsRouting session call := by
  by_cases rejected : call.registration.modelId = 0
  · exact iff_of_true (routesExactly_of_rejected rejected routes happens)
      fun accepted => absurd rejected accepted
  rw [routesExactly_iff] at routes ⊢
  rw [isThere_of_step happens, assigned_of_step happens,
    callbacks_of_step filled rejected happens]
  have tag : call.registration.modelId = call.destination.2 := rfl
  rw [tag]
  by_cases found : session.IsThere call.destination
  · have success : (session.answer call).1 = 0 ↔ AllGranted session call :=
      answer_code_iff rejected found
    have alone : (∀ other, other ≠ call.destination → other.2 = call.destination.2 →
          ¬ session.IsThere other) ↔
        ∀ element, element ≠ call.registration.elementId.toNat →
          ¬ session.IsThere (element, call.registration.modelId) := by
      constructor
      · intro alone element different
        exact alone _ (fun same => different (congrArg Prod.fst same)) rfl
      · intro alone other different same present
        have elsewhere : other.1 ≠ call.registration.elementId.toNat :=
          fun equal => different (Prod.ext equal same)
        have named : other = (other.1, call.registration.modelId) := Prod.ext rfl same
        exact alone other.1 elsewhere (named ▸ present)
    rw [routes.assign_iff call.destination found, success, alone]
    exact ⟨fun condition _ _ => condition, fun condition => condition rejected found⟩
  · refine iff_of_true ?_ (fun _ present => absurd present found)
    have noInstances : session.registry.instances call.registration.elementId.toNat
        call.registration.modelId = 0 := Nat.eq_zero_of_not_pos found
    have none : copiesStored session call = 0 := by
      rw [copiesStored, grants, noInstances, granted, Nat.zero_min]
    rw [none]
    exact routes.assign_absent call.destination found _ _

/-- Along every run of registrations the events are routed exactly in every state exactly
if each registration meets the condition. -/
theorem routesExactly_throughout_iff (elements : List (List (SigModel Args)))
    (calls : List (RegistrationCall Callback Args)) :
    (∀ session ∈ visited registerStep (Session.initial elements) calls,
        RoutesExactly session) ↔
      ∀ performed ∈ taken registerStep (Session.initial elements) calls,
        KeepsRouting performed.1 performed.2 := by
  refine forall_visited_iff_forall_taken Filled ?_ ?_ calls (filled_initial elements)
    (routesExactly_initial elements)
  · intro session call next filled happens
    exact filled_of_step filled happens
  · intro session call next filled routes happens
    exact routesExactly_next_iff filled routes happens

/-- A Generic OnOff Server on the second element, as the light server registers it. -/
def onOffRegistration (callback : Nat) : RegistrationCall Nat Nat where
  registration := {
    kind := .generic none
    elementId := 1
    modelId := 0x1000
    modelCallback := callback
    args := none }
  malloc := fun _ => true
  behind := fun _ => false

/-- The Configuration Server, and an element with a Generic OnOff Server. -/
def onOffElements : List (List (SigModel Nat)) :=
  [[{ modelId := 0x0000, userData := none }], [{ modelId := 0x1000, userData := none }]]

/-- Both callbacks of a model that is registered again are called. -/
theorem registered_again_called_twice :
    ¬ ∀ (elements : List (List (SigModel Nat))) (calls : List (RegistrationCall Nat Nat)),
      ∀ session ∈ visited registerStep (Session.initial elements) calls,
        RoutesExactly session := by
  intro always
  have reached : ∃ session ∈ (visited registerStep (Session.initial onOffElements)
        [onOffRegistration 1, onOffRegistration 2]).getLast?,
      0 < session.registry.instances 1 0x1000 ∧
        session.latest 1 0x1000 = some 2 ∧ session.registry.callbacks 0x1000 = [1, 2] :=
    ⟨_, rfl, by decide, by decide, by decide⟩
  rcases reached with ⟨session, member, found, latest, callbacks⟩
  have routes := (routesExactly_iff session).mp
    (always onOffElements _ session (List.mem_of_getLast? member))
  have delivered : session.registry.callbacks 0x1000 = (session.latest 1 0x1000).toList :=
    routes (1, 0x1000) found
  rw [callbacks, latest] at delivered
  cases delivered

end BleMesh.Initializer
