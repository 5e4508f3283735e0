import Mathlib.Data.List.Basic

/-! # Runs of a partial step function

A system is a step function that answers `none` for an event that cannot happen
in a state. A list of events is run until the first event that cannot happen, so
every list of events describes a run.
-/

namespace Foundation.Execution

variable {State Event : Type}

/-- The state after all the events, when each of them can happen in turn. -/
def run (step : State → Event → Option State) : State → List Event → Option State
  | state, [] => some state
  | state, event :: events =>
      match step state event with
      | none => none
      | some next => run step next events

/-- The states a run passes through, the initial one included. -/
def visited (step : State → Event → Option State) : State → List Event → List State
  | state, [] => [state]
  | state, event :: events =>
      state :: match step state event with
        | none => []
        | some next => visited step next events

/-- The steps of a run: each event that happened, with the state it happened in. -/
def taken (step : State → Event → Option State) :
    State → List Event → List (State × Event)
  | _, [] => []
  | state, event :: events =>
      match step state event with
      | none => []
      | some next => (state, event) :: taken step next events

variable {step : State → Event → Option State}

@[simp] theorem run_nil (state : State) : run step state [] = some state := rfl

theorem run_cons_eq_some_iff {state final : State} {event : Event} {events : List Event} :
    run step state (event :: events) = some final ↔
      ∃ next, step state event = some next ∧ run step next events = some final := by
  cases happens : step state event <;> simp [run, happens]

@[simp] theorem visited_nil (state : State) : visited step state [] = [state] := rfl

@[simp] theorem taken_nil (state : State) : taken step state [] = [] := rfl

theorem visited_cons_of_step {state next : State} {event : Event} {events : List Event}
    (happens : step state event = some next) :
    visited step state (event :: events) = state :: visited step next events := by
  simp [visited, happens]

theorem visited_cons_of_stuck {state : State} {event : Event} {events : List Event}
    (stuck : step state event = none) :
    visited step state (event :: events) = [state] := by
  simp [visited, stuck]

theorem taken_cons_of_step {state next : State} {event : Event} {events : List Event}
    (happens : step state event = some next) :
    taken step state (event :: events) = (state, event) :: taken step next events := by
  simp [taken, happens]

theorem taken_cons_of_stuck {state : State} {event : Event} {events : List Event}
    (stuck : step state event = none) :
    taken step state (event :: events) = [] := by
  simp [taken, stuck]

theorem mem_visited_self (state : State) (events : List Event) :
    state ∈ visited step state events := by
  cases events <;> simp [visited]

/-- A run passes through its final state. -/
theorem mem_visited_of_run {events : List Event} {initial final : State}
    (runs : run step initial events = some final) : final ∈ visited step initial events := by
  induction events generalizing initial with
  | nil => simpa [eq_comm] using runs
  | cons event events induction =>
      rcases run_cons_eq_some_iff.mp runs with ⟨next, happens, rest⟩
      rw [visited_cons_of_step happens]
      exact List.mem_cons_of_mem _ (induction rest)

/-- A run goes on from where its first part ends. -/
theorem run_append (front back : List Event) (initial : State) :
    run step initial (front ++ back) =
      (run step initial front).bind fun middle => run step middle back := by
  induction front generalizing initial with
  | nil => rfl
  | cons event front induction =>
      rw [List.cons_append, run, run]
      cases step initial event with
      | none => rfl
      | some next => exact induction next

theorem taken_append_of_run {front : List Event} {initial middle : State}
    (runs : run step initial front = some middle) (back : List Event) :
    taken step initial (front ++ back) =
      taken step initial front ++ taken step middle back := by
  induction front generalizing initial with
  | nil =>
      cases runs
      rfl
  | cons event front induction =>
      rcases run_cons_eq_some_iff.mp runs with ⟨next, happens, rest⟩
      rw [List.cons_append, taken_cons_of_step happens, taken_cons_of_step happens,
        induction rest, List.cons_append]

/-! ## Simulations -/

/-- If each step is a run of another system, as far as some part of the state goes, then
so is every run, and one gets stuck with the other. -/
theorem run_map_of_simulation {OtherState OtherEvent : Type}
    {otherStep : OtherState → OtherEvent → Option OtherState} (project : State → OtherState)
    (translate : Event → List OtherEvent) {Invariant : State → Prop}
    (keeps : ∀ state event next, Invariant state → step state event = some next →
      Invariant next)
    (simulates : ∀ state event, Invariant state →
      (step state event).map project = run otherStep (project state) (translate event))
    (events : List Event) {initial : State} (holds : Invariant initial) :
    (run step initial events).map project =
      run otherStep (project initial) (events.flatMap translate) := by
  induction events generalizing initial with
  | nil => rfl
  | cons event events induction =>
      rw [List.flatMap_cons, run_append, ← simulates initial event holds, run]
      cases happens : step initial event with
      | none => rfl
      | some next => exact induction (keeps initial event next holds happens)

/-- Related results are related after what is done with them next. -/
theorem rel_bind {Other NextState NextOther : Type} {Related : State → Other → Prop}
    {RelatedNext : NextState → NextOther → Prop} {first : State → Option NextState}
    {second : Other → Option NextOther} {result : Option State} {other : Option Other}
    (related : Option.Rel Related result other)
    (continues : ∀ state other, Related state other →
      Option.Rel RelatedNext (first state) (second other)) :
    Option.Rel RelatedNext (result.bind first) (other.bind second) := by
  cases related with
  | none => exact Option.Rel.none
  | some relatedNow => exact continues _ _ relatedNow

/-- Two systems whose steps keep their states related, and which get stuck together, have
related runs. -/
theorem run_related {OtherState OtherEvent : Type}
    {otherStep : OtherState → OtherEvent → Option OtherState} (translate : Event → OtherEvent)
    {Related : State → OtherState → Prop}
    (simulates : ∀ state other event, Related state other →
      Option.Rel Related (step state event) (otherStep other (translate event)))
    (events : List Event) {initial : State} {otherInitial : OtherState}
    (related : Related initial otherInitial) :
    Option.Rel Related (run step initial events)
      (run otherStep otherInitial (events.map translate)) := by
  induction events generalizing initial otherInitial with
  | nil => exact Option.Rel.some related
  | cons event events induction =>
      have first := simulates initial otherInitial event related
      rw [List.map_cons, run, run]
      cases happens : step initial event with
      | none =>
          rw [happens] at first
          cases otherHappens : otherStep otherInitial (translate event) with
          | none => exact Option.Rel.none
          | some otherNext =>
              rw [otherHappens] at first
              cases first
      | some next =>
          rw [happens] at first
          cases otherHappens : otherStep otherInitial (translate event) with
          | none =>
              rw [otherHappens] at first
              cases first
          | some otherNext =>
              rw [otherHappens] at first
              cases first with
              | some relatedNext => exact induction relatedNext

/-- What can be observed of related runs is the same. -/
theorem run_observed {OtherState OtherEvent Observation : Type}
    {otherStep : OtherState → OtherEvent → Option OtherState} (translate : Event → OtherEvent)
    {Related : State → OtherState → Prop}
    (simulates : ∀ state other event, Related state other →
      Option.Rel Related (step state event) (otherStep other (translate event)))
    {observe : State → Observation} {observeOther : OtherState → Observation}
    (observes : ∀ state other, Related state other → observe state = observeOther other)
    (events : List Event) {initial : State} {otherInitial : OtherState}
    (related : Related initial otherInitial) :
    (run step initial events).map observe =
      (run otherStep otherInitial (events.map translate)).map observeOther := by
  have ends := run_related translate simulates events related
  cases final : run step initial events with
  | none =>
      rw [final] at ends
      cases otherFinal : run otherStep otherInitial (events.map translate) with
      | none => rfl
      | some other =>
          rw [otherFinal] at ends
          cases ends
  | some state =>
      rw [final] at ends
      cases otherFinal : run otherStep otherInitial (events.map translate) with
      | none =>
          rw [otherFinal] at ends
          cases ends
      | some other =>
          rw [otherFinal] at ends
          cases ends with
          | some relatedNow => exact congrArg some (observes state other relatedNow)

/-! ## Invariants -/

/-- A relation between the state and what has been recorded of the events so far,
which every step keeps, holds at the end of every run. -/
theorem invariant_of_recorded_run {Record : Type} (record : Record → Event → Record)
    (Invariant : State → Record → Prop)
    (keeps : ∀ state recorded event next, Invariant state recorded →
      step state event = some next → Invariant next (record recorded event))
    {events : List Event} {initial final : State} {recorded : Record}
    (holds : Invariant initial recorded) (runs : run step initial events = some final) :
    Invariant final (events.foldl record recorded) := by
  induction events generalizing initial recorded with
  | nil =>
      cases runs
      exact holds
  | cons event events induction =>
      rcases run_cons_eq_some_iff.mp runs with ⟨next, happens, rest⟩
      exact induction (keeps initial recorded event next holds happens) rest

/-- What every step keeps holds in every state a run passes through. -/
theorem invariant_of_visited {Invariant : State → Prop}
    (keeps : ∀ state event next, Invariant state → step state event = some next →
      Invariant next) (events : List Event) {initial : State}
    (holds : Invariant initial) :
    ∀ state ∈ visited step initial events, Invariant state := by
  induction events generalizing initial with
  | nil =>
      intro state member
      rw [visited_nil, List.mem_singleton] at member
      exact member ▸ holds
  | cons event events induction =>
      intro state member
      cases happens : step initial event with
      | none =>
          rw [visited_cons_of_stuck happens, List.mem_singleton] at member
          exact member ▸ holds
      | some next =>
          rw [visited_cons_of_step happens, List.mem_cons] at member
          rcases member with equal | later
          · exact equal ▸ holds
          · exact induction (keeps initial event next holds happens) state later

/-- Every step of a run starts in a state that satisfies the invariant. -/
theorem invariant_of_taken {Invariant : State → Prop}
    (keeps : ∀ state event next, Invariant state → step state event = some next →
      Invariant next) (events : List Event) {initial : State}
    (holds : Invariant initial) :
    ∀ performed ∈ taken step initial events, Invariant performed.1 := by
  induction events generalizing initial with
  | nil => simp
  | cons event events induction =>
      intro performed member
      cases happens : step initial event with
      | none => simp [taken_cons_of_stuck happens] at member
      | some next =>
          rw [taken_cons_of_step happens, List.mem_cons] at member
          rcases member with equal | later
          · exact equal ▸ holds
          · exact induction (keeps initial event next holds happens) performed later

/-- What the steps that meet a condition keep holds at the end of a run of such steps. -/
theorem invariant_of_run_taken {Invariant : State → Prop} {Meets : State → Event → Prop}
    (keeps : ∀ state event next, Invariant state → Meets state event →
      step state event = some next → Invariant next)
    {events : List Event} {initial final : State} (holds : Invariant initial)
    (meets : ∀ performed ∈ taken step initial events, Meets performed.1 performed.2)
    (runs : run step initial events = some final) : Invariant final := by
  induction events generalizing initial with
  | nil =>
      cases runs
      exact holds
  | cons event events induction =>
      rcases run_cons_eq_some_iff.mp runs with ⟨next, happens, rest⟩
      rw [taken_cons_of_step happens, List.forall_mem_cons] at meets
      exact induction (keeps initial event next holds meets.1 happens) meets.2 rest

/-- When each event that counts uses up one of what is left and no other event changes
it, a run uses up one for each event that counts. -/
theorem countdown_of_run {Invariant : State → Prop} {Allowed : Event → Prop}
    {left : State → Nat} {counts : Event → Bool}
    (keeps : ∀ state event next, Invariant state → Allowed event →
      step state event = some next → Invariant next)
    (spends : ∀ state event next, Invariant state → Allowed event →
      step state event = some next → left next + (counts event).toNat = left state)
    {events : List Event} {initial final : State} (holds : Invariant initial)
    (allowed : ∀ event ∈ events, Allowed event) (runs : run step initial events = some final) :
    left final + events.countP counts = left initial := by
  induction events generalizing initial with
  | nil =>
      cases runs
      rfl
  | cons event events induction =>
      rcases run_cons_eq_some_iff.mp runs with ⟨next, happens, rest⟩
      rcases List.forall_mem_cons.mp allowed with ⟨first, others⟩
      have later := induction (keeps initial event next holds first happens) others rest
      have spent := spends initial event next holds first happens
      cases counted : counts event with
      | false =>
          rw [counted, Bool.toNat_false] at spent
          rw [List.countP_cons_of_neg (by simp [counted])]
          omega
      | true =>
          rw [counted, Bool.toNat_true] at spent
          rw [List.countP_cons_of_pos counted]
          omega

/-! ## Properties of steps -/

/-- Each step of the run from one state to the next has the property. -/
def EveryStep (step : State → Event → Option State) (Property : State → Event → State → Prop)
    (initial : State) (events : List Event) : Prop :=
  ∀ performed ∈ taken step initial events, ∀ next,
    step performed.1 performed.2 = some next → Property performed.1 performed.2 next

theorem everyStep_of_invariant (Invariant : State → Prop)
    {Property : State → Event → State → Prop}
    (keeps : ∀ state event next, Invariant state → step state event = some next →
      Invariant next)
    (each : ∀ state event next, Invariant state → step state event = some next →
      Property state event next)
    (events : List Event) {initial : State} (holds : Invariant initial) :
    EveryStep step Property initial events := by
  intro performed member next happens
  have invariant := invariant_of_taken keeps events holds performed member
  exact each performed.1 performed.2 next invariant happens

/-! ## Halting -/

/-- A step that does not get past a state that is not good. -/
def halting (Good : State → Prop) [DecidablePred Good] (step : State → Event → Option State)
    (state : State) (event : Event) : Option State :=
  (step state event).bind fun next => if Good next then some next else none

theorem run_halting_of_good {Good : State → Prop} [DecidablePred Good] {events : List Event}
    {initial : State} (good : ∀ state ∈ visited step initial events, Good state) :
    run (halting Good step) initial events = run step initial events := by
  induction events generalizing initial with
  | nil => rfl
  | cons event events induction =>
      rw [run, run, halting]
      cases happens : step initial event with
      | none => rfl
      | some next =>
          rw [visited_cons_of_step happens, List.forall_mem_cons] at good
          rw [Option.bind_some, if_pos (good.2 next (mem_visited_self next events))]
          exact induction good.2

theorem run_halting_of_bad {Good : State → Prop} [DecidablePred Good] {events : List Event}
    {initial : State} (good : Good initial)
    (bad : ¬ ∀ state ∈ visited step initial events, Good state) :
    run (halting Good step) initial events = none := by
  induction events generalizing initial with
  | nil => simp [good] at bad
  | cons event events induction =>
      rw [run, halting]
      cases happens : step initial event with
      | none => rfl
      | some next =>
          rw [Option.bind_some]
          by_cases nextGood : Good next
          · rw [visited_cons_of_step happens, List.forall_mem_cons, and_iff_right good] at bad
            rw [if_pos nextGood]
            exact induction nextGood bad
          · rw [if_neg nextGood]

/-! ## Properties with an exact step condition -/

/-- A run from a strong state passes through good states only exactly if all of its
steps meet a condition: strong states are good, a step that meets the condition
leads from a strong state to a strong state, and one that does not leads to a state
that is not good. -/
theorem forall_visited_iff_of_strong (Strong : State → Prop) {Good : State → Prop}
    {Meets : State → Event → Prop} (strongGood : ∀ state, Strong state → Good state)
    (keeps : ∀ state event next, Strong state → step state event = some next →
      Meets state event → Strong next)
    (detects : ∀ state event next, Strong state → step state event = some next →
      Good next → Meets state event)
    (events : List Event) {initial : State} (strong : Strong initial) :
    (∀ state ∈ visited step initial events, Good state) ↔
      ∀ performed ∈ taken step initial events, Meets performed.1 performed.2 := by
  have good := strongGood initial strong
  induction events generalizing initial with
  | nil => simpa using good
  | cons event events induction =>
      cases happens : step initial event with
      | none => simpa [visited_cons_of_stuck happens, taken_cons_of_stuck happens] using good
      | some next =>
          rw [visited_cons_of_step happens, taken_cons_of_step happens,
            List.forall_mem_cons, List.forall_mem_cons]
          constructor
          · intro both
            rcases both with ⟨-, later⟩
            have nextGood := later next (mem_visited_self next events)
            have meets := detects initial event next strong happens nextGood
            have nextStrong := keeps initial event next strong happens meets
            exact ⟨meets, (induction nextStrong nextGood).mp later⟩
          · intro both
            rcases both with ⟨meets, later⟩
            have nextStrong := keeps initial event next strong happens meets
            exact ⟨good, (induction nextStrong (strongGood next nextStrong)).mpr later⟩

/-- The case of an invariant that every step keeps, and a condition that decides
whether a step from a good state leads to a good state. -/
theorem forall_visited_iff_forall_taken (Invariant : State → Prop) {Good : State → Prop}
    {Meets : State → Event → Prop}
    (keeps : ∀ state event next, Invariant state → step state event = some next →
      Invariant next)
    (exact : ∀ state event next, Invariant state → Good state →
      step state event = some next → (Good next ↔ Meets state event))
    (events : List Event) {initial : State} (holds : Invariant initial)
    (good : Good initial) :
    (∀ state ∈ visited step initial events, Good state) ↔
      ∀ performed ∈ taken step initial events, Meets performed.1 performed.2 := by
  apply forall_visited_iff_of_strong (fun state => Invariant state ∧ Good state)
  · intro state both
    exact both.2
  · intro state event next both happens meets
    exact ⟨keeps state event next both.1 happens,
      (exact state event next both.1 both.2 happens).mpr meets⟩
  · intro state event next both happens nextGood
    exact (exact state event next both.1 both.2 happens).mp nextGood
  · exact ⟨holds, good⟩

/-- The same for a run of steps that are all as assumed. -/
theorem forall_visited_iff_of_assumed (Invariant : State → Prop) {Good : State → Prop}
    {Assumed Meets : State → Event → Prop}
    (keeps : ∀ state event next, Invariant state → Assumed state event →
      step state event = some next → Invariant next)
    (exact : ∀ state event next, Invariant state → Good state → Assumed state event →
      step state event = some next → (Good next ↔ Meets state event))
    (events : List Event) {initial : State} (holds : Invariant initial)
    (good : Good initial)
    (assumed : ∀ performed ∈ taken step initial events, Assumed performed.1 performed.2) :
    (∀ state ∈ visited step initial events, Good state) ↔
      ∀ performed ∈ taken step initial events, Meets performed.1 performed.2 := by
  induction events generalizing initial with
  | nil => simpa using good
  | cons event events induction =>
      cases happens : step initial event with
      | none => simpa [visited_cons_of_stuck happens, taken_cons_of_stuck happens] using good
      | some next =>
          rw [taken_cons_of_step happens, List.forall_mem_cons] at assumed
          rw [visited_cons_of_step happens, taken_cons_of_step happens,
            List.forall_mem_cons, List.forall_mem_cons]
          have nextHolds := keeps initial event next holds assumed.1 happens
          have first := exact initial event next holds good assumed.1 happens
          constructor
          · intro both
            rcases both with ⟨-, later⟩
            have nextGood := later next (mem_visited_self next events)
            exact ⟨first.mp nextGood, (induction nextHolds nextGood assumed.2).mp later⟩
          · intro both
            rcases both with ⟨meets, later⟩
            exact ⟨good, (induction nextHolds (first.mpr meets) assumed.2).mpr later⟩

/-- Two conditions on steps that agree wherever the invariant holds agree along
every run. -/
theorem forall_taken_congr (Invariant : State → Prop) {Left Right : State → Event → Prop}
    (keeps : ∀ state event next, Invariant state → step state event = some next →
      Invariant next)
    (agree : ∀ state event, Invariant state → (Left state event ↔ Right state event))
    (events : List Event) {initial : State} (holds : Invariant initial) :
    (∀ performed ∈ taken step initial events, Left performed.1 performed.2) ↔
      ∀ performed ∈ taken step initial events, Right performed.1 performed.2 := by
  have invariant := invariant_of_taken keeps events holds
  constructor
  · intro left performed member
    exact (agree _ _ (invariant performed member)).mp (left performed member)
  · intro right performed member
    exact (agree _ _ (invariant performed member)).mpr (right performed member)

/-! ## Logs -/

/-- The events of a run that comes to an end have all happened. -/
theorem taken_events_of_run {events : List Event} {initial final : State}
    (runs : run step initial events = some final) :
    (taken step initial events).map Prod.snd = events := by
  induction events generalizing initial with
  | nil => rfl
  | cons event events induction =>
      rcases run_cons_eq_some_iff.mp runs with ⟨next, happens, rest⟩
      rw [taken_cons_of_step happens, List.map_cons, induction rest]

/-- A log to which every step adds something holds, at the end of a run, what the steps
have added, in order. -/
theorem log_of_run {Entry : Type} (log : State → List Entry)
    (adds : State × Event → List Entry)
    (grows : ∀ state event next, step state event = some next →
      log next = log state ++ adds (state, event))
    {events : List Event} {initial final : State}
    (runs : run step initial events = some final) :
    log final = log initial ++ (taken step initial events).flatMap adds := by
  induction events generalizing initial with
  | nil =>
      cases runs
      exact (List.append_nil _).symm
  | cons event events induction =>
      rcases run_cons_eq_some_iff.mp runs with ⟨next, happens, rest⟩
      rw [induction rest, grows initial event next happens, taken_cons_of_step happens,
        List.flatMap_cons, List.append_assoc]

theorem flatMap_length_le {Step Entry : Type} {adds lacks : Step → List Entry}
    (shorter : ∀ performed, (lacks performed).length ≤ (adds performed).length)
    (steps : List Step) : (steps.flatMap lacks).length ≤ (steps.flatMap adds).length := by
  induction steps with
  | nil => exact Nat.le_refl _
  | cons performed steps induction =>
      rw [List.flatMap_cons, List.flatMap_cons, List.length_append, List.length_append]
      exact Nat.add_le_add (shorter performed) induction

/-- Two logs of the same steps, one of which lacks some of the additions of the other,
agree exactly if it lacks none. -/
theorem flatMap_eq_iff_of_lacks {Step Entry : Type} {adds lacks : Step → List Entry}
    (compared : ∀ performed, lacks performed = adds performed ∨ lacks performed = [])
    (steps : List Step) :
    steps.flatMap adds = steps.flatMap lacks ↔
      ∀ performed ∈ steps, lacks performed = adds performed := by
  have shorter : ∀ performed, (lacks performed).length ≤ (adds performed).length := by
    intro performed
    rcases compared performed with same | none
    · exact Nat.le_of_eq (congrArg List.length same)
    · simp [none]
  induction steps with
  | nil => simp
  | cons performed steps induction =>
      rw [List.flatMap_cons, List.flatMap_cons, List.forall_mem_cons]
      constructor
      · intro equal
        have lengths := congrArg List.length equal
        rw [List.length_append, List.length_append] at lengths
        have first := shorter performed
        have rest := flatMap_length_le shorter steps
        rcases List.append_inj equal (by omega) with ⟨same, restSame⟩
        exact ⟨same.symm, induction.mp restSame⟩
      · intro both
        rw [both.1, induction.mpr both.2]

end Foundation.Execution
