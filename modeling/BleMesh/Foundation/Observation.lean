import Mathlib.Data.List.Destutter
import BleMesh.Foundation.Execution

/-! # What a run shows

A value that is observed in every state of a run, noted each time it changes. When the
changes are owed for something that the events ask for, they come in the order of the
events and no event is paid for twice.
-/

namespace Foundation.Observation

open Execution

variable {State Event α : Type} [DecidableEq α] {step : State → Event → Option State}

/-- The values that a run changes to, in order. -/
def changes (step : State → Event → Option State) (observe : State → α) (initial : State)
    (events : List Event) : List α :=
  (((visited step initial events).map observe).destutter (· ≠ ·)).tail

/-- The value after a step, when it is a new one. -/
def change (observe : State → α) (state next : State) : List α :=
  if observe next = observe state then [] else [observe next]

theorem visited_eq_cons (step : State → Event → Option State) (state : State)
    (events : List Event) :
    ∃ later, visited step state events = state :: later := by
  cases events <;> exact ⟨_, rfl⟩

/-- The first of the values that are left is the first of all. -/
theorem destutter'_eq_cons (first : α) (values : List α) :
    ∃ later, values.destutter' (· ≠ ·) first = first :: later := by
  induction values with
  | nil => exact ⟨[], rfl⟩
  | cons value values induction =>
      by_cases same : first = value
      · rw [List.destutter'_cons_neg _ (not_not_intro same)]
        exact induction
      · rw [List.destutter'_cons_pos _ same]
        exact ⟨_, rfl⟩

theorem changes_of_stuck {observe : State → α} {state : State} {event : Event}
    {events : List Event} (stuck : step state event = none) :
    changes step observe state (event :: events) = [] := by
  rw [changes, visited_cons_of_stuck stuck]
  rfl

theorem changes_cons_of_step {observe : State → α} {state next : State} {event : Event}
    {events : List Event} (happens : step state event = some next) :
    changes step observe state (event :: events) =
      change observe state next ++ changes step observe next events := by
  rcases visited_eq_cons step next events with ⟨later, nextStates⟩
  rw [changes, changes, visited_cons_of_step happens, nextStates, List.map_cons, List.map_cons,
    List.destutter_cons', List.destutter_cons', change]
  rcases destutter'_eq_cons (observe next) (later.map observe) with ⟨values, kept⟩
  by_cases same : observe next = observe state
  · rw [if_pos same, List.destutter'_cons_neg _ (not_not_intro same.symm), ← same,
      List.nil_append]
  · have different : observe state ≠ observe next := fun equal => same equal.symm
    rw [if_neg same, List.destutter'_cons_pos _ different, kept]
    rfl

/-- Each step pays, with a change of the value, for what is owed before it or asked for
by its event, and owes at most the rest. Then a run changes the value only as it is asked
to, in order. -/
theorem changes_sublist_of_owed {Invariant : State → Prop} {observe : State → α}
    {owed : State → List α} {asked : Event → List α}
    (keeps : ∀ state event next, Invariant state → step state event = some next →
      Invariant next)
    (pays : ∀ state event next, Invariant state → step state event = some next →
      (change observe state next ++ owed next).Sublist (owed state ++ asked event))
    (events : List Event) {initial : State} (holds : Invariant initial) :
    (changes step observe initial events).Sublist (owed initial ++ events.flatMap asked) := by
  induction events generalizing initial with
  | nil => exact List.nil_sublist _
  | cons event events induction =>
      cases happens : step initial event with
      | none =>
          rw [changes_of_stuck happens]
          exact List.nil_sublist _
      | some next =>
          have paid := pays initial event next holds happens
          have later := induction (keeps initial event next holds happens)
          have restOwed : (change observe initial next ++
              changes step observe next events).Sublist
                ((change observe initial next ++ owed next) ++ events.flatMap asked) := by
            rw [List.append_assoc]
            exact later.append_left _
          rw [changes_cons_of_step happens, List.flatMap_cons, ← List.append_assoc]
          exact restOwed.trans (paid.append_right _)

end Foundation.Observation
