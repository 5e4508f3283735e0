import Mathlib.Data.List.Basic

/-! # Routes through tags

Messages for a destination are delivered to every handler filed under the tag of the
destination, and several destinations may have one tag. Delivery is exact when each
destination that is there gets the handler assigned to it and nothing else.
-/

namespace Foundation

variable {Destination Tag Handler : Type}

/-- Each destination that is there gets what is assigned to it, exactly once. -/
def DeliversExactly (tag : Destination → Tag) (isThere : Destination → Prop)
    (filed : Tag → List Handler) (assigned : Destination → Option Handler) : Prop :=
  ∀ destination, isThere destination →
    filed (tag destination) = (assigned destination).toList

/-- Copies of a handler are filed behind what is there under one tag. -/
def fileCopies [DecidableEq Tag] (filed : Tag → List Handler) (tag : Tag) (copies : Nat)
    (handler : Handler) : Tag → List Handler :=
  fun other => filed other ++ if tag = other then List.replicate copies handler else []

/-- A handler is assigned to a destination, if the assignment succeeds. -/
def assign [DecidableEq Destination] (assigned : Destination → Option Handler)
    (destination : Destination) (success : Prop) [Decidable success] (handler : Handler) :
    Destination → Option Handler :=
  fun other => if success ∧ destination = other then some handler else assigned other

/-- Copies behind some handlers leave the one that is wanted, or what was there, as it
should be. -/
theorem append_copies_iff (handlers : List Handler) (copies : Nat) (handler : Handler)
    (success : Prop) [Decidable success] :
    (handlers ++ List.replicate copies handler = if success then [handler] else handlers) ↔
      copies = 0 ∧ (¬ success ∨ handlers = [handler]) ∨
        copies = 1 ∧ success ∧ handlers = [] := by
  have single : List.replicate copies handler = [handler] ↔ copies = 1 := by
    constructor
    · intro equal
      simpa using congrArg List.length equal
    · intro one
      rw [one]
      rfl
  by_cases succeeded : success
  · rw [if_pos succeeded, List.append_eq_singleton_iff, single, List.replicate_eq_nil_iff]
    simp only [succeeded, not_true_eq_false, false_or, true_and]
    tauto
  · rw [if_neg succeeded]
    simp [succeeded]

variable [DecidableEq Destination] [DecidableEq Tag] {tag : Destination → Tag}
  {isThere : Destination → Prop} {filed : Tag → List Handler}
  {assigned : Destination → Option Handler}

/-- An assignment to a destination that is not there, with nothing filed for it. -/
theorem DeliversExactly.assign_absent (delivers : DeliversExactly tag isThere filed assigned)
    (destination : Destination) (absent : ¬ isThere destination) (success : Prop)
    [Decidable success] (handler : Handler) :
    DeliversExactly tag isThere (fileCopies filed (tag destination) 0 handler)
      (assign assigned destination success handler) := by
  intro other present
  have different : destination ≠ other := by
    intro same
    exact absent (same ▸ present)
  rw [fileCopies, List.replicate_zero, ite_self, List.append_nil, assign,
    if_neg fun both => different both.2]
  exact delivers other present

/-- Delivery stays exact if nothing is filed and nothing else should have been, or if one
copy is filed, the first under a tag that no other destination has. -/
theorem DeliversExactly.assign_iff (delivers : DeliversExactly tag isThere filed assigned)
    (destination : Destination) (present : isThere destination) (copies : Nat)
    (success : Prop) [Decidable success] (handler : Handler) :
    DeliversExactly tag isThere (fileCopies filed (tag destination) copies handler)
        (assign assigned destination success handler) ↔
      copies = 0 ∧ (¬ success ∨ filed (tag destination) = [handler]) ∨
        copies = 1 ∧ success ∧ filed (tag destination) = [] ∧
          ∀ other, other ≠ destination → tag other = tag destination → ¬ isThere other := by
  have own : fileCopies filed (tag destination) copies handler (tag destination) =
        (assign assigned destination success handler destination).toList ↔
      copies = 0 ∧ (¬ success ∨ filed (tag destination) = [handler]) ∨
        copies = 1 ∧ success ∧ filed (tag destination) = [] := by
    rw [← append_copies_iff, fileCopies, if_pos rfl, assign, delivers destination present]
    by_cases succeeded : success <;> simp [succeeded]
  constructor
  · intro after
    rcases own.mp (after destination present) with nothing | ⟨one, succeeded, first⟩
    · exact Or.inl nothing
    · refine Or.inr ⟨one, succeeded, first, ?_⟩
      intro other different same otherPresent
      have delivered := after other otherPresent
      rw [fileCopies, if_pos same.symm, assign, if_neg fun both => different both.2.symm,
        ← delivers other otherPresent, one] at delivered
      simp at delivered
  · intro condition other otherPresent
    by_cases same : other = destination
    · rw [same]
      refine own.mpr (condition.imp id ?_)
      intro one
      exact ⟨one.1, one.2.1, one.2.2.1⟩
    · rw [assign, if_neg fun both => same both.2.symm, ← delivers other otherPresent]
      rcases condition with ⟨none, _⟩ | ⟨_, _, _, alone⟩
      · rw [fileCopies, none, List.replicate_zero, ite_self, List.append_nil]
      · have different : tag destination ≠ tag other := by
          intro equal
          exact alone other same equal.symm otherPresent
        rw [fileCopies, if_neg different, List.append_nil]

end Foundation
