import Mathlib.Data.List.Basic

/-! # Lists with a filler inserted

A reader that skips nothing sees a stream with fillers as the stream itself only
if it cannot tell the difference: from the first filler on, all entries are equal
to the filler.
-/

namespace Foundation.Insertion

variable {α : Type}

/-- Insert `filler` before each marked entry. -/
def insertBefore (filler : α) : List (α × Bool) → List α
  | [] => []
  | (entry, true) :: rest => filler :: entry :: insertBefore filler rest
  | (entry, false) :: rest => entry :: insertBefore filler rest

def entries (marked : List (α × Bool)) : List α := marked.map Prod.fst

theorem insertBefore_append (filler : α) (left right : List (α × Bool)) :
    insertBefore filler (left ++ right) =
      insertBefore filler left ++ insertBefore filler right := by
  induction left with
  | nil => rfl
  | cons first left induction =>
      rcases first with ⟨entry, _ | _⟩ <;> simp [insertBefore, induction]

theorem length_entries_le (filler : α) (marked : List (α × Bool)) :
    (entries marked).length ≤ (insertBefore filler marked).length := by
  induction marked with
  | nil => exact Nat.le_refl _
  | cons first marked induction =>
      rcases first with ⟨entry, _ | _⟩ <;> simp [entries, insertBefore] at induction ⊢ <;>
        omega

/-- Behind at least one filler, the entries are a prefix only if all of them are
equal to the filler: each entry is compared with one already known to be. -/
theorem entries_prefix_replicate_iff (filler : α) (marked : List (α × Bool)) (count : Nat) :
    entries marked <+: List.replicate (count + 1) filler ++ insertBefore filler marked ↔
      ∀ entry ∈ entries marked, entry = filler := by
  induction marked generalizing count with
  | nil => simp [entries]
  | cons first marked induction =>
      rcases first with ⟨entry, isMarked⟩
      have shifted : ∀ extra, List.replicate count filler ++
          List.replicate (extra + 1) filler ++ insertBefore filler marked =
          List.replicate (count + extra + 1) filler ++ insertBefore filler marked := by
        intro extra
        rw [List.replicate_append_replicate, Nat.add_assoc]
      rw [List.replicate_succ, List.cons_append, entries, List.map_cons,
        List.cons_prefix_cons, List.forall_mem_cons]
      refine and_congr_right ?_
      intro equal
      change entry = filler at equal
      subst equal
      cases isMarked with
      | false =>
          rw [← entries, ← induction (count + 0), ← shifted 0]
          simp [insertBefore]
      | true =>
          rw [← entries, ← induction (count + 1), ← shifted 1]
          simp [insertBefore, List.replicate_succ]

/-- The entries behind a marked one are a prefix of the filled list exactly if they
and the marked entry are equal to the filler. -/
theorem entries_prefix_iff_of_marked (filler entry : α) (marked : List (α × Bool)) :
    entries ((entry, true) :: marked) <+: insertBefore filler ((entry, true) :: marked) ↔
      ∀ other ∈ entries ((entry, true) :: marked), other = filler := by
  rw [insertBefore, entries, List.map_cons, List.cons_prefix_cons, List.forall_mem_cons]
  refine and_congr_right ?_
  intro equal
  change entry = filler at equal
  subst equal
  exact entries_prefix_replicate_iff entry marked 0

end Foundation.Insertion
