import Mathlib.Data.List.Basic

/-! # Segments of a stream

A stream may be cut into segments in more than one way: its writer cuts it into
messages, its reader into what it gets at one time. What a segment yields is recorded
with the position where the segment starts, so two ways of cutting yield the same
only if the segments that yield something start at the same positions.
-/

namespace Foundation.Segments

variable {Segment Value : Type} {size : Segment → Nat} {result : Segment → Option Value}

/-- What the segments from a position on yield, each with its own position. -/
def yields (size : Segment → Nat) (result : Segment → Option Value) :
    Nat → List Segment → List (Nat × Value)
  | _, [] => []
  | position, segment :: rest =>
      match result segment with
      | none => yields size result (position + size segment) rest
      | some value => (position, value) :: yields size result (position + size segment) rest

theorem yields_of_some {segment : Segment} {value : Value}
    (returns : result segment = some value) (position : Nat) (rest : List Segment) :
    yields size result position (segment :: rest) =
      (position, value) :: yields size result (position + size segment) rest := by
  simp [yields, returns]

theorem yields_of_none {segment : Segment} (silent : result segment = none) (position : Nat)
    (rest : List Segment) :
    yields size result position (segment :: rest) =
      yields size result (position + size segment) rest := by
  simp [yields, silent]

theorem le_of_mem_yields {segments : List Segment} {position : Nat} {entry : Nat × Value}
    (member : entry ∈ yields size result position segments) : position ≤ entry.1 := by
  induction segments generalizing position with
  | nil => cases member
  | cons segment rest induction =>
      cases returned : result segment with
      | none =>
          rw [yields_of_none returned] at member
          have later := induction member
          omega
      | some value =>
          rw [yields_of_some returned] at member
          rcases List.mem_cons.mp member with equal | member
          · exact Nat.le_of_eq (congrArg Prod.fst equal).symm
          · have later := induction member
            omega

/-- Nothing is yielded before the position of the first segment. -/
theorem yields_ne_cons_of_lt {segments : List Segment} {position earlier : Nat} {value : Value}
    {entries : List (Nat × Value)} (before : earlier < position) :
    yields size result position segments ≠ (earlier, value) :: entries := by
  intro equal
  have member : (earlier, value) ∈ yields size result position segments := by
    rw [equal]
    exact List.mem_cons_self
  have later := le_of_mem_yields member
  exact Nat.not_lt_of_le later before

/-- An entry at the position of the first segment comes from this segment. -/
theorem yields_cons_eq_cons_iff {segment : Segment} {rest : List Segment} {position : Nat}
    {value : Value} {entries : List (Nat × Value)} (nonempty : 0 < size segment) :
    yields size result position (segment :: rest) = (position, value) :: entries ↔
      result segment = some value ∧
        yields size result (position + size segment) rest = entries := by
  cases returned : result segment with
  | none =>
      rw [yields_of_none returned]
      constructor
      · intro equal
        exact absurd equal (yields_ne_cons_of_lt (by omega))
      · intro impossible
        cases impossible.1
  | some other =>
      rw [yields_of_some returned]
      simp

/-- A first segment that starts before all entries yields nothing. -/
theorem yields_cons_eq_of_later {segment : Segment} {rest : List Segment} {position : Nat}
    {entries : List (Nat × Value)} (later : ∀ entry ∈ entries, position < entry.1) :
    yields size result position (segment :: rest) = entries ↔
      result segment = none ∧ yields size result (position + size segment) rest = entries := by
  cases returned : result segment with
  | none =>
      rw [yields_of_none returned]
      simp
  | some value =>
      rw [yields_of_some returned]
      constructor
      · intro equal
        have first := later (position, value) (by rw [← equal]; exact List.mem_cons_self)
        exact absurd first (Nat.lt_irrefl position)
      · intro impossible
        cases impossible.1

end Foundation.Segments
