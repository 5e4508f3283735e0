import BleMesh.Provisioner.CompositionParser

/-! # Where the parser reads

The parser reads a buffer from front to back, so it stays in bounds exactly if its
offset ends in bounds. Both that and the format's own length are walks over the
elements; they differ in the width of a vendor model and in whether vendor models
without SIG models are there at all.
-/

namespace BleMesh.Provisioner

open Foundation

variable {capacity : Nat}

namespace NetBufSimple

/-- `NumS` of the element at an offset. -/
def numS (buffer : NetBufSimple) (offset : Nat) : Nat := (buffer.data (offset + 2)).toNat

/-- `NumV` of the element at an offset. -/
def numV (buffer : NetBufSimple) (offset : Nat) : Nat := (buffer.data (offset + 3)).toNat

end NetBufSimple

/-- The elements the buffer announces from an offset on lie in it, in the layout of
the format. -/
def FormatFits (buffer : NetBufSimple) (offset : Nat) : Nat → Prop
  | 0 => True
  | count + 1 =>
      let behind := offset + 4 + 2 * buffer.numS offset + 4 * buffer.numV offset
      behind ≤ buffer.len ∧ FormatFits buffer behind count

/-- The same in the layout of the parser, which has vendor models of two bytes and
only behind SIG models. Nothing is asked behind an allocation that fails. -/
def LayoutFits (buffer : NetBufSimple) (malloc : Nat → Bool) (offset mallocs : Nat) :
    Nat → Prop
  | 0 => True
  | count + 1 =>
      let numS := buffer.numS offset
      let numV := buffer.numV offset
      offset + 4 ≤ buffer.len ∧
      if numS = 0 then LayoutFits buffer malloc (offset + 4) mallocs count
      else malloc mallocs = true →
        offset + 4 + 2 * numS ≤ buffer.len ∧
        if numV = 0 then LayoutFits buffer malloc (offset + 4 + 2 * numS) (mallocs + 1) count
        else malloc (mallocs + 1) = true →
          offset + 4 + 2 * numS + 2 * numV ≤ buffer.len ∧
          LayoutFits buffer malloc (offset + 4 + 2 * numS + 2 * numV) (mallocs + 2) count

/-- The buffer has no room for the header, or for the elements of the record's
composition. -/
def TooShort (table : SlotTable ProvNodeInfo capacity) (unicast : UInt16)
    (buffer : NetBufSimple) : Prop :=
  buffer.len < 10 ∨
    ∃ index node, findProvNode table unicast = some (index, node) ∧
      ¬ FormatFits buffer 10 node.elementNum

/-- No byte behind the buffer is read, and a buffer that is too short is refused. -/
structure RespectsLength (table : SlotTable ProvNodeInfo capacity) (unicast : UInt16)
    (buffer : NetBufSimple) (result : ParseResult capacity) : Prop where
  inBounds : ∀ index ∈ result.reads, index < buffer.len
  refused : TooShort table unicast buffer → ∃ after, result.returned = some (-1, after)

theorem afterElement_sequential (source : Source) {cursor : Cursor}
    (sequential : cursor.Sequential) : (afterElement source cursor).Sequential := by
  have counted := sequential.countMalloc
  have countedTwice := counted.countMalloc
  rw [afterElement]
  split
  · exact sequential.advance _
  split
  · exact counted.advance _
  split
  · exact counted.advance _
  split
  · exact countedTwice.advance _
  · exact countedTwice.advance _

theorem afterElements_sequential (source : Source) (count : Nat) {cursor : Cursor}
    (sequential : cursor.Sequential) : (afterElements source cursor count).Sequential := by
  induction count generalizing cursor with
  | zero => exact sequential
  | succ count induction =>
      have first := afterElement_sequential source sequential
      rw [afterElements]
      split
      · exact induction first
      · exact first

theorem le_afterElement_offset (source : Source) (cursor : Cursor) :
    cursor.offset ≤ (afterElement source cursor).offset := by
  simp only [afterElement]
  split_ifs <;> simp only [Cursor.advance_offset, Cursor.countMalloc_offset] <;> omega

/-- A bound on a later offset contains the bounds on the offsets before it. -/
theorem bound_absorb {early late len : Nat} {rest : Prop} (order : early ≤ late) :
    (early ≤ len ∧ late ≤ len ∧ rest) ↔ late ≤ len ∧ rest :=
  ⟨And.right, fun both => ⟨Nat.le_trans order both.1, both⟩⟩

/-- The elements fit if the first does, and the others behind it unless an allocation
fails. -/
theorem layoutFits_succ_iff (buffer : NetBufSimple) (malloc : Nat → Bool) (cursor : Cursor)
    (count : Nat) :
    LayoutFits buffer malloc cursor.offset cursor.mallocs (count + 1) ↔
      (afterElement { byte := buffer.data, malloc } cursor).offset ≤ buffer.len ∧
        (elementAllocated { byte := buffer.data, malloc } cursor = true →
          LayoutFits buffer malloc (afterElement { byte := buffer.data, malloc } cursor).offset
            (afterElement { byte := buffer.data, malloc } cursor).mallocs count) := by
  have numS : sigCountAt { byte := buffer.data, malloc } cursor.offset =
    buffer.numS cursor.offset := rfl
  have numV : vndCountAt { byte := buffer.data, malloc } cursor.offset =
    buffer.numV cursor.offset := rfl
  by_cases noSig : buffer.numS cursor.offset = 0
  · simp [LayoutFits, afterElement, elementAllocated, numS, noSig]
  have someSig : (buffer.numS cursor.offset == 0) = false := by simpa using noSig
  cases sigAllocated : malloc cursor.mallocs with
  | false => simp [LayoutFits, afterElement, elementAllocated, numS, noSig, sigAllocated]
  | true =>
      simp only [LayoutFits, afterElement, elementAllocated, numS, numV, noSig, someSig,
        sigAllocated, if_false, Bool.true_eq_false, Bool.false_or, Bool.true_and, true_implies]
      by_cases noVnd : buffer.numV cursor.offset = 0
      · simp only [noVnd, if_true, BEq.rfl, Bool.true_or, true_implies, Cursor.advance_offset,
          Cursor.advance_mallocs, Cursor.countMalloc_offset, Cursor.countMalloc_mallocs,
          ← Nat.add_assoc]
        exact bound_absorb (by omega)
      have someVnd : (buffer.numV cursor.offset == 0) = false := by simpa using noVnd
      cases vndAllocated : malloc (cursor.mallocs + 1) with
      | false =>
          simp only [noVnd, someVnd, if_true, if_false, Bool.or_self, Bool.false_eq_true,
            false_implies, Cursor.advance_offset, Cursor.countMalloc_offset, ← Nat.add_assoc]
          exact bound_absorb (by omega)
      | true =>
          simp only [noVnd, if_false, Bool.or_true, Bool.true_eq_false, true_implies,
            Cursor.advance_offset, Cursor.advance_mallocs, Cursor.countMalloc_offset,
            Cursor.countMalloc_mallocs, ← Nat.add_assoc]
          rw [bound_absorb (by omega), bound_absorb (by omega)]

/-- The offset ends in the buffer exactly if the elements fit in the parser's layout. -/
theorem afterElements_offset_le_iff (buffer : NetBufSimple) (malloc : Nat → Bool)
    (count : Nat) (cursor : Cursor) :
    (afterElements { byte := buffer.data, malloc } cursor count).offset ≤ buffer.len ↔
      cursor.offset ≤ buffer.len ∧
        LayoutFits buffer malloc cursor.offset cursor.mallocs count := by
  induction count generalizing cursor with
  | zero => simp [afterElements, LayoutFits]
  | succ count induction =>
      have forward := le_afterElement_offset { byte := buffer.data, malloc } cursor
      rw [layoutFits_succ_iff, bound_absorb forward, afterElements]
      cases elementAllocated { byte := buffer.data, malloc } cursor with
      | false => simp
      | true => simpa using induction _

/-! ## The law -/

theorem elementsCursor_sequential : elementsCursor.Sequential :=
  Cursor.sequential_start.countMalloc.advance 10

theorem respectsLength_iff_of_sequential {table : SlotTable ProvNodeInfo capacity}
    {unicast : UInt16} {buffer : NetBufSimple} {cursor : Cursor}
    (sequential : cursor.Sequential) (returned : Option (Int × SlotTable ProvNodeInfo capacity)) :
    RespectsLength table unicast buffer { returned, reads := cursor.reads } ↔
      cursor.offset ≤ buffer.len ∧
        (TooShort table unicast buffer → ∃ after, returned = some (-1, after)) := by
  rw [← sequential.reads_lt_iff]
  exact ⟨fun respects => ⟨respects.inBounds, respects.refused⟩, fun both => ⟨both.1, both.2⟩⟩

theorem tooShort_iff_of_found {table : SlotTable ProvNodeInfo capacity} {unicast : UInt16}
    {index : Nat} {node : ProvNodeInfo} (found : findProvNode table unicast = some (index, node))
    (buffer : NetBufSimple) :
    TooShort table unicast buffer ↔ buffer.len < 10 ∨ ¬ FormatFits buffer 10 node.elementNum := by
  simp [TooShort, found]

/-- A call that stores elements stays in the buffer exactly if the header and the
elements fit, and never refuses the buffer. -/
theorem respectsLength_elements_iff {table : SlotTable ProvNodeInfo capacity}
    {unicast : UInt16} {index : Nat} {node : ProvNodeInfo}
    (found : findProvNode table unicast = some (index, node)) {malloc : Nat → Bool}
    (buffer : NetBufSimple) {returned : Option (Int × SlotTable ProvNodeInfo capacity)}
    (accepted : ∀ after, returned ≠ some (-1, after)) :
    RespectsLength table unicast buffer { returned, reads := (afterElements
        { byte := buffer.data, malloc } elementsCursor node.elementNum).reads } ↔
      10 ≤ buffer.len ∧
        FormatFits buffer 10 node.elementNum ∧ LayoutFits buffer malloc 10 1 node.elementNum := by
  have sequential := afterElements_sequential { byte := buffer.data, malloc } node.elementNum
    elementsCursor_sequential
  rw [respectsLength_iff_of_sequential sequential, afterElements_offset_le_iff,
    tooShort_iff_of_found found]
  simp only [accepted, exists_false, imp_false, not_or, not_not, Nat.not_lt]
  constructor
  · intro fits
    rcases fits with ⟨⟨header, layout⟩, -, format⟩
    exact ⟨header, format, layout⟩
  · intro fits
    rcases fits with ⟨header, format, layout⟩
    exact ⟨⟨header, layout⟩, header, format⟩

/-- A call stays in the buffer and refuses what is too short exactly if it never
looks at the buffer, or the header fits and so do all the elements it goes on to
read, in the format's layout as well as in its own. -/
theorem parseCompositionData_respectsLength_iff (table : SlotTable ProvNodeInfo capacity)
    (malloc : Nat → Bool) (buffer : NetBufSimple) (unicast : UInt16) :
    RespectsLength table unicast buffer
        (parseCompositionData table malloc (some buffer) unicast) ↔
      espBleMeshAddrIsUnicast unicast = false ∨ buffer.len < 7 ∨
      10 ≤ buffer.len ∧ ∀ index node, findProvNode table unicast = some (index, node) →
        malloc 0 = true →
        FormatFits buffer 10 node.elementNum ∧ LayoutFits buffer malloc 10 1 node.elementNum := by
  cases isUnicast : espBleMeshAddrIsUnicast unicast with
  | false =>
      refine iff_of_true ?_ (Or.inl rfl)
      simp only [parseCompositionData, isUnicast, if_true]
      exact ⟨by simp, fun _ => ⟨table, rfl⟩⟩
  | true =>
      by_cases short : buffer.len < 7
      · refine iff_of_true ?_ (Or.inr (Or.inl short))
        simp only [parseCompositionData, isUnicast, short, if_true]
        exact ⟨by simp, fun _ => ⟨table, rfl⟩⟩
      rw [parseCompositionData_eq table malloc buffer isUnicast (Nat.not_lt.mp short)]
      simp only [Bool.true_eq_false, short, false_or]
      have headerReads := Cursor.sequential_start.advance 10
      cases found : findProvNode table unicast with
      | none =>
          rw [readComposition_of_unknown found, respectsLength_iff_of_sequential headerReads]
          refine and_congr_right fun _ => iff_of_true (fun _ => ⟨table, rfl⟩) ?_
          intro index node present
          cases present
      | some record =>
          rcases record with ⟨index, node⟩
          cases allocated : malloc 0 with
          | false =>
              rw [readComposition_of_no_memory found allocated,
                respectsLength_iff_of_sequential elementsCursor_sequential]
              refine and_congr_right fun _ => iff_of_true (fun _ => ⟨_, rfl⟩) ?_
              intro _ _ _ impossible
              cases impossible
          | true =>
              rw [readComposition_of_memory found allocated, respectsLength_elements_iff found]
              · refine and_congr_right fun _ => ?_
                constructor
                · intro fits _ _ present _
                  cases present
                  exact fits
                · intro fits
                  exact fits index node rfl rfl
              · intro after
                dsimp only
                split <;> simp

/-- A reply of seven bytes. -/
def sevenBytes : NetBufSimple where
  data _ := 0
  len := 7

/-- A buffer of seven bytes passes the length test and all ten header bytes are read. -/
theorem parseCompositionData_reads_beyond_length :
    ¬ ∀ (table : SlotTable ProvNodeInfo provMaxProvDevCnt) (malloc : Nat → Bool)
      (buffer : NetBufSimple) (unicast : UInt16),
      (∀ index node, table.get index = some node → node.elementNum ≤ 255) →
      RespectsLength table unicast buffer
        (parseCompositionData table malloc (some buffer) unicast) := by
  intro always
  have respects := always SlotTable.empty (fun _ => true) sevenBytes 5 (by simp)
  have read : 9 ∈ (parseCompositionData
      (SlotTable.empty : SlotTable ProvNodeInfo provMaxProvDevCnt) (fun _ => true)
      (some sevenBytes) 5).reads := by decide
  exact absurd (respects.inBounds 9 read) (by decide)

end BleMesh.Provisioner
