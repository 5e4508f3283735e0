import Mathlib.Data.List.TakeDrop

/-! # Block codes

A block code writes each value as a block of a fixed number of symbols. Codes compose, and
overwriting one block of an encoded list is replacing the value that it stands for.
-/

namespace Foundation

variable {Value Middle Symbol : Type}

/-- A code with blocks of one width, and a decoder for its blocks. -/
structure BlockCode (Value Symbol : Type) where
  width : Nat
  encode : Value → List Symbol
  decode : List Symbol → Option Value
  length_encode : ∀ value, (encode value).length = width
  decode_encode : ∀ value, decode (encode value) = some value

/-- Write symbols one after the other from an index on. -/
def writeFrom : List Symbol → Nat → List Symbol → List Symbol
  | buffer, _, [] => buffer
  | buffer, index, symbol :: symbols => writeFrom (buffer.set index symbol) (index + 1) symbols

theorem writeFrom_block (front old back : List Symbol) {new : List Symbol}
    (same : new.length = old.length) :
    writeFrom (front ++ old ++ back) front.length new = front ++ new ++ back := by
  induction new generalizing front old with
  | nil =>
      have empty : old = [] := List.eq_nil_of_length_eq_zero same.symm
      rw [writeFrom, empty]
  | cons symbol new induction =>
      cases old with
      | nil => cases same
      | cons first old =>
          have lengths : new.length = old.length := Nat.succ.inj same
          have written : (front ++ first :: old ++ back).set front.length symbol =
              (front ++ [symbol]) ++ old ++ back := by simp
          have index : front.length + 1 = (front ++ [symbol]).length := by simp
          rw [writeFrom, written, index, induction (front ++ [symbol]) old lengths]
          simp

/-- The part of a buffer that is written lies between what stays. -/
theorem exists_block {buffer : List Symbol} {start count : Nat}
    (inside : start + count ≤ buffer.length) :
    ∃ front old back, buffer = front ++ old ++ back ∧ front.length = start ∧
      old.length = count := by
  refine ⟨buffer.take start, (buffer.drop start).take count, (buffer.drop start).drop count, ?_,
    ?_, ?_⟩
  · rw [List.append_assoc, List.take_append_drop, List.take_append_drop]
  · rw [List.length_take]
    omega
  · rw [List.length_take, List.length_drop]
    omega

namespace BlockCode

def encodeAll (code : BlockCode Value Symbol) (values : List Value) : List Symbol :=
  values.flatMap code.encode

/-- Decode a number of blocks. What comes after them does not matter. -/
def decodeMany (code : BlockCode Value Symbol) : Nat → List Symbol → Option (List Value)
  | 0, _ => some []
  | count + 1, symbols =>
      match code.decode (symbols.take code.width) with
      | none => none
      | some value =>
          (code.decodeMany count (symbols.drop code.width)).map fun values => value :: values

variable (code : BlockCode Value Symbol)

theorem encodeAll_cons (value : Value) (values : List Value) :
    code.encodeAll (value :: values) = code.encode value ++ code.encodeAll values :=
  List.flatMap_cons ..

theorem length_encodeAll (values : List Value) :
    (code.encodeAll values).length = values.length * code.width := by
  induction values with
  | nil => rw [List.length_nil, Nat.zero_mul, encodeAll, List.flatMap_nil, List.length_nil]
  | cons value values induction =>
      rw [encodeAll_cons, List.length_append, code.length_encode, induction, List.length_cons,
        Nat.succ_mul, Nat.add_comm]

/-- What has been encoded can be read back, whatever follows it. -/
theorem decodeMany_encodeAll (values : List Value) (rest : List Symbol) :
    code.decodeMany values.length (code.encodeAll values ++ rest) = some values := by
  induction values with
  | nil => rfl
  | cons value values induction =>
      have width := code.length_encode value
      rw [encodeAll_cons, List.append_assoc, List.length_cons, decodeMany,
        List.take_left' width, code.decode_encode, List.drop_left' width]
      simp [induction]

/-- The blocks of one code written in the blocks of another. -/
def andThen (first : BlockCode Value Middle) (second : BlockCode Middle Symbol) :
    BlockCode Value Symbol where
  width := first.width * second.width
  encode value := second.encodeAll (first.encode value)
  decode symbols := (second.decodeMany first.width symbols).bind first.decode
  length_encode value := by
    rw [length_encodeAll, first.length_encode]
  decode_encode value := by
    have decoded := second.decodeMany_encodeAll (first.encode value) []
    rw [List.append_nil, first.length_encode] at decoded
    rw [decoded, Option.bind_some, first.decode_encode]

theorem encodeAll_andThen (first : BlockCode Value Middle) (second : BlockCode Middle Symbol)
    (values : List Value) :
    (first.andThen second).encodeAll values = second.encodeAll (first.encodeAll values) := by
  rw [encodeAll, encodeAll, encodeAll, List.flatMap_assoc]
  rfl

/-- Overwriting a block replaces the value that it stands for. -/
theorem writeFrom_encodeAll {values : List Value} {index : Nat} (inside : index < values.length)
    (value : Value) :
    writeFrom (code.encodeAll values) (index * code.width) (code.encode value) =
      code.encodeAll (values.set index value) := by
  have split : values = values.take index ++ values[index] :: values.drop (index + 1) := by
    rw [← List.drop_eq_getElem_cons inside, List.take_append_drop]
  have start : index * code.width = (code.encodeAll (values.take index)).length := by
    rw [length_encodeAll, List.length_take_of_le (Nat.le_of_lt inside)]
  have same : (code.encode value).length = (code.encode values[index]).length := by
    rw [code.length_encode, code.length_encode]
  have before : code.encodeAll values = code.encodeAll (values.take index) ++
      code.encode values[index] ++ code.encodeAll (values.drop (index + 1)) := by
    rw [List.append_assoc]
    exact (congrArg code.encodeAll split).trans (List.flatMap_append ..)
  have after : code.encodeAll (values.set index value) = code.encodeAll (values.take index) ++
      code.encode value ++ code.encodeAll (values.drop (index + 1)) := by
    rw [List.set_eq_take_append_cons_drop, if_pos inside, List.append_assoc]
    exact List.flatMap_append ..
  rw [before, start, writeFrom_block _ _ _ same, after]

/-! ## Blank blocks -/

/-- A code for values that may be missing. The block of a missing value is blank, which the
decoder does not take for the block of a value. -/
def withBlank (blank : Symbol)
    (unreadable : code.decode (List.replicate code.width blank) = none) :
    BlockCode (Option Value) Symbol where
  width := code.width
  encode
    | none => List.replicate code.width blank
    | some value => code.encode value
  decode symbols := some (code.decode symbols)
  length_encode value := by
    cases value with
    | none => exact List.length_replicate
    | some value => exact code.length_encode value
  decode_encode value := by
    cases value with
    | none => exact congrArg some unreadable
    | some value => exact congrArg some (code.decode_encode value)

theorem encodeAll_withBlank {blank : Symbol}
    (unreadable : code.decode (List.replicate code.width blank) = none) (values : List Value) :
    (code.withBlank blank unreadable).encodeAll (values.map some) = code.encodeAll values := by
  rw [encodeAll, List.flatMap_map]
  rfl

theorem encodeAll_blank {blank : Symbol}
    (unreadable : code.decode (List.replicate code.width blank) = none) (count : Nat) :
    (code.withBlank blank unreadable).encodeAll (List.replicate count none) =
      List.replicate (count * code.width) blank := by
  rw [encodeAll, List.flatMap_def, List.map_replicate]
  exact List.flatten_replicate_replicate

/-- A decoder that knows no blanks reads the values when none of them is missing. -/
theorem decodeMany_withBlank {blank : Symbol}
    (unreadable : code.decode (List.replicate code.width blank) = none)
    (values : List (Option Value)) :
    code.decodeMany values.length ((code.withBlank blank unreadable).encodeAll values) =
      values.mapM id := by
  induction values with
  | nil => rfl
  | cons value values induction =>
      have width : ((code.withBlank blank unreadable).encode value).length = code.width :=
        (code.withBlank blank unreadable).length_encode value
      have decoded : code.decode ((code.withBlank blank unreadable).encode value) = value :=
        Option.some.inj ((code.withBlank blank unreadable).decode_encode value)
      rw [encodeAll_cons, List.length_cons, decodeMany, List.take_left' width, decoded,
        List.drop_left' width, induction, List.mapM_cons]
      cases value with
      | none => rfl
      | some value => cases values.mapM id <;> rfl

end BlockCode

end Foundation
