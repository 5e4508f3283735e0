import Mathlib.Algebra.GroupWithZero.Nat
import Mathlib.Data.List.TakeDrop

/-! # Resumable encoders

An encoder turns data into symbols and is called again whenever there is room for more of
them. A call fills the room there is and says whether the data is complete and whether the
room is used up. What an encoder still owes carries it from one call to the next.
-/

namespace Foundation

variable {Data Symbol State : Type}

/-- What one call gives. -/
structure Session (State Symbol : Type) where
  symbols : List Symbol
  state : State
  complete : Bool
  memFull : Bool

/-- A call that owed some symbols has used its room for the first of them. -/
structure Session.Emits (session : Session State Symbol) (owed : List Symbol) (space : Nat)
    (Ready : State → Prop) (OwesRest : State → List Symbol → Prop) : Prop where
  symbols : session.symbols = owed.take space
  complete_iff : session.complete = true ↔ owed.length ≤ space
  memFull_iff : session.memFull = true ↔ space ≤ owed.length
  ready : owed.length ≤ space → Ready session.state
  rest : space < owed.length → OwesRest session.state (owed.drop space)

/-- Symbols that have been emitted before leave the rest of the room. -/
theorem Session.Emits.after {session : Session State Symbol} {owed front : List Symbol}
    {space : Nat} {Ready : State → Prop} {OwesRest : State → List Symbol → Prop}
    (emits : session.Emits owed (space - front.length) Ready OwesRest)
    (fits : front.length ≤ space) :
    ({ session with symbols := front ++ session.symbols } : Session State Symbol).Emits
      (front ++ owed) space Ready OwesRest := by
  constructor
  · rw [emits.symbols, List.take_append, List.take_of_length_le fits]
  · rw [emits.complete_iff, List.length_append]
    omega
  · rw [emits.memFull_iff, List.length_append]
    omega
  · intro enough
    apply emits.ready
    rw [List.length_append] at enough
    omega
  · intro short
    rw [List.length_append] at short
    rw [List.drop_append, List.drop_of_length_le fits, List.nil_append]
    apply emits.rest
    omega

/-- An encoder that owes the message of its data when it begins, and that is ready for other
data when the message is complete. -/
structure Encoder (Data Symbol : Type) where
  State : Type
  encode : Data → State → Nat → Session State Symbol
  message : Data → List Symbol
  Ready : State → Prop
  Owes : Data → State → List Symbol → Prop
  start : State
  start_ready : Ready start
  begins : ∀ {state} data, Ready state → Owes data state (message data)
  emits : ∀ {data state owed}, Owes data state owed → ∀ space,
    (encode data state space).Emits owed space Ready (Owes data)

namespace Encoder

/-- The calls of a transmission, until the data is complete: the symbols, and the state of
the encoder then. -/
def transmit (encoder : Encoder Data Symbol) (data : Data) :
    encoder.State → List Nat → Option (List Symbol × encoder.State)
  | _, [] => none
  | state, space :: spaces =>
      let session := encoder.encode data state space
      if session.complete then some (session.symbols, session.state)
      else
        (encoder.transmit data session.state spaces).map fun later =>
          (session.symbols ++ later.1, later.2)

variable {encoder : Encoder Data Symbol} {data : Data} {state : encoder.State}
  {owed : List Symbol} {spaces : List Nat}

/-- However the room comes, there is enough of it in the end. -/
theorem transmit_of_enough (owes : encoder.Owes data state owed) (nonempty : owed ≠ [])
    (enough : owed.length ≤ spaces.sum) :
    ∃ final, encoder.Ready final ∧ encoder.transmit data state spaces = some (owed, final) := by
  induction spaces generalizing state owed with
  | nil => exact absurd (List.eq_nil_of_length_eq_zero (Nat.le_zero.mp enough)) nonempty
  | cons space spaces induction =>
      have emits := encoder.emits owes space
      by_cases fits : owed.length ≤ space
      · refine ⟨(encoder.encode data state space).state, emits.ready fits, ?_⟩
        rw [transmit, if_pos (emits.complete_iff.mpr fits), emits.symbols,
          List.take_of_length_le fits]
      · have short : space < owed.length := Nat.lt_of_not_le fits
        have restNonempty : owed.drop space ≠ [] := by
          rw [ne_eq, List.drop_eq_nil_iff]
          exact fits
        have restEnough : (owed.drop space).length ≤ spaces.sum := by
          rw [List.sum_cons] at enough
          rw [List.length_drop]
          omega
        rcases induction (emits.rest short) restNonempty restEnough with ⟨final, ready, later⟩
        refine ⟨final, ready, ?_⟩
        rw [transmit, if_neg (mt emits.complete_iff.mp fits), later, Option.map_some,
          emits.symbols, List.take_append_drop]

/-- Until there has been enough room, the transmission goes on. -/
theorem transmit_of_short (owes : encoder.Owes data state owed)
    (short : spaces.sum < owed.length) : encoder.transmit data state spaces = none := by
  induction spaces generalizing state owed with
  | nil => rfl
  | cons space spaces induction =>
      have emits := encoder.emits owes space
      rw [List.sum_cons] at short
      have more : space < owed.length := by omega
      have restShort : spaces.sum < (owed.drop space).length := by
        rw [List.length_drop]
        omega
      rw [transmit, if_neg (mt emits.complete_iff.mp (Nat.not_le_of_lt more)),
        induction (emits.rest more) restShort]
      rfl

/-- Transmissions one after the other. The next begins when the data of the one before is
complete. -/
def transmitAll (encoder : Encoder Data Symbol) :
    encoder.State → List (Data × List Nat) → Option (List (List Symbol))
  | _, [] => some []
  | state, (data, spaces) :: later =>
      (encoder.transmit data state spaces).bind fun sent =>
        (encoder.transmitAll sent.2 later).map fun messages => sent.1 :: messages

theorem transmitAll_eq (nonempty : ∀ data, encoder.message data ≠ []) (ready : encoder.Ready state)
    (transmissions : List (Data × List Nat)) :
    encoder.transmitAll state transmissions =
      if ∀ transmission ∈ transmissions,
          (encoder.message transmission.1).length ≤ transmission.2.sum then
        some (transmissions.map fun transmission => encoder.message transmission.1)
      else none := by
  induction transmissions generalizing state with
  | nil => simp [transmitAll]
  | cons transmission transmissions induction =>
      rcases transmission with ⟨data, spaces⟩
      have owes := encoder.begins data ready
      simp only [List.forall_mem_cons]
      by_cases enough : (encoder.message data).length ≤ spaces.sum
      · rcases transmit_of_enough owes (nonempty data) enough with ⟨final, readyAgain, sent⟩
        rw [transmitAll, sent, Option.bind_some, induction readyAgain]
        simp only [enough, true_and]
        split <;> rfl
      · rw [transmitAll, transmit_of_short owes (Nat.lt_of_not_le enough),
          if_neg fun both => enough both.1]
        rfl

/-- The plain encoder of a message counts what it has emitted. -/
def counting (message : Data → List Symbol) : Encoder Data Symbol where
  State := Nat
  encode data emitted space :=
    let owed := (message data).drop emitted
    { symbols := owed.take space
      state := if owed.length ≤ space then 0 else emitted + space
      complete := owed.length ≤ space
      memFull := space ≤ owed.length }
  message := message
  Ready emitted := emitted = 0
  Owes data emitted owed := owed = (message data).drop emitted
  start := 0
  start_ready := rfl
  begins data ready := by rw [ready, List.drop_zero]
  emits owes space := by
    subst owes
    constructor
    · rfl
    · exact decide_eq_true_iff
    · exact decide_eq_true_iff
    · exact fun fits => if_pos fits
    · intro short
      simp only [if_neg (Nat.not_le_of_lt short)]
      rw [List.drop_drop]

end Encoder

end Foundation
