import BleMesh.Lightness.Server

/-! # The states bound to the lightness

Generic Level and Generic OnOff follow the actual lightness. A Linear Set derives them
from the actual value it has computed. A Set reuses the name of that variable for the
linear value, and so writes the right Level only where the two scales meet.
-/

namespace BleMesh.Lightness

open Foundation

/-- Light Lightness Set and Light Lightness Linear Set. -/
inductive SetKind
  | actual
  | linear
  deriving DecidableEq

/-- A Set with or without acknowledgement. -/
structure SetMessage where
  kind : SetKind
  acknowledged : Bool
  addr : UInt16
  recvDst : UInt16
  lightness : UInt16

def SetMessage.opcode (message : SetMessage) : Opcode :=
  match message.kind with
  | .actual => if message.acknowledged then .lightnessSet else .lightnessSetUnack
  | .linear => if message.acknowledged then .lightnessLinearSet else .lightnessLinearSetUnack

/-- The state change that the message brings about. -/
def SetMessage.stateChange (message : SetMessage) : StateChange where
  ctx := { addr := message.addr, recvDst := message.recvDst, recvOp := message.opcode }
  lightness := message.lightness

/-- The actual lightness that the message results in. -/
def SetMessage.resulting (conversions : Conversions) (message : SetMessage) : UInt16 :=
  match message.kind with
  | .actual => message.lightness
  | .linear => conversions.toActual message.lightness

def SetMessage.outcome (conversions : Conversions) (stack : Stack) (states : LightnessState)
    (message : SetMessage) : Outcome :=
  lightLightnessModelServerStateChangeEventProcessor conversions stack states
    message.stateChange

/-- One Level and one OnOff are written, the ones that go with the actual lightness. -/
structure FollowsActual (actual : UInt16) (outcome : Outcome) : Prop where
  level : ∃ level, outcome.levels = [level] ∧ level.toInt = (actual.toNat : Int) - 32768
  onoff : outcome.onoffs = [if actual = 0 then 0 else 1]

/-- Both scales have the value at the same place: it lies at an end of the scale or next
to one. -/
def AtEnd (lightness : UInt16) : Prop := lightness ≤ 1 ∨ 65534 ≤ lightness

theorem toLinear_eq_self_iff (actual : UInt16) :
    Conversions.exact.toLinear actual = actual ↔ AtEnd actual := by
  rw [← UInt16.toNat_inj, toNat_toLinear,
    SquareScale.squareUp_eq_self_iff fullScale_pos (onScale actual), AtEnd,
    UInt16.le_iff_toNat_le, UInt16.le_iff_toNat_le]
  exact or_congr_right Nat.succ_le_succ_iff

theorem toLinear_eq_zero_iff (actual : UInt16) :
    Conversions.exact.toLinear actual = 0 ↔ actual = 0 := by
  rw [← UInt16.toNat_inj, toNat_toLinear, ← UInt16.toNat_inj (b := 0)]
  exact SquareScale.squareUp_eq_zero_iff fullScale_pos actual.toNat

/-- The lightness from which a Set derives the Generic states. -/
def SetMessage.derivedFrom (conversions : Conversions) (message : SetMessage) : UInt16 :=
  match message.kind with
  | .actual => conversions.toLinear message.lightness
  | .linear => conversions.toActual message.lightness

/-- What a Set of either kind writes to the Generic states. -/
theorem SetMessage.generic (conversions : Conversions) (stack : Stack)
    (states : LightnessState) (message : SetMessage) :
    (message.outcome conversions stack states).levels =
        [Int16.ofInt (((message.derivedFrom conversions).toNat : Int) - 32768)] ∧
      (message.outcome conversions stack states).onoffs =
        [if message.derivedFrom conversions ≠ 0 then 1 else 0] := by
  rcases message with ⟨kind, acknowledged, addr, recvDst, lightness⟩
  cases kind <;> cases acknowledged
  · exact receiveSet_generic conversions stack states _
  · exact receiveSet_generic conversions stack states _
  · exact receiveLinearSet_generic conversions stack states _
  · exact receiveLinearSet_generic conversions stack states _

/-- The Level tells the lightness it was derived from. -/
theorem level_inj {left right : UInt16} :
    Int16.ofInt ((left.toNat : Int) - 32768) = Int16.ofInt ((right.toNat : Int) - 32768) ↔
      left = right := by
  rw [← Int16.toInt_inj, toInt_level, toInt_level, ← UInt16.toNat_inj]
  omega

theorem followsActual_iff (conversions : Conversions) (stack : Stack)
    (states : LightnessState) (message : SetMessage) (actual : UInt16) :
    FollowsActual actual (message.outcome conversions stack states) ↔
      message.derivedFrom conversions = actual := by
  rcases message.generic conversions stack states with ⟨levels, onoffs⟩
  constructor
  · intro follows
    rcases follows.level with ⟨level, written, levelEq⟩
    rw [levels, List.singleton_inj] at written
    rw [← written, toInt_level] at levelEq
    rw [← UInt16.toNat_inj]
    omega
  · intro same
    rw [same] at levels onoffs
    refine ⟨⟨_, levels, toInt_level actual⟩, ?_⟩
    rw [onoffs, ite_not]

/-- The OnOff is right after every Set. -/
theorem onoff_follows (stack : Stack) (states : LightnessState) (message : SetMessage) :
    (message.outcome Conversions.exact stack states).onoffs =
      [if message.resulting Conversions.exact = 0 then 0 else 1] := by
  rw [(message.generic Conversions.exact stack states).2, ite_not]
  cases kind : message.kind with
  | actual => simp [SetMessage.derivedFrom, SetMessage.resulting, kind, toLinear_eq_zero_iff]
  | linear => simp [SetMessage.derivedFrom, SetMessage.resulting, kind]

/-- Two Sets write the same Level and OnOff exactly if they derive them from the same
lightness. -/
theorem same_generic_iff (conversions : Conversions) (stack : Stack) (states : LightnessState)
    (first second : SetMessage) :
    (first.outcome conversions stack states).levels =
          (second.outcome conversions stack states).levels ∧
        (first.outcome conversions stack states).onoffs =
          (second.outcome conversions stack states).onoffs ↔
      first.derivedFrom conversions = second.derivedFrom conversions := by
  rcases first.generic conversions stack states with ⟨firstLevels, firstOnoffs⟩
  rcases second.generic conversions stack states with ⟨secondLevels, secondOnoffs⟩
  rw [firstLevels, firstOnoffs, secondLevels, secondOnoffs, List.singleton_inj, level_inj]
  constructor
  · intro same
    exact same.1
  · intro same
    exact ⟨same, by rw [same]⟩

/-- A Linear Set always drives the Generic states as the actual lightness asks for, and
a Set exactly at the ends of the scale. A Set and a Linear Set that result in the same
actual lightness write the same Level and OnOff exactly there. -/
theorem boundStates_followed_iff (stack : Stack) (states : LightnessState) :
    (∀ message : SetMessage,
      FollowsActual (message.resulting Conversions.exact)
          (message.outcome Conversions.exact stack states) ↔
        message.kind = .linear ∨ AtEnd message.lightness) ∧
    ∀ set linearSet : SetMessage, set.kind = .actual → linearSet.kind = .linear →
      set.resulting Conversions.exact = linearSet.resulting Conversions.exact →
      ((set.outcome Conversions.exact stack states).levels =
            (linearSet.outcome Conversions.exact stack states).levels ∧
          (set.outcome Conversions.exact stack states).onoffs =
            (linearSet.outcome Conversions.exact stack states).onoffs ↔
        AtEnd set.lightness) := by
  refine ⟨?_, ?_⟩
  · intro message
    rw [followsActual_iff]
    cases kind : message.kind with
    | actual => simp [SetMessage.derivedFrom, SetMessage.resulting, kind, toLinear_eq_self_iff]
    | linear => simp [SetMessage.derivedFrom, SetMessage.resulting, kind]
  · intro set linearSet setKind linearKind sameActual
    simp only [SetMessage.resulting, setKind, linearKind] at sameActual
    rw [same_generic_iff, ← toLinear_eq_self_iff]
    simp only [SetMessage.derivedFrom, setKind, linearKind, ← sameActual]

/-- A Set to the middle of the scale. -/
def middleSet : SetMessage where
  kind := .actual
  acknowledged := true
  addr := 0x0001
  recvDst := 0x0005
  lightness := 0x8000

/-- The Level of the middle of the scale is 0; the server writes -16383. -/
theorem boundStates_not_followed :
    ¬ ∀ stack states (message : SetMessage),
      FollowsActual (message.resulting Conversions.exact)
        (message.outcome Conversions.exact stack states) := by
  intro always
  rw [Conversions.exact_eq_integer] at always
  let stack : Stack := fun states _ => states
  rcases (always stack .initial middleSet).level with ⟨level, written, levelEq⟩
  have levels : (middleSet.outcome Conversions.integer stack .initial).levels = [-16383] := by
    decide
  rw [levels, List.singleton_inj] at written
  subst written
  exact absurd levelEq (by decide)

end BleMesh.Lightness
