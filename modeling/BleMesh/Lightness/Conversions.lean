import BleMesh.Foundation.SquareScale

/-! # Lightness on the two scales

The Set branches of the Light Lightness server turn an actual value into a linear one and
back. The formulas are taken in exact arithmetic: they round once, at the end.
-/

namespace BleMesh.Lightness

open Foundation

/-- The formula of the Lightness Set branch, before the cast. -/
noncomputable def ceilLinear (actual : UInt16) : ℕ :=
  ⌈(65535 : ℝ) * ((actual.toNat : ℝ) / 65535) ^ 2⌉₊

/-- The formula of the Lightness Linear Set branch, before the cast. -/
noncomputable def floorActual (linear : UInt16) : ℕ :=
  ⌊√((linear.toNat : ℝ) / 65535) * 65535⌋₊

/-- How the two branches convert. -/
structure Conversions where
  toLinear : UInt16 → UInt16
  toActual : UInt16 → UInt16

noncomputable def Conversions.exact : Conversions where
  toLinear actual := UInt16.ofNat (ceilLinear actual)
  toActual linear := UInt16.ofNat (floorActual linear)

/-- The same in integers. -/
def Conversions.integer : Conversions where
  toLinear actual := UInt16.ofNat (actual.toNat ^ 2 ⌈/⌉ 65535)
  toActual linear := UInt16.ofNat (Nat.sqrt (linear.toNat * 65535))

/-! ## On the scale -/

theorem fullScale_pos : 0 < 65535 := by decide

theorem onScale (value : UInt16) : value.toNat ≤ 65535 := Nat.le_of_lt_succ value.toNat_lt

theorem ceilLinear_eq (actual : UInt16) :
    ceilLinear actual = SquareScale.squareUp 65535 actual.toNat := by
  simp [ceilLinear, SquareScale.squareUp]

theorem floorActual_eq (linear : UInt16) :
    floorActual linear = SquareScale.rootDown 65535 linear.toNat := by
  simp [floorActual, SquareScale.rootDown]

theorem ceilLinear_le (actual : UInt16) : ceilLinear actual ≤ 65535 := by
  rw [ceilLinear_eq]
  exact SquareScale.squareUp_le_scale fullScale_pos (onScale actual)

theorem floorActual_le (linear : UInt16) : floorActual linear ≤ 65535 := by
  rw [floorActual_eq]
  exact SquareScale.rootDown_le_scale fullScale_pos (onScale linear)

/-- The cast loses nothing. -/
theorem toNat_toLinear (actual : UInt16) :
    (Conversions.exact.toLinear actual).toNat = SquareScale.squareUp 65535 actual.toNat := by
  rw [← ceilLinear_eq]
  exact UInt16.toNat_ofNat_of_lt' (Nat.lt_succ_of_le (ceilLinear_le actual))

theorem toNat_toActual (linear : UInt16) :
    (Conversions.exact.toActual linear).toNat = SquareScale.rootDown 65535 linear.toNat := by
  rw [← floorActual_eq]
  exact UInt16.toNat_ofNat_of_lt' (Nat.lt_succ_of_le (floorActual_le linear))

theorem Conversions.exact_eq_integer : Conversions.exact = Conversions.integer := by
  rw [Conversions.exact, Conversions.integer, Conversions.mk.injEq]
  constructor
  · funext actual
    rw [ceilLinear_eq, SquareScale.squareUp_eq_ceilDiv fullScale_pos]
  · funext linear
    rw [floorActual_eq, SquareScale.rootDown_eq_sqrt fullScale_pos]

/-! ## The conversions are adjoint -/

/-- The conversions stay on the scale, and converting to the linear scale is the lower
adjoint of converting back. So they are monotone, and going back and forth settles after
one step. -/
theorem conversions_adjoint :
    (∀ value : UInt16, ceilLinear value ≤ 65535 ∧ floorActual value ≤ 65535 ∧
      (Conversions.exact.toLinear value).toNat = ceilLinear value ∧
      (Conversions.exact.toActual value).toNat = floorActual value) ∧
    (∀ actual linear : UInt16, Conversions.exact.toLinear actual ≤ linear ↔
      actual ≤ Conversions.exact.toActual linear) ∧
    (∀ lower upper : UInt16, lower ≤ upper →
      Conversions.exact.toLinear lower ≤ Conversions.exact.toLinear upper ∧
      Conversions.exact.toActual lower ≤ Conversions.exact.toActual upper) ∧
    (∀ actual : UInt16, actual ≤ Conversions.exact.toActual (Conversions.exact.toLinear actual)) ∧
    (∀ linear : UInt16, Conversions.exact.toLinear (Conversions.exact.toActual linear) ≤ linear) ∧
    (∀ actual : UInt16, Conversions.exact.toLinear (Conversions.exact.toActual
        (Conversions.exact.toLinear actual)) = Conversions.exact.toLinear actual) ∧
    ∀ linear : UInt16, Conversions.exact.toActual (Conversions.exact.toLinear
        (Conversions.exact.toActual linear)) = Conversions.exact.toActual linear := by
  have adjoint := SquareScale.squareUp_gc_rootDown fullScale_pos
  refine ⟨?_, ?_, ?_, ?_, ?_, ?_, ?_⟩
  · intro value
    refine ⟨ceilLinear_le value, floorActual_le value, ?_, ?_⟩
    · rw [toNat_toLinear, ceilLinear_eq]
    · rw [toNat_toActual, floorActual_eq]
  · intro actual linear
    rw [UInt16.le_iff_toNat_le, UInt16.le_iff_toNat_le, toNat_toLinear, toNat_toActual]
    exact adjoint _ _
  · intro lower upper below
    rw [UInt16.le_iff_toNat_le] at below
    rw [UInt16.le_iff_toNat_le, UInt16.le_iff_toNat_le, toNat_toLinear, toNat_toLinear,
      toNat_toActual, toNat_toActual]
    exact ⟨adjoint.monotone_l below, adjoint.monotone_u below⟩
  · intro actual
    rw [UInt16.le_iff_toNat_le, toNat_toActual, toNat_toLinear]
    exact adjoint.le_u_l _
  · intro linear
    rw [UInt16.le_iff_toNat_le, toNat_toLinear, toNat_toActual]
    exact adjoint.l_u_le _
  · intro actual
    rw [← UInt16.toNat_inj]
    simp only [toNat_toLinear, toNat_toActual]
    exact adjoint.l_u_l_eq_l _
  · intro linear
    rw [← UInt16.toNat_inj]
    simp only [toNat_toLinear, toNat_toActual]
    exact adjoint.u_l_u_eq_u _

end BleMesh.Lightness
