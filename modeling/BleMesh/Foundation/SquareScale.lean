import Mathlib.Algebra.Order.Floor.Div
import Mathlib.Analysis.Real.Sqrt
import Mathlib.Order.GaloisConnection.Basic

/-! # Squares and roots on a scale

A value between 0 and `scale` stands for a fraction. Its square is rounded up and its root
rounded down, so that a square is at most a value exactly if the number is at most its
root.
-/

namespace Foundation.SquareScale

/-- The square of the fraction. -/
noncomputable def squareUp (scale value : ℕ) : ℕ := ⌈(scale : ℝ) * ((value : ℝ) / scale) ^ 2⌉₊

/-- The square root of the fraction. -/
noncomputable def rootDown (scale value : ℕ) : ℕ := ⌊√((value : ℝ) / scale) * scale⌋₊

variable {scale : ℕ}

theorem squareUp_le_iff (positive : 0 < scale) (value bound : ℕ) :
    squareUp scale value ≤ bound ↔ value ^ 2 ≤ bound * scale := by
  have scalePos : (0 : ℝ) < scale := Nat.cast_pos.mpr positive
  have square : (scale : ℝ) * ((value : ℝ) / scale) ^ 2 = (value : ℝ) ^ 2 / scale := by
    field_simp
  rw [squareUp, Nat.ceil_le, square, div_le_iff₀ scalePos]
  exact_mod_cast Iff.rfl

theorem le_rootDown_iff (positive : 0 < scale) (bound value : ℕ) :
    bound ≤ rootDown scale value ↔ bound ^ 2 ≤ value * scale := by
  have scalePos : (0 : ℝ) < scale := Nat.cast_pos.mpr positive
  have rootNonneg : (0 : ℝ) ≤ √((value : ℝ) / scale) * scale := by positivity
  have fractionNonneg : (0 : ℝ) ≤ (bound : ℝ) / scale := by positivity
  calc bound ≤ rootDown scale value
      ↔ (bound : ℝ) / scale ≤ √((value : ℝ) / scale) := by
        rw [rootDown, Nat.le_floor_iff rootNonneg, div_le_iff₀ scalePos]
    _ ↔ ((bound : ℝ) / scale) ^ 2 ≤ (value : ℝ) / scale :=
        Real.le_sqrt fractionNonneg (by positivity)
    _ ↔ (bound : ℝ) ^ 2 ≤ value * scale := by
        rw [div_pow, div_le_div_iff₀ (by positivity) scalePos, sq (scale : ℝ), ← mul_assoc,
          mul_le_mul_iff_left₀ scalePos]
    _ ↔ bound ^ 2 ≤ value * scale := by exact_mod_cast Iff.rfl

theorem squareUp_gc_rootDown (positive : 0 < scale) :
    GaloisConnection (squareUp scale) (rootDown scale) := by
  intro value bound
  rw [squareUp_le_iff positive, le_rootDown_iff positive]

/-! ## The values on the scale -/

theorem squareUp_le_scale (positive : 0 < scale) {value : ℕ} (onScale : value ≤ scale) :
    squareUp scale value ≤ scale := by
  rw [squareUp_le_iff positive, sq]
  exact Nat.mul_le_mul onScale onScale

theorem rootDown_le_scale (positive : 0 < scale) {value : ℕ} (onScale : value ≤ scale) :
    rootDown scale value ≤ scale := by
  by_contra above
  have square := (le_rootDown_iff positive (scale + 1) value).mp (Nat.lt_of_not_le above)
  have below : value * scale ≤ scale * scale := Nat.mul_le_mul_right scale onScale
  nlinarith only [square, below]

theorem squareUp_eq_zero_iff (positive : 0 < scale) (value : ℕ) :
    squareUp scale value = 0 ↔ value = 0 := by
  rw [← Nat.le_zero, squareUp_le_iff positive, Nat.zero_mul, Nat.le_zero, sq_eq_zero_iff]

/-- Squaring keeps the ends of the scale and the values next to them, and no other. -/
theorem squareUp_eq_self_iff (positive : 0 < scale) {value : ℕ} (onScale : value ≤ scale) :
    squareUp scale value = value ↔ value ≤ 1 ∨ scale ≤ value + 1 := by
  rcases Nat.exists_eq_add_of_le onScale with ⟨spare, scaleEq⟩
  cases value with
  | zero => simp [squareUp_eq_zero_iff positive]
  | succ before =>
      have atMost : squareUp scale (before + 1) ≤ before + 1 := by
        rw [squareUp_le_iff positive, sq]
        exact Nat.mul_le_mul_left _ onScale
      have expanded : before * scale + before + 1 = (before + 1) ^ 2 + before * spare := by
        rw [scaleEq]
        ring
      calc squareUp scale (before + 1) = before + 1
          ↔ ¬ squareUp scale (before + 1) ≤ before := by omega
        _ ↔ before * spare ≤ before := by
            rw [squareUp_le_iff positive]
            omega
        _ ↔ before = 0 ∨ spare ≤ 1 := by
            rcases Nat.eq_zero_or_pos before with zero | present
            · simp [zero]
            · rw [mul_le_iff_le_one_right present, or_iff_right present.ne']
        _ ↔ before + 1 ≤ 1 ∨ scale ≤ before + 1 + 1 := by omega

/-! ## Integer arithmetic -/

theorem squareUp_eq_ceilDiv (positive : 0 < scale) (value : ℕ) :
    squareUp scale value = value ^ 2 ⌈/⌉ scale := by
  apply eq_of_forall_ge_iff
  intro bound
  rw [squareUp_le_iff positive, ceilDiv_le_iff_le_mul positive, Nat.mul_comm]

theorem rootDown_eq_sqrt (positive : 0 < scale) (value : ℕ) :
    rootDown scale value = Nat.sqrt (value * scale) := by
  apply eq_of_forall_le_iff
  intro bound
  rw [le_rootDown_iff positive, Nat.le_sqrt']

end Foundation.SquareScale
