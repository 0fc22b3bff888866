import Mathlib.Analysis.Complex.Basic
import Mathlib.Tactic.Linarith
import Mathlib.Tactic.Ring

/-!
# The stability triangle

A recursive filter of the second order is stable when the roots of
`z² + a1 z + a2` lie inside the unit circle.  For real coefficients two
inequalities, a triangle in the plane of `a1` and `a2`, are enough.
-/

namespace EchoMic

namespace StabilityTriangle

structure InTriangle (a1 a2 : ℝ) : Prop where
  base : |a2| < 1
  sides : |a1| < 1 + a2

variable {a1 a2 : ℝ}

/-- A real root lies between -1 and 1. -/
theorem InTriangle.abs_lt_one (triangle : InTriangle a1 a2) {x : ℝ}
    (root : x ^ 2 + a1 * x + a2 = 0) : |x| < 1 := by
  obtain ⟨a2Low, a2High⟩ := abs_lt.mp triangle.base
  obtain ⟨a1Low, a1High⟩ := abs_lt.mp triangle.sides
  rw [abs_lt]
  constructor
  · by_contra outside
    have left : x ≤ -1 := not_lt.mp outside
    have product : 0 ≤ (x + 1) * (x + a2) :=
      mul_nonneg_of_nonpos_of_nonpos (by linarith) (by linarith)
    have slope : 0 < (a1 - (1 + a2)) * x := mul_pos_of_neg_of_neg (by linarith) (by linarith)
    linarith [root, show (x + 1) * (x + a2) + (a1 - (1 + a2)) * x = x ^ 2 + a1 * x + a2 by ring]
  · by_contra outside
    have right : 1 ≤ x := not_lt.mp outside
    have product : 0 ≤ (x - 1) * (x - a2) := mul_nonneg (by linarith) (by linarith)
    have slope : 0 < (a1 + (1 + a2)) * x := mul_pos (by linarith) (by linarith)
    linarith [root, show (x - 1) * (x - a2) + (a1 + (1 + a2)) * x = x ^ 2 + a1 * x + a2 by ring]

/-- Every root lies inside the unit circle. -/
theorem InTriangle.norm_lt_one (triangle : InTriangle a1 a2) {z : ℂ}
    (root : z ^ 2 + a1 * z + a2 = 0) : ‖z‖ < 1 := by
  have real : z.re ^ 2 - z.im ^ 2 + a1 * z.re + a2 = 0 := by
    simpa [pow_two] using congrArg Complex.re root
  have imaginary : z.im * (2 * z.re + a1) = 0 := by
    have part : z.re * z.im + z.im * z.re + a1 * z.im = 0 := by
      simpa [pow_two] using congrArg Complex.im root
    linarith
  rcases mul_eq_zero.mp imaginary with onLine | conjugate
  · have onAxis : z = (z.re : ℂ) := Complex.ext rfl (by simp [onLine])
    rw [onLine] at real
    rw [onAxis, Complex.norm_real, Real.norm_eq_abs]
    exact triangle.abs_lt_one (by linarith)
  · -- Two conjugate roots have the product a2.
    have square : ‖z‖ ^ 2 = a2 := by
      rw [Complex.sq_norm, Complex.normSq_apply]
      have slope : a1 = -2 * z.re := by linarith
      rw [slope] at real
      linarith
    have below := (abs_lt.mp triangle.base).2
    rw [← square] at below
    exact (sq_lt_one_iff₀ (norm_nonneg z)).mp below

end StabilityTriangle

end EchoMic
