import Mathlib.AlgebraicGeometry.EllipticCurve.Affine.Point
import Mathlib.Tactic.FieldSimp
import Mathlib.Tactic.LinearCombination

/-!
# Ladders on Montgomery curves

The ladder multiplies a point of `y² = x³ + a x² + x` by a number, and needs
nothing but the x-coordinate of the point.  A pair `x`, `z` stands for the
x-coordinate `x / z`, and the point at infinity has `z = 0`.
-/

namespace EchoMic

namespace MontgomeryLadders

open WeierstrassCurve.Affine

variable {F : Type*} [Field F]

def curve (a : F) : WeierstrassCurve.Affine F where
  a₁ := 0
  a₂ := a
  a₃ := 0
  a₄ := 1
  a₆ := 0

/-- The curve is not singular, and 2 can be divided by. -/
structure IsMontgomery (a : F) : Prop where
  two : (2 : F) ≠ 0
  two_sub : 2 - a ≠ 0
  two_add : 2 + a ≠ 0

/-- Coordinates of a point's x-coordinate on the projective line. -/
def StandsFor {a : F} : (curve a).Point → F → F → Prop
  | .zero, x, z => x ≠ 0 ∧ z = 0
  | .some px _ _, x, z => z ≠ 0 ∧ x = px * z

/-- The x-coordinate, and zero for the point at infinity. -/
def abscissa {a : F} : (curve a).Point → F
  | .zero => 0
  | .some px _ _ => px

variable {a : F}

theorem StandsFor.abscissa_eq {P : (curve a).Point} {x z : F} (stands : StandsFor P x z) :
    x / z = abscissa P := by
  cases P with
  | zero => rw [stands.2, div_zero, abscissa]
  | some px py on => rw [stands.2, mul_div_cancel_right₀ _ stands.1, abscissa]

theorem equation_iff (px py : F) :
    (curve a).Equation px py ↔ py ^ 2 = px ^ 3 + a * px ^ 2 + px := by
  rw [WeierstrassCurve.Affine.equation_iff]
  simp [curve]

theorem negY_eq (px py : F) : (curve a).negY px py = -py := by
  simp [curve, negY]

theorem addX_eq (px qx slope : F) :
    (curve a).addX px qx slope = slope ^ 2 - a - px - qx := by
  simp [curve, addX]

/-- A Montgomery curve has no singular points. -/
theorem IsMontgomery.nonsingular (montgomery : IsMontgomery a) {px py : F}
    (on : py ^ 2 = px ^ 3 + a * px ^ 2 + px) : (curve a).Nonsingular px py := by
  rw [← WeierstrassCurve.Affine.equation_iff_nonsingular_of_Δ_ne_zero, equation_iff]
  · exact on
  · have discriminant : (curve a).Δ = -(2 ^ 4 * (2 - a) * (2 + a)) := by
      simp only [curve, WeierstrassCurve.Δ, WeierstrassCurve.b₂, WeierstrassCurve.b₄,
        WeierstrassCurve.b₆, WeierstrassCurve.b₈]
      ring
    rw [discriminant, neg_ne_zero]
    exact mul_ne_zero (mul_ne_zero (pow_ne_zero 4 montgomery.two) montgomery.two_sub)
      montgomery.two_add

theorem abscissa_neg (P : (curve a).Point) : abscissa (-P) = abscissa P := by
  cases P <;> rfl

/-! ## The ladder -/

def doubled (a x z : F) : F × F :=
  ((x ^ 2 - z ^ 2) ^ 2, 4 * x * z * (x ^ 2 + a * x * z + z ^ 2))

def summed (base x z x' z' : F) : F × F :=
  (4 * (x * x' - z * z') ^ 2, base * (4 * (x' * z - x * z') ^ 2))

/-- The coordinates of two neighbouring multiples of a point. -/
@[ext]
structure Rungs (F : Type*) where
  x : F
  z : F
  x' : F
  z' : F

namespace Rungs

def swap (s : Rungs F) : Rungs F where
  x := s.x'
  z := s.z'
  x' := s.x
  z' := s.z

def step (a base : F) (s : Rungs F) : Rungs F where
  x := (doubled a s.x s.z).1
  z := (doubled a s.x s.z).2
  x' := (summed base s.x s.z s.x' s.z').1
  z' := (summed base s.x s.z s.x' s.z').2

def turn (a base : F) (s : Rungs F) (bit : Bool) : Rungs F :=
  if bit then (s.swap.step a base).swap else s.step a base

end Rungs

def ladder (a base : F) (bits : List Bool) : Rungs F :=
  bits.foldl (Rungs.turn a base) ⟨1, 0, base, 1⟩

/-- The number with these bits, the highest one first. -/
def binary (bits : List Bool) : Nat :=
  bits.foldl (fun number bit => 2 * number + bit.toNat) 0

theorem binary_testBits (number length : Nat) :
    binary ((List.range length).reverse.map number.testBit) = number % 2 ^ length := by
  have behind (start : Nat) :
      ((List.range length).reverse.map number.testBit).foldl
          (fun number bit => 2 * number + bit.toNat) start =
        start * 2 ^ length + number % 2 ^ length := by
    induction length generalizing start with
    | zero => simp [Nat.mod_one]
    | succ length ih =>
        rw [List.range_succ, List.reverse_append, List.reverse_singleton, List.singleton_append,
          List.map_cons, List.foldl_cons, ih, Nat.mod_pow_succ, ← Nat.toNat_testBit, pow_succ]
        ring
  rw [binary, behind, Nat.zero_mul, Nat.zero_add]

/-! ## Collapsed ladders -/

/-- The rungs above such a point are zero, or `0 / 0`. -/
def Collapsed (s : Rungs F) : Prop :=
  s.x * s.z = 0 ∧ s.x' * s.z' = 0

theorem Collapsed.step {s : Rungs F} (collapsed : Collapsed s) : Collapsed (s.step a 0) := by
  constructor
  · simp only [Rungs.step, doubled]
    linear_combination
      (4 * (s.x ^ 2 - s.z ^ 2) ^ 2 * (s.x ^ 2 + a * s.x * s.z + s.z ^ 2)) * collapsed.1
  · simp only [Rungs.step, summed, zero_mul, mul_zero]

theorem Collapsed.turn {s : Rungs F} (collapsed : Collapsed s) (bit : Bool) :
    Collapsed (s.turn a 0 bit) := by
  cases bit with
  | false => exact collapsed.step
  | true => exact (Collapsed.step (a := a) (s := s.swap) collapsed.symm).symm

theorem collapsed_ladder (bits : List Bool) : Collapsed (ladder a 0 bits) := by
  have run (s : Rungs F) (collapsed : Collapsed s) :
      Collapsed (bits.foldl (Rungs.turn a 0) s) := by
    induction bits generalizing s with
    | nil => exact collapsed
    | cons bit bits ih => exact ih _ (collapsed.turn bit)
  exact run _ ⟨mul_zero 1, zero_mul 1⟩

variable [DecidableEq F]

/-! ## Doubling -/

/-- The x-coordinate of the double of a point that is not its own negative. -/
theorem tangent_eq {px py : F} (two : (2 : F) ≠ 0) (order : py ≠ 0)
    (equation : py ^ 2 = px ^ 3 + a * px ^ 2 + px) :
    (curve a).addX px px ((curve a).slope px px py py) * (4 * py ^ 2) = (px ^ 2 - 1) ^ 2 := by
  have apart : py ≠ (curve a).negY px py := by
    rw [negY_eq]
    intro same
    have twice : 2 * py = 0 := by linear_combination same
    exact order ((mul_eq_zero.mp twice).resolve_left two)
  have denominator : py - (curve a).negY px py = 2 * py := by
    rw [negY_eq]
    ring
  have slope : (curve a).slope px px py py * (2 * py) = 3 * px ^ 2 + 2 * a * px + 1 := by
    rw [slope_of_Y_ne rfl apart, denominator, div_mul_cancel₀ _ (mul_ne_zero two order)]
    simp [curve]
  rw [addX_eq]
  calc _ = ((curve a).slope px px py py * (2 * py)) ^ 2 - (a + 2 * px) * (4 * py ^ 2) := by ring
    _ = _ := by
      rw [slope]
      linear_combination -(4 * a + 8 * px) * equation

theorem StandsFor.double (montgomery : IsMontgomery a) {P : (curve a).Point} {x z : F}
    (stands : StandsFor P x z) :
    StandsFor (P + P) (doubled a x z).1 (doubled a x z).2 := by
  cases P with
  | zero =>
      obtain ⟨nonzero, rfl⟩ := stands
      change StandsFor (0 + 0) _ _
      rw [add_zero]
      refine ⟨?_, by simp [doubled]⟩
      simpa [doubled] using nonzero
  | some px py on =>
      obtain ⟨affine, rfl⟩ := stands
      have equation := (equation_iff px py).mp on.1
      have height : (doubled a (px * z) z).2 = 4 * py ^ 2 * z ^ 4 := by
        rw [doubled]
        linear_combination -(4 * z ^ 4) * equation
      have width : (doubled a (px * z) z).1 = (px ^ 2 - 1) ^ 2 * z ^ 4 := by
        rw [doubled]
        ring
      have four : (4 : F) ≠ 0 := by
        rw [show (4 : F) = 2 * 2 by norm_num]
        exact mul_ne_zero montgomery.two montgomery.two
      by_cases order : py = 0
      · subst order
        have same : (0 : F) = (curve a).negY px 0 := by rw [negY_eq, neg_zero]
        rw [Point.add_self_of_Y_eq same]
        refine ⟨?_, by rw [height]; ring⟩
        rw [width]
        refine mul_ne_zero (pow_ne_zero 2 fun square => ?_) (pow_ne_zero 4 affine)
        have unit : px ^ 2 = 1 := sub_eq_zero.mp square
        have twice : 2 * px + a = 0 := by linear_combination -equation - (px + a) * unit
        have singular : (2 - a) * (2 + a) = 0 := by
          linear_combination (2 * px - a) * twice - 4 * unit
        exact mul_ne_zero montgomery.two_sub montgomery.two_add singular
      · have apart : py ≠ (curve a).negY px py := by
          rw [negY_eq]
          intro same
          have twice : 2 * py = 0 := by linear_combination same
          exact order ((mul_eq_zero.mp twice).resolve_left montgomery.two)
        rw [Point.add_self_of_Y_ne apart]
        constructor
        · rw [height]
          exact mul_ne_zero (mul_ne_zero four (pow_ne_zero 2 order)) (pow_ne_zero 4 affine)
        · rw [width, height, ← tangent_eq montgomery.two order equation]
          ring

/-! ## Adding points whose difference is known -/

/-- The x-coordinates of a sum and a difference. -/
theorem sum_mul_difference {px py qx qy : F} (apart : px ≠ qx)
    (onP : py ^ 2 = px ^ 3 + a * px ^ 2 + px) (onQ : qy ^ 2 = qx ^ 3 + a * qx ^ 2 + qx) :
    (curve a).addX px qx ((curve a).slope px qx py qy) *
        (curve a).addX qx px ((curve a).slope qx px qy (-py)) * (px - qx) ^ 2 =
      (px * qx - 1) ^ 2 := by
  have distance : px - qx ≠ 0 := sub_ne_zero.mpr apart
  have sum : (curve a).addX px qx ((curve a).slope px qx py qy) * (px - qx) ^ 2 =
      (py - qy) ^ 2 - (a + px + qx) * (px - qx) ^ 2 := by
    rw [slope_of_X_ne apart, addX_eq]
    field_simp
    ring
  have difference : (curve a).addX qx px ((curve a).slope qx px qy (-py)) * (px - qx) ^ 2 =
      (py + qy) ^ 2 - (a + px + qx) * (px - qx) ^ 2 := by
    have backwards : qx - px ≠ 0 := sub_ne_zero.mpr apart.symm
    rw [slope_of_X_ne apart.symm, addX_eq, show px - qx = -(qx - px) by ring]
    field_simp
    ring
  have product : (curve a).addX px qx ((curve a).slope px qx py qy) *
        (curve a).addX qx px ((curve a).slope qx px qy (-py)) * (px - qx) ^ 2 * (px - qx) ^ 2 =
      (px * qx - 1) ^ 2 * (px - qx) ^ 2 := by
    calc _ = ((curve a).addX px qx ((curve a).slope px qx py qy) * (px - qx) ^ 2) *
          ((curve a).addX qx px ((curve a).slope qx px qy (-py)) * (px - qx) ^ 2) := by ring
      _ = ((py ^ 2 + qy ^ 2) - (a + px + qx) * (px - qx) ^ 2) ^ 2 - 4 * py ^ 2 * qy ^ 2 := by
        rw [sum, difference]
        ring
      _ = _ := by
        rw [onP, onQ]
        ring
  exact mul_right_cancel₀ (pow_ne_zero 2 distance) product

theorem StandsFor.sum_of_apart {px py qx qy x z x' z' : F} (four : (4 : F) ≠ 0)
    {onP : (curve a).Nonsingular px py} {onQ : (curve a).Nonsingular qx qy} (apart : px ≠ qx)
    (standsP : StandsFor (.some px py onP) x z) (standsQ : StandsFor (.some qx qy onQ) x' z')
    (known : abscissa (Point.some qx qy onQ - Point.some px py onP) ≠ 0) :
    StandsFor (Point.some px py onP + Point.some qx qy onQ)
      (summed (abscissa (Point.some qx qy onQ - Point.some px py onP)) x z x' z').1
      (summed (abscissa (Point.some qx qy onQ - Point.some px py onP)) x z x' z').2 := by
  obtain ⟨affineP, rfl⟩ := standsP
  obtain ⟨affineQ, rfl⟩ := standsQ
  have distance : qx - px ≠ 0 := sub_ne_zero.mpr apart.symm
  rw [sub_eq_add_neg, Point.neg_some, Point.add_of_X_ne apart.symm] at known ⊢
  rw [Point.add_of_X_ne apart]
  have both := sum_mul_difference apart ((equation_iff px py).mp onP.1)
    ((equation_iff qx qy).mp onQ.1)
  rw [← negY_eq (a := a) px py] at both
  unfold abscissa at known ⊢
  constructor
  · have factor : qx * z' * z - px * z * z' = (qx - px) * (z * z') := by ring
    simp only [summed, factor]
    exact mul_ne_zero known (mul_ne_zero four
      (pow_ne_zero 2 (mul_ne_zero distance (mul_ne_zero affineP affineQ))))
  · simp only [summed]
    linear_combination -(4 * z ^ 2 * z' ^ 2) * both

/-- A point and its negative: the difference is the double, which tells that
the sum is not `0 / 0`. -/
theorem StandsFor.sum_neg (montgomery : IsMontgomery a) (four : (4 : F) ≠ 0)
    {P : (curve a).Point} {px py x z x' z' : F} {onP : (curve a).Nonsingular px py}
    (isPoint : P = .some px py onP) (standsP : StandsFor P x z) (standsQ : StandsFor (-P) x' z')
    (known : abscissa (-P - P) ≠ 0) :
    StandsFor (P + -P) (summed (abscissa (-P - P)) x z x' z').1
      (summed (abscissa (-P - P)) x z x' z').2 := by
  have double : abscissa (P + P) ≠ 0 := by
    rwa [← abscissa_neg, neg_add']
  subst isPoint
  rw [add_neg_cancel]
  have stands : StandsFor (Point.some px py onP) px 1 := ⟨one_ne_zero, (mul_one px).symm⟩
  rw [← (stands.double montgomery).abscissa_eq, doubled] at double
  have square : px ^ 2 - 1 ≠ 0 := by
    intro unit
    apply double
    simp [unit]
  obtain ⟨affineP, rfl⟩ := standsP
  rw [Point.neg_some] at standsQ
  obtain ⟨affineQ, rfl⟩ := standsQ
  constructor
  · have factor : px * z * (px * z') - z * z' = (px ^ 2 - 1) * (z * z') := by ring
    simp only [summed, factor]
    exact mul_ne_zero four
      (pow_ne_zero 2 (mul_ne_zero square (mul_ne_zero affineP affineQ)))
  · simp only [summed]
    ring

theorem StandsFor.sum (montgomery : IsMontgomery a) {P Q : (curve a).Point} {x z x' z' : F}
    (standsP : StandsFor P x z) (standsQ : StandsFor Q x' z')
    (known : abscissa (Q - P) ≠ 0) :
    StandsFor (P + Q) (summed (abscissa (Q - P)) x z x' z').1
      (summed (abscissa (Q - P)) x z x' z').2 := by
  have four : (4 : F) ≠ 0 := by
    rw [show (4 : F) = 2 * 2 by norm_num]
    exact mul_ne_zero montgomery.two montgomery.two
  cases P with
  | zero =>
      obtain ⟨nonzero, rfl⟩ := standsP
      rw [← Point.zero_def, sub_zero] at known
      rw [← Point.zero_def, sub_zero, zero_add]
      cases Q with
      | zero => exact absurd rfl known
      | some qx qy onQ =>
          obtain ⟨affine, rfl⟩ := standsQ
          change qx ≠ 0 at known
          constructor
          · simp only [summed, abscissa, mul_zero, zero_sub, neg_sq]
            exact mul_ne_zero known
              (mul_ne_zero four (pow_ne_zero 2 (mul_ne_zero nonzero affine)))
          · simp only [summed, abscissa]
            ring
  | some px py onP =>
      cases Q with
      | zero =>
          obtain ⟨affine, rfl⟩ := standsP
          obtain ⟨nonzero, rfl⟩ := standsQ
          rw [← Point.zero_def, zero_sub, abscissa_neg] at known
          rw [← Point.zero_def, zero_sub, abscissa_neg, add_zero]
          change px ≠ 0 at known
          constructor
          · simp only [summed, abscissa, mul_zero, sub_zero]
            exact mul_ne_zero known
              (mul_ne_zero four (pow_ne_zero 2 (mul_ne_zero nonzero affine)))
          · simp only [summed, abscissa]
            ring
      | some qx qy onQ =>
          by_cases apart : px = qx
          · obtain same | negative := Point.X_eq_iff.mp apart.symm
            · rw [same, sub_self] at known
              exact absurd rfl known
            · rw [negative] at standsQ known ⊢
              exact sum_neg montgomery four rfl standsP standsQ known
          · exact sum_of_apart four apart standsP standsQ known

/-! ## Climbing -/

/-- The rungs below and above a multiple of a point. -/
structure Climbs (P : (curve a).Point) (number : Nat) (s : Rungs F) : Prop where
  lower : StandsFor (number • P) s.x s.z
  upper : StandsFor ((number + 1) • P) s.x' s.z'

theorem Climbs.turn (montgomery : IsMontgomery a) {P : (curve a).Point} (known : abscissa P ≠ 0)
    {number : Nat} {s : Rungs F} (climbs : Climbs P number s) (bit : Bool) :
    Climbs P (2 * number + bit.toNat) (s.turn a (abscissa P) bit) := by
  obtain ⟨lower, upper⟩ := climbs
  have middle : (2 * number + 1) • P = number • P + (number + 1) • P := by
    rw [← add_nsmul]
    congr 1
    omega
  cases bit with
  | false =>
      have apart : (number + 1) • P - number • P = P := by rw [succ_nsmul, add_sub_cancel_left]
      constructor
      · rw [Bool.toNat_false, Nat.add_zero, two_mul, add_nsmul]
        exact lower.double montgomery
      · rw [Bool.toNat_false, Nat.add_zero, middle]
        have sum := lower.sum montgomery upper (by rwa [apart])
        rwa [apart] at sum
  | true =>
      have apart : number • P - (number + 1) • P = -P := by
        rw [succ_nsmul, sub_add_cancel_left]
      constructor
      · rw [Bool.toNat_true, middle, add_comm]
        have sum := upper.sum montgomery lower (by rwa [apart, abscissa_neg])
        rwa [apart, abscissa_neg] at sum
      · rw [Bool.toNat_true, show 2 * number + 1 + 1 = number + 1 + (number + 1) by omega,
          add_nsmul]
        exact upper.double montgomery

theorem Climbs.run (montgomery : IsMontgomery a) {P : (curve a).Point} (known : abscissa P ≠ 0)
    {number : Nat} {s : Rungs F} (climbs : Climbs P number s) (bits : List Bool) :
    Climbs P (bits.foldl (fun number bit => 2 * number + bit.toNat) number)
      (bits.foldl (Rungs.turn a (abscissa P)) s) := by
  induction bits generalizing number s with
  | nil => exact climbs
  | cons bit bits ih => exact ih (climbs.turn montgomery known bit)

theorem climbs_start {P : (curve a).Point} (known : abscissa P ≠ 0) :
    Climbs P 0 ⟨1, 0, abscissa P, 1⟩ := by
  constructor
  · rw [zero_nsmul]
    exact ⟨one_ne_zero, rfl⟩
  · rw [zero_add, one_nsmul]
    cases P with
    | zero => exact absurd rfl known
    | some px py on => exact ⟨one_ne_zero, (mul_one px).symm⟩

/-! ## Multiples -/

/-- A point above zero is infinite or its own negative, and so is each of its
multiples. -/
theorem abscissa_nsmul_of_zero {P : (curve a).Point} (zero : abscissa P = 0) (number : Nat) :
    abscissa (number • P) = 0 := by
  have negative : -P = P := by
    cases P with
    | zero => rfl
    | some px py on =>
        change px = 0 at zero
        subst zero
        have equation := (equation_iff 0 py).mp on.1
        obtain rfl : py = 0 := pow_eq_zero_iff two_ne_zero |>.mp (by linear_combination equation)
        have same : (curve a).negY 0 0 = 0 := by rw [negY_eq, neg_zero]
        rw [Point.neg_some]
        congr 1
  have twice : 2 • P = 0 := by
    nth_rewrite 1 [two_nsmul, ← negative]
    exact neg_add_cancel P
  obtain ⟨half, even | odd⟩ := Nat.even_or_odd' number
  · rw [even, Nat.mul_comm, mul_nsmul', twice, nsmul_zero]
    rfl
  · rw [odd, add_nsmul, Nat.mul_comm, mul_nsmul', twice, nsmul_zero, zero_add, one_nsmul, zero]

/-- The ladder multiplies. -/
theorem ladder_eq_nsmul (montgomery : IsMontgomery a) (P : (curve a).Point) (bits : List Bool) :
    (ladder a (abscissa P) bits).x / (ladder a (abscissa P) bits).z =
      abscissa (binary bits • P) := by
  by_cases known : abscissa P = 0
  · rw [abscissa_nsmul_of_zero known, known, div_eq_zero_iff]
    exact mul_eq_zero.mp (collapsed_ladder bits).1
  · exact ((climbs_start known).run montgomery known bits).lower.abscissa_eq

end MontgomeryLadders

end EchoMic
