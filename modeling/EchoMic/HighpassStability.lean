import EchoMic.HighpassFilter
import EchoMic.StabilityTriangle
import Mathlib.Algebra.Order.Floor.Semiring
import Mathlib.Analysis.Real.Pi.Bounds
import Mathlib.Analysis.SpecialFunctions.Trigonometric.Basic
import Mathlib.Tactic.FieldSimp

/-!
# The high-pass filter is stable

The coefficients that `updateHighpassCoeffs` computes, and the filter that
runs with them, in exact arithmetic.  The clamped cutoff keeps the angular
frequency between zero and π, and there the filter is stable, blocks a
constant input and passes the highest frequency.
-/

namespace EchoMic

open GuardedRuns StabilityTriangle

section Design

variable {K : Type} [Field K]

structure BiquadCoefficients (K : Type) where
  b0 : K
  b1 : K
  b2 : K
  a1 : K
  a2 : K

/-- The coefficients and the last two inputs and outputs. -/
structure Biquad (K : Type) extends BiquadCoefficients K where
  x1 : K
  x2 : K
  y1 : K
  y2 : K

def BiquadCoefficients.initial : BiquadCoefficients K where
  b0 := 1
  b1 := 0
  b2 := 0
  a1 := 0
  a2 := 0

def BiquadCoefficients.reset (coefficients : BiquadCoefficients K) : Biquad K :=
  { coefficients with
    x1 := 0
    x2 := 0
    y1 := 0
    y2 := 0 }

/-- One sample: the output, and the filter behind it. -/
def Biquad.process (x : K) (filter : Biquad K) : K × Biquad K :=
  let y := filter.b0 * x + filter.b1 * filter.x1 + filter.b2 * filter.x2 -
    filter.a1 * filter.y1 - filter.a2 * filter.y2
  (y,
    { filter with
      x1 := x
      x2 := filter.x1
      y1 := y
      y2 := filter.y1 })

/-- The coefficients for `cosw0` and `sinw0`. -/
def highpassCoefficients (cosw0 sinw0 : K) : BiquadCoefficients K :=
  let Q := 0.70710678
  let alpha := sinw0 / (2 * Q)
  let b0 := (1 + cosw0) * 0.5
  let b1 := -(1 + cosw0)
  let b2 := (1 + cosw0) * 0.5
  let a0 := 1 + alpha
  let a1 := -2 * cosw0
  let a2 := 1 - alpha
  { b0 := b0 / a0
    b1 := b1 / a0
    b2 := b2 / a0
    a1 := a1 / a0
    a2 := a2 / a0 }

/-- The filter behind `n` samples of the constant input `x`, from reset. -/
def constantState (filter : BiquadCoefficients K) (x : K) : Nat → Biquad K
  | 0 => filter.reset
  | n + 1 => (Biquad.process x (constantState filter x n)).2

/-- Output number `n` for the constant input `x`, from reset. -/
def constantResponse (filter : BiquadCoefficients K) (x : K) (n : Nat) : K :=
  (Biquad.process x (constantState filter x n)).1

variable [LinearOrder K]

/-- The cutoff between 10 Hz and 0.45 of the sample rate. -/
def clampCutoff (fs fc : K) : K :=
  let fc := if fc < 10.0 then 10.0 else fc
  if fc > fs * 0.45 then fs * 0.45 else fc

def angularFrequency (sampleRate cutoffHz : Nat) : K :=
  let pi := 3.14159265358979323846
  2 * pi * (clampCutoff (sampleRate : K) cutoffHz / sampleRate)

/-- The floating-point part of `updateHighpassCoeffs`, with the cosine and
sine of the library. -/
def highpassDesign [FloorSemiring K] (cosf sinf : K → K) : FilterDesign (BiquadCoefficients K) where
  coefficients := fun sampleRate cutoffHz =>
    let w0 := angularFrequency sampleRate cutoffHz
    highpassCoefficients (cosf w0) (sinf w0)
  clampedCutoff := fun sampleRate cutoffHz => ⌊clampCutoff (sampleRate : K) cutoffHz⌋₊
  unfilled := BiquadCoefficients.initial

end Design

/-! ## Stable coefficients -/

/-- The cosine and the sine of an angle between zero and π. -/
structure OnUpperCircle (c s : ℝ) : Prop where
  circle : c ^ 2 + s ^ 2 = 1
  sine : 0 < s
  low : -1 < c
  high : c < 1

/-- Poles inside the unit circle, no gain at frequency zero, unit gain at the
Nyquist frequency. -/
structure StableHighpass (filter : BiquadCoefficients ℝ) : Prop where
  triangle : InTriangle filter.a1 filter.a2
  poles : ∀ z : ℂ, z ^ 2 + filter.a1 * z + filter.a2 = 0 → ‖z‖ < 1
  dcGain : filter.b0 + filter.b1 + filter.b2 = 0
  nyquistGain :
    (filter.b0 - filter.b1 + filter.b2) / (1 - filter.a1 + filter.a2) = 1

/-- From the third sample on, a constant input enters only through the outputs
before. -/
def FollowsRecurrence (filter : BiquadCoefficients ℝ) : Prop :=
  ∀ x n, constantResponse filter x (n + 2) =
    -filter.a1 * constantResponse filter x (n + 1) - filter.a2 * constantResponse filter x n

/-- The settings that `/api/set` accepts, with the filter on. -/
structure AcceptedFilter (globals : HighpassGlobals (BiquadCoefficients ℝ)) : Prop where
  enabled : globals.highpassEnabled = true
  rateLow : 8000 ≤ globals.currentSampleRate
  rateHigh : globals.currentSampleRate ≤ 96000
  cutoffLow : 10 ≤ globals.highpassCutoffHz
  cutoffHigh : globals.highpassCutoffHz ≤ 10000

/-! ## The coefficients -/

section Coefficients

variable {c s : ℝ}

/-- What the coefficients are made of. -/
theorem exists_highpassCoefficients (sine : 0 < s) :
    ∃ alpha > 0, highpassCoefficients c s =
      { b0 := (1 + c) / 2 / (1 + alpha)
        b1 := -(1 + c) / (1 + alpha)
        b2 := (1 + c) / 2 / (1 + alpha)
        a1 := -2 * c / (1 + alpha)
        a2 := (1 - alpha) / (1 + alpha) } := by
  refine ⟨s / (2 * 0.70710678), by positivity, ?_⟩
  have half : (1 + c) * 0.5 = (1 + c) / 2 := by ring
  simp only [highpassCoefficients, half]

theorem inTriangle_highpass (onCircle : OnUpperCircle c s) :
    InTriangle (highpassCoefficients c s).a1 (highpassCoefficients c s).a2 := by
  obtain ⟨alpha, positive, coefficients⟩ := @exists_highpassCoefficients c s onCircle.sine
  have a0 : 0 < 1 + alpha := by linarith
  rw [coefficients]
  constructor
  · rw [abs_div, abs_of_pos a0, div_lt_one a0, abs_lt]
    constructor <;> linarith
  · have sum : 1 + (1 - alpha) / (1 + alpha) = 2 / (1 + alpha) := by
      field_simp
      ring
    have cosine : |(-2) * c| < 2 := by
      rw [abs_lt]
      constructor <;> linarith [onCircle.low, onCircle.high]
    simp only [sum]
    rw [abs_div, abs_of_pos a0]
    exact div_lt_div_of_pos_right cosine a0

theorem stableHighpass_coefficients (onCircle : OnUpperCircle c s) :
    StableHighpass (highpassCoefficients c s) where
  triangle := inTriangle_highpass onCircle
  poles := fun _ root => (inTriangle_highpass onCircle).norm_lt_one root
  dcGain := by
    obtain ⟨alpha, positive, coefficients⟩ := @exists_highpassCoefficients c s onCircle.sine
    rw [coefficients]
    ring
  nyquistGain := by
    obtain ⟨alpha, positive, coefficients⟩ := @exists_highpassCoefficients c s onCircle.sine
    have a0 : 1 + alpha ≠ 0 := by linarith
    have cosine : 1 + c ≠ 0 := by linarith [onCircle.low]
    have denominator : 1 - -2 * c / (1 + alpha) + (1 - alpha) / (1 + alpha) =
        2 * (1 + c) / (1 + alpha) := by
      field_simp
      ring
    rw [coefficients]
    simp only [denominator]
    field_simp
    ring

/-! ## The filter at work -/

@[simp]
theorem constantState_coefficients (filter : BiquadCoefficients ℝ) (x : ℝ) (n : Nat) :
    (constantState filter x n).toBiquadCoefficients = filter := by
  induction n with
  | zero => rfl
  | succ n ih => exact ih

/-- Two samples later both stored inputs are the constant one. -/
theorem constantResponse_add_two (filter : BiquadCoefficients ℝ) (x : ℝ) (n : Nat) :
    constantResponse filter x (n + 2) =
      (filter.b0 + filter.b1 + filter.b2) * x - filter.a1 * constantResponse filter x (n + 1) -
        filter.a2 * constantResponse filter x n := by
  have processed : constantResponse filter x (n + 2) =
      (constantState filter x (n + 2)).b0 * x + (constantState filter x (n + 2)).b1 * x +
        (constantState filter x (n + 2)).b2 * x -
        (constantState filter x (n + 2)).a1 * constantResponse filter x (n + 1) -
        (constantState filter x (n + 2)).a2 * constantResponse filter x n := rfl
  rw [processed, constantState_coefficients]
  ring

theorem followsRecurrence_of_dcGain {filter : BiquadCoefficients ℝ}
    (dcGain : filter.b0 + filter.b1 + filter.b2 = 0) : FollowsRecurrence filter := by
  intro x n
  rw [constantResponse_add_two, dcGain]
  ring

end Coefficients

/-! ## Every accepted setting -/

theorem clampCutoff_bounds {fs : ℝ} (rate : 8000 ≤ fs) (fc : ℝ) :
    0 < clampCutoff fs fc ∧ clampCutoff fs fc ≤ fs * 0.45 := by
  have low : (10.0 : ℝ) ≤ (if fc < 10.0 then 10.0 else fc) := by
    split
    · exact le_rfl
    · exact not_lt.mp ‹_›
  norm_num at low
  unfold clampCutoff
  by_cases above : (if fc < 10.0 then 10.0 else fc) > fs * 0.45
  · rw [if_pos above]
    exact ⟨by linarith, le_rfl⟩
  · rw [if_neg above]
    exact ⟨by linarith, not_lt.mp above⟩

theorem angularFrequency_bounds {sampleRate : Nat} (rate : 8000 ≤ sampleRate) (cutoffHz : Nat) :
    0 < (angularFrequency sampleRate cutoffHz : ℝ) ∧
      (angularFrequency sampleRate cutoffHz : ℝ) < Real.pi := by
  have fsLow : (8000 : ℝ) ≤ sampleRate := by exact_mod_cast rate
  have fsPositive : (0 : ℝ) < sampleRate := by linarith
  obtain ⟨positive, high⟩ := clampCutoff_bounds fsLow (cutoffHz : ℝ)
  have part : clampCutoff (sampleRate : ℝ) cutoffHz / sampleRate ≤ 0.45 :=
    (div_le_iff₀ fsPositive).mpr (by linarith)
  constructor
  · rw [angularFrequency]
    have ratio := div_pos positive fsPositive
    positivity
  · rw [angularFrequency]
    linarith [Real.pi_gt_d20]

theorem onUpperCircle_of_bounds {w : ℝ} (positive : 0 < w) (below : w < Real.pi) :
    OnUpperCircle (Real.cos w) (Real.sin w) where
  circle := Real.cos_sq_add_sin_sq w
  sine := Real.sin_pos_of_pos_of_lt_pi positive below
  low := by
    rw [← Real.cos_pi]
    exact Real.cos_lt_cos_of_nonneg_of_le_pi positive.le le_rfl below
  high := by
    rw [← Real.cos_zero]
    exact Real.cos_lt_cos_of_nonneg_of_le_pi le_rfl below.le positive

/-- For every accepted setting the angle is between zero and π, and any cosine
and sine of such an angle give a stable high-pass filter whose response to a
constant follows the recurrence. -/
theorem stableHighpass_of_accepted {globals : HighpassGlobals (BiquadCoefficients ℝ)}
    (accepted : AcceptedFilter globals) :
    let w0 := angularFrequency globals.currentSampleRate globals.highpassCutoffHz
    OnUpperCircle (Real.cos w0) (Real.sin w0) ∧
      ∀ cosf sinf : ℝ → ℝ, OnUpperCircle (cosf w0) (sinf w0) →
        StableHighpass (updateHighpassCoeffs (highpassDesign cosf sinf) globals).hpf ∧
          FollowsRecurrence (updateHighpassCoeffs (highpassDesign cosf sinf) globals).hpf := by
  intro w0
  obtain ⟨positive, below⟩ :=
    angularFrequency_bounds accepted.rateLow globals.highpassCutoffHz
  refine ⟨onUpperCircle_of_bounds positive below, fun cosf sinf onCircle => ?_⟩
  have stable := stableHighpass_coefficients onCircle
  rw [updateHighpassCoeffs, if_pos accepted.enabled]
  exact ⟨stable, followsRecurrence_of_dcGain stable.dcGain⟩

/-- The default settings, before the first computation. -/
def defaultFilter {K : Type} [Field K] : HighpassGlobals (BiquadCoefficients K) where
  highpassEnabled := true
  highpassCutoffHz := 300
  currentSampleRate := 16000
  hpf := BiquadCoefficients.initial
  hpfConfigSampleRate := 0
  hpfConfigCutoff := 0

theorem stableHighpass_defaultFilter :
    let w0 := angularFrequency 16000 300
    OnUpperCircle (Real.cos w0) (Real.sin w0) ∧
      StableHighpass
          (updateHighpassCoeffs (highpassDesign Real.cos Real.sin) defaultFilter).hpf ∧
        FollowsRecurrence
          (updateHighpassCoeffs (highpassDesign Real.cos Real.sin) defaultFilter).hpf := by
  have accepted : AcceptedFilter defaultFilter := by
    constructor <;> first | rfl | (simp only [defaultFilter]; norm_num)
  obtain ⟨onCircle, stable⟩ := stableHighpass_of_accepted accepted
  exact ⟨onCircle, stable Real.cos Real.sin onCircle⟩

end EchoMic
