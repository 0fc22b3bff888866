import Mathlib.Algebra.Order.Field.Basic
import Mathlib.Analysis.Real.Sqrt
import Mathlib.Order.Interval.Set.UnorderedInterval
import Mathlib.Tactic.FieldSimp
import Mathlib.Tactic.Linarith
import Mathlib.Tactic.NormNum
import Mathlib.Tactic.Ring

/-!
# Automatic gain control

The audio task measures the level of a block behind its gain and moves the
multiplier of that gain towards a target level.  What it measures contains the
multiplier of the block before, so the control is a feedback loop.  This file
proves, in exact arithmetic, that the loop settles without overshoot, and that
every block it processes brings it closer by a fixed part of the distance.
-/

namespace EchoMic

section Block

variable {K : Type*} [Field K] [LinearOrder K]

def agcTargetRms : K := 15 / 100
def agcMinMult : K := 1 / 10
def agcMaxMult : K := 10
def agcAttackRate : K := 5 / 100
def agcReleaseRate : K := 1 / 1000

/-- A block behind the high-pass filter, with the settings it is processed
under. -/
structure CapturedBlock (K : Type*) where
  agcEnabled : Bool
  currentGainFactor : K
  samples : List K

def CapturedBlock.effectiveGain (block : CapturedBlock K) (localAgcMult : K) : K :=
  if block.agcEnabled then block.currentGainFactor * localAgcMult
  else block.currentGainFactor

/-- The squares are summed before the samples are clipped. -/
def sumSquares (effectiveGain : K) (samples : List K) : K :=
  samples.foldl
    (fun total sample => total + sample * effectiveGain * (sample * effectiveGain)) 0

/-- The level of a block as a fraction of full scale. -/
def blockRms (sqrtf : K → K) (effectiveGain : K) (samples : List K) : K :=
  sqrtf (sumSquares effectiveGain samples / samples.length) / 32767

def clampMult (localAgcMult : K) : K :=
  let localAgcMult := if localAgcMult < agcMinMult then agcMinMult else localAgcMult
  if localAgcMult > agcMaxMult then agcMaxMult else localAgcMult

/-- The update of the multiplier: fast when the block is too loud, slow when
it is too quiet, none on silence. -/
def adjustMult (rms localAgcMult : K) : K :=
  if rms > 1 / 1000 then
    let ratio := agcTargetRms / rms
    clampMult
      (if ratio < 1 then localAgcMult + (ratio - 1) * agcAttackRate * localAgcMult
        else localAgcMult + (ratio - 1) * agcReleaseRate * localAgcMult)
  else localAgcMult

/-- What the loop of the audio task does to the multiplier on one block. -/
def agcBlock (sqrtf : K → K) (localAgcMult : K) (block : CapturedBlock K) : K :=
  if block.agcEnabled && 0 < block.samples.length then
    adjustMult (blockRms sqrtf (block.effectiveGain localAgcMult) block.samples) localAgcMult
  else localAgcMult

/-- The loop measures the block and may adjust the multiplier to it. -/
def CapturedBlock.isProcessed (block : CapturedBlock K) : Bool :=
  block.agcEnabled && 0 < block.samples.length

def agcRun (sqrtf : K → K) (localAgcMult : K) (blocks : List (CapturedBlock K)) : K :=
  blocks.foldl (agcBlock sqrtf) localAgcMult

/-- The level of a block without the control. -/
def CapturedBlock.baseRms (sqrtf : K → K) (block : CapturedBlock K) : K :=
  blockRms sqrtf block.currentGainFactor block.samples

/-- The level that the loop measures on a block. -/
def CapturedBlock.measuredRms (sqrtf : K → K) (localAgcMult : K) (block : CapturedBlock K) : K :=
  blockRms sqrtf (block.effectiveGain localAgcMult) block.samples

/-- The multiplier that brings a base level to the target, within the
limits. -/
def targetMult (r : K) : K :=
  clampMult (agcTargetRms / r)

def multRange : Set K :=
  Set.Icc agcMinMult agcMaxMult

end Block

/-- From `previous` on, blocks at the base level `r` move the multiplier
towards the target without crossing it, and do not move it on silence.  Out of
silence, the distance to the target falls at least geometrically with the
blocks that are processed. -/
structure SettlesTowards (r previous : ℝ) (blocks : List (CapturedBlock ℝ)) : Prop where
  inRange : agcRun Real.sqrt previous blocks ∈ multRange
  between : agcRun Real.sqrt previous blocks ∈ Set.uIcc previous (targetMult r)
  silence : previous * r ≤ 1 / 1000 → agcRun Real.sqrt previous blocks = previous
  closer : 1 / 1000 < previous * r →
    |agcRun Real.sqrt previous blocks - targetMult r| ≤
      (1 - agcReleaseRate) ^ blocks.countP CapturedBlock.isProcessed *
        |previous - targetMult r|
  measured : ∀ block ∈ blocks.head?, block.agcEnabled = true →
    block.measuredRms Real.sqrt previous = previous * r

/-- The multiplier does not rise on a block above the target level and does not
fall on a block below it.  When the block is processed and is not silent, it
falls or rises until it is at its limit. -/
structure FollowsLevel (previous : ℝ) (block : CapturedBlock ℝ) : Prop where
  loud : agcTargetRms < block.measuredRms Real.sqrt previous →
    agcBlock Real.sqrt previous block ≤ previous
  quiet : block.measuredRms Real.sqrt previous < agcTargetRms →
    previous ≤ agcBlock Real.sqrt previous block
  falls : block.isProcessed = true → agcTargetRms < block.measuredRms Real.sqrt previous →
    agcMinMult < previous → agcBlock Real.sqrt previous block < previous
  rises : block.isProcessed = true → 1 / 1000 < block.measuredRms Real.sqrt previous →
    block.measuredRms Real.sqrt previous < agcTargetRms → previous < agcMaxMult →
      previous < agcBlock Real.sqrt previous block

/-! ## Clamping -/

section Clamp

theorem mem_multRange_iff {localAgcMult : ℝ} :
    localAgcMult ∈ multRange ↔ 1 / 10 ≤ localAgcMult ∧ localAgcMult ≤ 10 :=
  Iff.rfl

theorem minMult_le_maxMult : (agcMinMult : ℝ) ≤ agcMaxMult := by
  norm_num [agcMinMult, agcMaxMult]

theorem clampMult_eq (localAgcMult : ℝ) :
    clampMult localAgcMult = min (max localAgcMult agcMinMult) agcMaxMult := by
  unfold clampMult
  rcases lt_or_ge localAgcMult agcMinMult with low | low
  · rw [if_pos low, max_eq_right low.le]
    simp only
    rw [if_neg (not_lt.mpr minMult_le_maxMult), min_eq_left minMult_le_maxMult]
  · rw [if_neg (not_lt.mpr low), max_eq_left low]
    simp only
    rcases lt_or_ge agcMaxMult localAgcMult with high | high
    · rw [if_pos high, min_eq_right high.le]
    · rw [if_neg (not_lt.mpr high), min_eq_left high]

theorem clampMult_mem (localAgcMult : ℝ) : clampMult localAgcMult ∈ multRange := by
  rw [clampMult_eq]
  exact ⟨le_min (le_max_right _ _) minMult_le_maxMult, min_le_right _ _⟩

theorem clampMult_of_mem {localAgcMult : ℝ} (inRange : localAgcMult ∈ multRange) :
    clampMult localAgcMult = localAgcMult := by
  rw [clampMult_eq, max_eq_left inRange.1, min_eq_left inRange.2]

theorem monotone_clampMult : Monotone (clampMult : ℝ → ℝ) := by
  intro first second le
  rw [clampMult_eq, clampMult_eq]
  exact min_le_min (max_le_max le le_rfl) le_rfl

theorem clampMult_of_low {localAgcMult : ℝ} (low : localAgcMult ≤ agcMinMult) :
    clampMult localAgcMult = agcMinMult := by
  rw [clampMult_eq, max_eq_right low, min_eq_left minMult_le_maxMult]

theorem clampMult_of_high {localAgcMult : ℝ} (high : agcMaxMult ≤ localAgcMult) :
    clampMult localAgcMult = agcMaxMult := by
  rw [clampMult_eq, max_eq_left (minMult_le_maxMult.trans high), min_eq_right high]

end Clamp

/-! ## One block -/

section Update

variable {localAgcMult rms r : ℝ}

theorem adjustMult_mem (inRange : localAgcMult ∈ multRange) :
    adjustMult rms localAgcMult ∈ multRange := by
  unfold adjustMult
  split
  · exact clampMult_mem _
  · exact inRange

/-- A step by a part of the distance does not cross the target. -/
theorem step_mem_uIcc {rate : ℝ} (rateLow : 0 ≤ rate) (rateHigh : rate ≤ 1)
    (current target : ℝ) : current + rate * (target - current) ∈ Set.uIcc current target := by
  rcases le_total current target with below | above
  · rw [Set.uIcc_of_le below]
    have distance : 0 ≤ target - current := sub_nonneg.mpr below
    have part := mul_le_of_le_one_left distance rateHigh
    exact ⟨by linarith [mul_nonneg rateLow distance], by linarith⟩
  · rw [Set.uIcc_of_ge above]
    have distance : 0 ≤ current - target := sub_nonneg.mpr above
    have part := mul_le_of_le_one_left distance rateHigh
    have nonneg := mul_nonneg rateLow distance
    constructor <;> linarith

/-- With the level proportional to the multiplier, an update is a step towards
the multiplier that gives the target level. -/
theorem update_eq (rate : ℝ) (positive : 0 < localAgcMult) (rPositive : 0 < r) :
    localAgcMult + (agcTargetRms / (localAgcMult * r) - 1) * rate * localAgcMult =
      localAgcMult + rate * (agcTargetRms / r - localAgcMult) := by
  field_simp

theorem adjustMult_mem_uIcc (inRange : localAgcMult ∈ multRange) (rPositive : 0 < r) :
    adjustMult (localAgcMult * r) localAgcMult ∈ Set.uIcc localAgcMult (targetMult r) := by
  have positive : 0 < localAgcMult := by
    have low := (mem_multRange_iff.mp inRange).1
    linarith
  have clamped (rate : ℝ) (rateLow : 0 ≤ rate) (rateHigh : rate ≤ 1) :
      clampMult (localAgcMult + (agcTargetRms / (localAgcMult * r) - 1) * rate * localAgcMult) ∈
        Set.uIcc localAgcMult (targetMult r) := by
    have towards := step_mem_uIcc rateLow rateHigh localAgcMult (agcTargetRms / r)
    rw [update_eq rate positive rPositive]
    have between := monotone_clampMult.mapsTo_uIcc towards
    rwa [clampMult_of_mem inRange] at between
  unfold adjustMult
  split
  · simp only
    split
    · exact clamped _ (by norm_num [agcAttackRate]) (by norm_num [agcAttackRate])
    · exact clamped _ (by norm_num [agcReleaseRate]) (by norm_num [agcReleaseRate])
  · exact Set.left_mem_uIcc

/-- A step by a part of the distance, clamped, leaves at most the rest of the
distance to the clamped target. -/
theorem abs_clampMult_sub_le {rate : ℝ} (rateLow : 0 ≤ rate) (rateHigh : rate ≤ 1)
    {current : ℝ} (inRange : current ∈ multRange) (target : ℝ) :
    |clampMult (current + rate * (target - current)) - clampMult target| ≤
      (1 - rate) * |current - clampMult target| := by
  have nearer (limit : ℝ) (limitIn : limit ∈ multRange) :
      clampMult (current + rate * (limit - current)) = current + rate * (limit - current) :=
    clampMult_of_mem (Set.uIcc_subset_Icc inRange limitIn
      (step_mem_uIcc rateLow rateHigh current limit))
  have stepped := clampMult_mem (current + rate * (target - current))
  rcases le_total target agcMinMult with low | low
  · have atMost := monotone_clampMult
      (add_le_add_right (mul_le_mul_of_nonneg_left (sub_le_sub_right low current) rateLow) current)
    rw [nearer agcMinMult ⟨le_rfl, minMult_le_maxMult⟩] at atMost
    rw [clampMult_of_low low, abs_of_nonneg (sub_nonneg.mpr stepped.1),
      abs_of_nonneg (sub_nonneg.mpr inRange.1)]
    linarith
  rcases le_total agcMaxMult target with high | high
  · have atLeast := monotone_clampMult
      (add_le_add_right (mul_le_mul_of_nonneg_left (sub_le_sub_right high current) rateLow) current)
    rw [nearer agcMaxMult ⟨minMult_le_maxMult, le_rfl⟩] at atLeast
    rw [clampMult_of_high high, abs_of_nonpos (sub_nonpos.mpr stepped.2),
      abs_of_nonpos (sub_nonpos.mpr inRange.2)]
    linarith
  · have rest : current + rate * (target - current) - target =
        (1 - rate) * (current - target) := by ring
    rw [nearer target ⟨low, high⟩, clampMult_of_mem ⟨low, high⟩, rest, abs_mul,
      abs_of_nonneg (sub_nonneg.mpr rateHigh)]

theorem abs_adjustMult_sub_le (inRange : localAgcMult ∈ multRange) (rPositive : 0 < r)
    (heard : 1 / 1000 < localAgcMult * r) :
    |adjustMult (localAgcMult * r) localAgcMult - targetMult r| ≤
      (1 - agcReleaseRate) * |localAgcMult - targetMult r| := by
  have positive : 0 < localAgcMult := by
    have low := (mem_multRange_iff.mp inRange).1
    linarith
  have closer (rate : ℝ) (slowest : agcReleaseRate ≤ rate) (rateHigh : rate ≤ 1) :
      |clampMult (localAgcMult + (agcTargetRms / (localAgcMult * r) - 1) * rate *
        localAgcMult) - targetMult r| ≤
        (1 - agcReleaseRate) * |localAgcMult - targetMult r| := by
    have rateLow : 0 ≤ rate := le_trans (by norm_num [agcReleaseRate]) slowest
    rw [update_eq rate positive rPositive]
    calc
      _ ≤ (1 - rate) * |localAgcMult - targetMult r| :=
          abs_clampMult_sub_le rateLow rateHigh inRange _
      _ ≤ (1 - agcReleaseRate) * |localAgcMult - targetMult r| :=
          mul_le_mul_of_nonneg_right (sub_le_sub_left slowest 1) (abs_nonneg _)
  rw [adjustMult, if_pos heard]
  simp only
  split
  · exact closer _ (by norm_num [agcAttackRate, agcReleaseRate])
      (by norm_num [agcAttackRate])
  · exact closer _ le_rfl (by norm_num [agcReleaseRate])

/-- The target level is not silence, and silence is not reached on the way. -/
theorem heard_of_mem_uIcc (inRange : localAgcMult ∈ multRange) (rPositive : 0 < r)
    (heard : 1 / 1000 < localAgcMult * r) {next : ℝ}
    (towards : next ∈ Set.uIcc localAgcMult (targetMult r)) : 1 / 1000 < next * r := by
  have high : localAgcMult ≤ 10 := (mem_multRange_iff.mp inRange).2
  have targetHeard : 1 / 1000 < targetMult r * r := by
    have level : agcTargetRms / r * r = (15 / 100 : ℝ) := div_mul_cancel₀ _ rPositive.ne'
    have atMax : localAgcMult * r ≤ 10 * r := mul_le_mul_of_nonneg_right high rPositive.le
    rcases min_choice (max (agcTargetRms / r) agcMinMult) (agcMaxMult : ℝ) with
      same | same
    · have above := mul_le_mul_of_nonneg_right
        (le_max_left (agcTargetRms / r) (agcMinMult : ℝ)) rPositive.le
      rw [targetMult, clampMult_eq, same]
      linarith
    · rw [targetMult, clampMult_eq, same, agcMaxMult]
      linarith
  have least := mul_le_mul_of_nonneg_right towards.1 rPositive.le
  rcases min_choice localAgcMult (targetMult r) with same | same
  · exact heard.trans_le (same ▸ least)
  · exact targetHeard.trans_le (same ▸ least)

theorem adjustMult_of_silence (silent : rms ≤ 1 / 1000) (localAgcMult : ℝ) :
    adjustMult rms localAgcMult = localAgcMult :=
  if_neg (not_lt.mpr silent)

/-- A block above the target level does not raise the multiplier. -/
theorem adjustMult_le (inRange : localAgcMult ∈ multRange) (loud : agcTargetRms < rms) :
    adjustMult rms localAgcMult ≤ localAgcMult := by
  have low := (mem_multRange_iff.mp inRange).1
  have level : (15 / 100 : ℝ) < rms := loud
  have heard : rms > 1 / 1000 := by linarith
  have ratio : agcTargetRms / rms < 1 := (div_lt_one (by linarith)).mpr loud
  have falls : (agcTargetRms / rms - 1) * agcAttackRate * localAgcMult ≤ 0 := by
    have rate : (0 : ℝ) ≤ agcAttackRate := by norm_num [agcAttackRate]
    have change := mul_nonpos_of_nonpos_of_nonneg (sub_nonpos.mpr ratio.le) rate
    exact mul_nonpos_of_nonpos_of_nonneg change (by linarith)
  simp only [adjustMult, if_pos heard, if_pos ratio]
  calc
    clampMult (localAgcMult + (agcTargetRms / rms - 1) * agcAttackRate * localAgcMult)
        ≤ clampMult localAgcMult := monotone_clampMult (by linarith)
    _ = localAgcMult := clampMult_of_mem inRange

/-- A block below the target level does not lower the multiplier. -/
theorem le_adjustMult (inRange : localAgcMult ∈ multRange) (quiet : rms < agcTargetRms) :
    localAgcMult ≤ adjustMult rms localAgcMult := by
  have low := (mem_multRange_iff.mp inRange).1
  by_cases heard : rms > 1 / 1000
  · have positive : 0 < rms := by linarith
    have ratio : 1 ≤ agcTargetRms / rms := (one_le_div positive).mpr quiet.le
    have rises : 0 ≤ (agcTargetRms / rms - 1) * agcReleaseRate * localAgcMult := by
      have rate : (0 : ℝ) ≤ agcReleaseRate := by norm_num [agcReleaseRate]
      exact mul_nonneg (mul_nonneg (sub_nonneg.mpr ratio) rate) (by linarith)
    simp only [adjustMult, if_pos heard, if_neg (not_lt.mpr ratio)]
    calc
      localAgcMult = clampMult localAgcMult := (clampMult_of_mem inRange).symm
      _ ≤ clampMult (localAgcMult + (agcTargetRms / rms - 1) * agcReleaseRate *
            localAgcMult) := monotone_clampMult (by linarith)
  · exact (adjustMult_of_silence (not_lt.mp heard) localAgcMult).ge

/-- A processed block above the target level lowers a multiplier above its
limit. -/
theorem adjustMult_lt (inRange : localAgcMult ∈ multRange) (loud : agcTargetRms < rms)
    (aboveMin : agcMinMult < localAgcMult) : adjustMult rms localAgcMult < localAgcMult := by
  have low := (mem_multRange_iff.mp inRange).1
  have level : (15 / 100 : ℝ) < rms := loud
  have heard : rms > 1 / 1000 := by linarith
  have ratio : agcTargetRms / rms < 1 := (div_lt_one (by linarith)).mpr loud
  have falls : (agcTargetRms / rms - 1) * agcAttackRate * localAgcMult < 0 := by
    have rate : (0 : ℝ) < agcAttackRate := by norm_num [agcAttackRate]
    have change := mul_neg_of_neg_of_pos (sub_neg.mpr ratio) rate
    exact mul_neg_of_neg_of_pos change (by linarith)
  simp only [adjustMult, if_pos heard, if_pos ratio, clampMult_eq]
  exact (min_le_left _ _).trans_lt (max_lt (by linarith) aboveMin)

/-- A processed block below the target level raises a multiplier below its
limit, unless it is silent. -/
theorem lt_adjustMult (inRange : localAgcMult ∈ multRange) (heard : 1 / 1000 < rms)
    (quiet : rms < agcTargetRms) (belowMax : localAgcMult < agcMaxMult) :
    localAgcMult < adjustMult rms localAgcMult := by
  have low := (mem_multRange_iff.mp inRange).1
  have positive : 0 < rms := by linarith
  have ratio : 1 < agcTargetRms / rms := (one_lt_div positive).mpr quiet
  have rises : 0 < (agcTargetRms / rms - 1) * agcReleaseRate * localAgcMult := by
    have rate : (0 : ℝ) < agcReleaseRate := by norm_num [agcReleaseRate]
    exact mul_pos (mul_pos (sub_pos.mpr ratio) rate) (by linarith)
  simp only [adjustMult, if_pos heard, if_neg (not_lt.mpr ratio.le), clampMult_eq]
  exact lt_min (lt_max_of_lt_left (by linarith)) belowMax

end Update

/-! ## What the loop measures -/

theorem sumSquares_mul (gain mult : ℝ) (samples : List ℝ) :
    sumSquares (gain * mult) samples = mult ^ 2 * sumSquares gain samples := by
  have scaled (total : ℝ) :
      samples.foldl (fun total sample =>
          total + sample * (gain * mult) * (sample * (gain * mult))) (mult ^ 2 * total) =
        mult ^ 2 * samples.foldl (fun total sample =>
          total + sample * gain * (sample * gain)) total := by
    induction samples generalizing total with
    | nil => rfl
    | cons sample samples ih =>
        rw [List.foldl_cons, List.foldl_cons, ← ih]
        congr 1
        ring
  simpa [sumSquares] using scaled 0

theorem blockRms_mul (gain : ℝ) {mult : ℝ} (nonneg : 0 ≤ mult) (samples : List ℝ) :
    blockRms Real.sqrt (gain * mult) samples = mult * blockRms Real.sqrt gain samples := by
  rw [blockRms, blockRms, sumSquares_mul, mul_div_assoc, Real.sqrt_mul (sq_nonneg mult),
    Real.sqrt_sq nonneg, mul_div_assoc]

section Loop

variable {localAgcMult r : ℝ} {block : CapturedBlock ℝ}

theorem measuredRms_eq (inRange : localAgcMult ∈ multRange)
    (enabled : block.agcEnabled = true) :
    block.measuredRms Real.sqrt localAgcMult = localAgcMult * block.baseRms Real.sqrt := by
  have low := (mem_multRange_iff.mp inRange).1
  rw [CapturedBlock.measuredRms, CapturedBlock.effectiveGain, if_pos enabled,
    blockRms_mul _ (by linarith), CapturedBlock.baseRms]

theorem agcBlock_mem (inRange : localAgcMult ∈ multRange) (block : CapturedBlock ℝ) :
    agcBlock Real.sqrt localAgcMult block ∈ multRange := by
  unfold agcBlock
  split
  · exact adjustMult_mem inRange
  · exact inRange

/-- Either the block is not processed, or it is adjusted to what is
measured. -/
theorem agcBlock_cases (localAgcMult : ℝ) (block : CapturedBlock ℝ) :
    agcBlock Real.sqrt localAgcMult block = localAgcMult ∨
      block.agcEnabled = true ∧
        agcBlock Real.sqrt localAgcMult block =
          adjustMult (block.measuredRms Real.sqrt localAgcMult) localAgcMult := by
  unfold agcBlock
  split
  · rename_i processed
    exact Or.inr ⟨(Bool.and_eq_true_iff.mp processed).1, rfl⟩
  · exact Or.inl rfl

theorem agcBlock_of_isProcessed (processed : block.isProcessed = true) :
    agcBlock Real.sqrt localAgcMult block =
      adjustMult (block.measuredRms Real.sqrt localAgcMult) localAgcMult :=
  if_pos processed

theorem agcBlock_of_not_isProcessed (notProcessed : ¬ block.isProcessed = true) :
    agcBlock Real.sqrt localAgcMult block = localAgcMult :=
  if_neg notProcessed

theorem agcEnabled_of_isProcessed (processed : block.isProcessed = true) :
    block.agcEnabled = true :=
  (Bool.and_eq_true_iff.mp processed).1

theorem agcBlock_mem_uIcc (inRange : localAgcMult ∈ multRange) (rPositive : 0 < r)
    (level : block.baseRms Real.sqrt = r) :
    agcBlock Real.sqrt localAgcMult block ∈ Set.uIcc localAgcMult (targetMult r) := by
  rcases agcBlock_cases localAgcMult block with same | ⟨enabled, adjusted⟩
  · rw [same]
    exact Set.left_mem_uIcc
  · rw [adjusted, measuredRms_eq inRange enabled, level]
    exact adjustMult_mem_uIcc inRange rPositive

theorem agcBlock_of_silence (inRange : localAgcMult ∈ multRange)
    (level : block.baseRms Real.sqrt = r) (silent : localAgcMult * r ≤ 1 / 1000) :
    agcBlock Real.sqrt localAgcMult block = localAgcMult := by
  rcases agcBlock_cases localAgcMult block with same | ⟨enabled, adjusted⟩
  · exact same
  · rw [adjusted, measuredRms_eq inRange enabled, level]
    exact adjustMult_of_silence silent localAgcMult

/-! ## Every number of blocks -/

theorem agcRun_mem (inRange : localAgcMult ∈ multRange) (blocks : List (CapturedBlock ℝ)) :
    agcRun Real.sqrt localAgcMult blocks ∈ multRange := by
  induction blocks generalizing localAgcMult with
  | nil => exact inRange
  | cons block blocks ih => exact ih (agcBlock_mem inRange block)

theorem agcRun_mem_uIcc (inRange : localAgcMult ∈ multRange) (rPositive : 0 < r)
    {blocks : List (CapturedBlock ℝ)} (level : ∀ block ∈ blocks, block.baseRms Real.sqrt = r) :
    agcRun Real.sqrt localAgcMult blocks ∈ Set.uIcc localAgcMult (targetMult r) := by
  induction blocks generalizing localAgcMult with
  | nil => exact Set.left_mem_uIcc
  | cons block blocks ih =>
      have first := agcBlock_mem_uIcc inRange rPositive (level block List.mem_cons_self)
      have rest := ih (agcBlock_mem inRange block) fun other member =>
        level other (List.mem_cons_of_mem _ member)
      exact Set.uIcc_subset_uIcc_right first rest

theorem agcRun_of_silence (inRange : localAgcMult ∈ multRange)
    {blocks : List (CapturedBlock ℝ)} (level : ∀ block ∈ blocks, block.baseRms Real.sqrt = r)
    (silent : localAgcMult * r ≤ 1 / 1000) :
    agcRun Real.sqrt localAgcMult blocks = localAgcMult := by
  induction blocks with
  | nil => rfl
  | cons block blocks ih =>
      have same := agcBlock_of_silence inRange (level block List.mem_cons_self) silent
      rw [agcRun, List.foldl_cons, same]
      exact ih fun other member => level other (List.mem_cons_of_mem _ member)

/-- Every processed block takes its part of the distance to the target. -/
theorem abs_agcRun_sub_le (inRange : localAgcMult ∈ multRange) (rPositive : 0 < r)
    {blocks : List (CapturedBlock ℝ)} (level : ∀ block ∈ blocks, block.baseRms Real.sqrt = r)
    (heard : 1 / 1000 < localAgcMult * r) :
    |agcRun Real.sqrt localAgcMult blocks - targetMult r| ≤
      (1 - agcReleaseRate) ^ blocks.countP CapturedBlock.isProcessed *
        |localAgcMult - targetMult r| := by
  induction blocks generalizing localAgcMult with
  | nil => simp [agcRun]
  | cons block blocks ih =>
      have levelHere := level block List.mem_cons_self
      have rest := ih (agcBlock_mem inRange block)
        (fun other member => level other (List.mem_cons_of_mem _ member))
        (heard_of_mem_uIcc inRange rPositive heard (agcBlock_mem_uIcc inRange rPositive levelHere))
      by_cases processed : block.isProcessed = true
      · have here := abs_adjustMult_sub_le inRange rPositive heard
        rw [← levelHere, ← measuredRms_eq inRange (agcEnabled_of_isProcessed processed),
          ← agcBlock_of_isProcessed processed, levelHere] at here
        have rate : (0 : ℝ) ≤ 1 - agcReleaseRate := by norm_num [agcReleaseRate]
        rw [List.countP_cons_of_pos processed, pow_succ, mul_assoc]
        exact rest.trans (mul_le_mul_of_nonneg_left here (pow_nonneg rate _))
      · rw [agcBlock_of_not_isProcessed processed] at rest
        rw [agcRun, List.foldl_cons, agcBlock_of_not_isProcessed processed,
          List.countP_cons_of_neg processed]
        exact rest

theorem followsLevel (inRange : localAgcMult ∈ multRange) (block : CapturedBlock ℝ) :
    FollowsLevel localAgcMult block := by
  refine ⟨fun loud => ?_, fun quiet => ?_, fun processed loud aboveMin => ?_,
    fun processed heard quiet belowMax => ?_⟩
  · rcases agcBlock_cases localAgcMult block with same | ⟨-, adjusted⟩
    · exact same.le
    · rw [adjusted]
      exact adjustMult_le inRange loud
  · rcases agcBlock_cases localAgcMult block with same | ⟨-, adjusted⟩
    · exact same.ge
    · rw [adjusted]
      exact le_adjustMult inRange quiet
  · rw [agcBlock_of_isProcessed processed]
    exact adjustMult_lt inRange loud aboveMin
  · rw [agcBlock_of_isProcessed processed]
    exact lt_adjustMult inRange heard quiet belowMax

theorem settlesTowards (inRange : localAgcMult ∈ multRange) (rPositive : 0 < r)
    {blocks : List (CapturedBlock ℝ)} (level : ∀ block ∈ blocks, block.baseRms Real.sqrt = r) :
    SettlesTowards r localAgcMult blocks where
  inRange := agcRun_mem inRange blocks
  between := agcRun_mem_uIcc inRange rPositive level
  silence := agcRun_of_silence inRange level
  closer := abs_agcRun_sub_le inRange rPositive level
  measured := by
    intro block first enabled
    rw [measuredRms_eq inRange enabled, level block (List.mem_of_mem_head? first)]

end Loop

/-- The loop settles from every multiplier in the range and from every state
it reaches, and follows the level of arbitrary blocks. -/
theorem settlesTowards_and_followsLevel {r start : ℝ} (rPositive : 0 < r)
    (inRange : start ∈ multRange) (earlier later others : List (CapturedBlock ℝ))
    (level : ∀ block ∈ earlier ++ later, block.baseRms Real.sqrt = r) (block : CapturedBlock ℝ) :
    SettlesTowards r (agcRun Real.sqrt start earlier) later ∧
      FollowsLevel (agcRun Real.sqrt start others) block := by
  have levelLater : ∀ block ∈ later, block.baseRms Real.sqrt = r := fun block member =>
    level block (List.mem_append_right _ member)
  exact ⟨settlesTowards (agcRun_mem inRange earlier) rPositive levelLater,
    followsLevel (agcRun_mem inRange others) block⟩

/-- One sample at full scale. -/
def loudBlock : CapturedBlock ℝ where
  agcEnabled := true
  currentGainFactor := 1
  samples := [32767]

/-- The multiplier moves down from one. -/
theorem loudBlock_settles :
    SettlesTowards 1 (agcRun Real.sqrt 1 []) [loudBlock] ∧
      FollowsLevel (agcRun Real.sqrt 1 []) loudBlock ∧
      agcRun Real.sqrt 1 [loudBlock] < 1 := by
  have level : loudBlock.baseRms Real.sqrt = 1 := by
    have squared : sumSquares (1 : ℝ) [32767] / ([32767] : List ℝ).length = 32767 ^ 2 := by
      norm_num [sumSquares]
    rw [CapturedBlock.baseRms, blockRms, loudBlock, squared, Real.sqrt_sq (by norm_num)]
    norm_num
  have inRange : (1 : ℝ) ∈ multRange := mem_multRange_iff.mpr (by norm_num)
  have levels : ∀ block ∈ [] ++ [loudBlock], block.baseRms Real.sqrt = 1 := by
    intro block member
    rw [List.nil_append, List.mem_singleton] at member
    rw [member, level]
  obtain ⟨settles, follows⟩ := settlesTowards_and_followsLevel one_pos inRange [] [loudBlock] []
    levels loudBlock
  refine ⟨settles, follows, follows.falls rfl ?_ ?_⟩
  · rw [agcRun, List.foldl_nil, measuredRms_eq inRange rfl, level]
    norm_num [agcTargetRms]
  · rw [agcRun, List.foldl_nil]
    norm_num [agcMinMult]

end EchoMic
