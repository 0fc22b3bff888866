import EchoMic.LapCounters
import EchoMic.ScheduledReboot
import Mathlib.Algebra.Ring.Nat

/-!
# Deadlines in milliseconds

Three timers keep an absolute deadline in the 32 bits of `millis()`: the wait
of `requestStreamStop`, the deferred reboot and the hold of the peak meter.
Each of them is compared with the same timer in real time, for every time at
which the deadline is set.
-/

namespace EchoMic

open LapCounters

def millisPeriod : Nat := 2 ^ 32

/-- `millis()` at a number of milliseconds since boot. -/
def millisAt (time : Nat) : UInt32 :=
  UInt32.ofNat time

/-! ## The wait for a confirmation -/

/-- One evaluation of the condition of the polling loop. -/
structure StopPoll where
  elapsed : Nat
  streamCleanupDone : Bool
  deriving DecidableEq

/-- `!streamCleanupDone && millis() < deadline`. -/
def stopPolls (deadline millis : UInt32) (streamCleanupDone : Bool) : Bool :=
  !streamCleanupDone && millis < deadline

/-- Core 1 has not confirmed, and less than 3000 ms have elapsed. -/
def StopPoll.waits (poll : StopPoll) : Bool :=
  !poll.streamCleanupDone && poll.elapsed < 3000

/-- The loop ends when Core 1 confirms or 3000 ms have elapsed. -/
def StopWaitKept (start : Nat) (polls : List StopPoll) : Prop :=
  polls.dropWhile (fun poll =>
      stopPolls (millisAt start + 3000) (millisAt (start + poll.elapsed))
        poll.streamCleanupDone) =
    polls.dropWhile StopPoll.waits

/-! ## The deferred reboot -/

/-- The deferred check at the end of an iteration goes back to the start of
`loop`. -/
def keepsLooping (state : RebootState) (millis : UInt32) : Bool :=
  decide (loopStep millis true { state with core0 := .deferredCheck } =
    some { state with core0 := .handleClient })

/-- A reboot that is scheduled at `start` is carried out by the first iteration
in which its delay has elapsed. -/
def RebootKept (state : RebootState) (factoryReset : Bool) (delayMs : UInt32) (start : Nat)
    (iterations : List Nat) : Prop :=
  iterations.dropWhile (fun elapsed =>
      keepsLooping (scheduleReboot factoryReset delayMs (millisAt start) state)
        (millisAt (start + elapsed))) =
    iterations.dropWhile fun elapsed => elapsed < delayMs.toNat

/-! ## The peak hold -/

structure PeakMeter where
  peakHoldAbs16 : UInt16
  peakHoldUntilMs : UInt32
  deriving DecidableEq

def updatePeakHold (lastPeakAbs16 : UInt16) (millis : UInt32) (meter : PeakMeter) : PeakMeter :=
  if lastPeakAbs16 > meter.peakHoldAbs16 then
    { peakHoldAbs16 := lastPeakAbs16
      peakHoldUntilMs := millis + 3000 }
  else if meter.peakHoldAbs16 > 0 ∧ millis > meter.peakHoldUntilMs then
    { meter with peakHoldAbs16 := 0 }
  else meter

/-- A block that is processed later. -/
structure PeakBlock where
  elapsed : Nat
  lastPeakAbs16 : UInt16
  deriving DecidableEq

/-- The hold is left alone by a block that is not louder and not later than
3000 ms. -/
def PeakBlock.keeps (peak : UInt16) (block : PeakBlock) : Bool :=
  block.lastPeakAbs16 ≤ peak && block.elapsed ≤ 3000

/-- A hold that is set at `start` ends with the first block that is louder or
later than 3000 ms. -/
def PeakKept (meter : PeakMeter) (peak : UInt16) (start : Nat) (blocks : List PeakBlock) :
    Prop :=
  let held := updatePeakHold peak (millisAt start) meter
  blocks.dropWhile (fun block =>
      decide (updatePeakHold block.lastPeakAbs16 (millisAt (start + block.elapsed)) held =
        held)) =
    blocks.dropWhile (PeakBlock.keeps peak)

/-! ## When the timers are right -/

/-- The poll is confirmed, or reads the counter where the comparison is
right. -/
def StopPoll.ReadsRightly (start : Nat) (poll : StopPoll) : Prop :=
  poll.streamCleanupDone = true ∨
    ComparesRightly (· ≤ ·) millisPeriod (start + 3000) (start + poll.elapsed)

/-- The deadline zero stands for no reboot. -/
def RebootReadsRightly (delayMs : UInt32) (start elapsed : Nat) : Prop :=
  if (start + delayMs.toNat) % millisPeriod = 0 then elapsed < delayMs.toNat
  else ComparesRightly (· ≤ ·) millisPeriod (start + delayMs.toNat) (start + elapsed)

def PeakBlock.ReadsRightly (peak : UInt16) (start : Nat) (block : PeakBlock) : Prop :=
  peak < block.lastPeakAbs16 ∨
    ComparesRightly (· < ·) millisPeriod (start + 3000) (start + block.elapsed)

instance (start : Nat) : DecidablePred (StopPoll.ReadsRightly start) := fun _ =>
  inferInstanceAs (Decidable (_ ∨ _))

instance (delayMs : UInt32) (start : Nat) : DecidablePred (RebootReadsRightly delayMs start) :=
  fun elapsed =>
    inferInstanceAs (Decidable (if (start + delayMs.toNat) % millisPeriod = 0
      then elapsed < delayMs.toNat
      else ComparesRightly (· ≤ ·) millisPeriod (start + delayMs.toNat) (start + elapsed)))

instance (peak : UInt16) (start : Nat) : DecidablePred (PeakBlock.ReadsRightly peak start) :=
  fun _ => inferInstanceAs (Decidable (_ ∨ _))

/-! ## One observation -/

section Counter

variable (start elapsed : Nat)

theorem toNat_millisAt (time : Nat) : (millisAt time).toNat = time % millisPeriod :=
  UInt32.toNat_ofNat'

theorem toNat_deadline (delayMs : UInt32) :
    (millisAt start + delayMs).toNat = (start + delayMs.toNat) % millisPeriod := by
  rw [UInt32.toNat_add, toNat_millisAt, millisPeriod, Nat.mod_add_mod]

/-- A deadline is less than a period ahead. -/
theorem deadline_near (delayMs : UInt32) :
    start + delayMs.toNat < start + elapsed + millisPeriod := by
  have small := delayMs.toNat_lt
  rw [millisPeriod]
  omega

theorem reached_iff {reached : Nat → Nat → Prop} (comparison : IsComparison reached)
    (delayMs : UInt32) :
    (reached (millisAt start + delayMs).toNat (millisAt (start + elapsed)).toNat ↔
        reached delayMs.toNat elapsed) ↔
      ComparesRightly reached millisPeriod (start + delayMs.toNat) (start + elapsed) := by
  rw [toNat_deadline, toNat_millisAt, ← comparison.add_left delayMs.toNat elapsed start]
  exact comparesRightly_iff comparison (deadline_near start elapsed delayMs)

end Counter

theorem stopPolls_eq_iff (start : Nat) (poll : StopPoll) :
    stopPolls (millisAt start + 3000) (millisAt (start + poll.elapsed)) poll.streamCleanupDone =
        poll.waits ↔ poll.ReadsRightly start := by
  obtain ⟨elapsed, streamCleanupDone⟩ := poll
  cases streamCleanupDone with
  | true =>
      refine iff_of_true ?_ (Or.inl rfl)
      simp [stopPolls, StopPoll.waits]
  | false =>
      have right := reached_iff start elapsed isComparison_le 3000
      simp only [stopPolls, StopPoll.waits, StopPoll.ReadsRightly, Bool.not_false, Bool.true_and,
        Bool.false_eq_true, false_or, decide_eq_decide, UInt32.lt_iff_toNat_lt]
      rw [← Nat.not_le, ← Nat.not_le, not_iff_not]
      exact right

/-- The check of the source. -/
theorem keepsLooping_eq_true_iff (state : RebootState) (millis : UInt32) :
    keepsLooping state millis = true ↔
      ¬ (state.scheduledRebootAt ≠ 0 ∧ millis ≥ state.scheduledRebootAt) := by
  simp only [keepsLooping, loopStep, decide_eq_true_eq, Option.some.injEq,
    RebootState.mk.injEq, true_and, and_true]
  by_cases due : state.scheduledRebootAt ≠ 0 ∧ millis ≥ state.scheduledRebootAt
  · rw [if_pos due]
    refine iff_of_false ?_ (not_not.mpr due)
    split <;> rintro ⟨⟩
  · rw [if_neg due]
    exact iff_of_true rfl due

theorem keepsLooping_eq_iff (state : RebootState) (factoryReset : Bool) (delayMs : UInt32)
    (start elapsed : Nat) :
    keepsLooping (scheduleReboot factoryReset delayMs (millisAt start) state)
          (millisAt (start + elapsed)) =
        decide (elapsed < delayMs.toNat) ↔ RebootReadsRightly delayMs start elapsed := by
  have right := reached_iff start elapsed isComparison_le delayMs
  have zero : millisAt start + delayMs = 0 ↔ (start + delayMs.toNat) % millisPeriod = 0 := by
    rw [← toNat_deadline]
    exact UInt32.toNat_inj.symm
  rw [Bool.eq_iff_iff, keepsLooping_eq_true_iff, decide_eq_true_eq, RebootReadsRightly]
  simp only [scheduleReboot, ne_eq, zero, ge_iff_le, UInt32.le_iff_toNat_le]
  split
  · rename_i none
    simp [none]
  · rename_i some
    rw [← right, ← Nat.not_le, not_iff_not]
    simp [some]

/-- A block that is not louder clears the hold behind its deadline. -/
theorem updatePeakHold_eq_self_iff {held : PeakMeter} {lastPeakAbs16 : UInt16}
    (positive : 0 < held.peakHoldAbs16) (notLouder : ¬ lastPeakAbs16 > held.peakHoldAbs16)
    (millis : UInt32) :
    updatePeakHold lastPeakAbs16 millis held = held ↔ ¬ held.peakHoldUntilMs < millis := by
  rw [updatePeakHold, if_neg notLouder]
  by_cases passed : held.peakHoldUntilMs < millis
  · rw [if_pos ⟨positive, passed⟩]
    refine iff_of_false (fun same => ?_) (not_not.mpr passed)
    rw [← same] at positive
    exact UInt16.lt_irrefl 0 positive
  · rw [if_neg fun both => passed both.2]
    exact iff_of_true rfl passed

theorem updatePeakHold_of_louder {meter : PeakMeter} {peak : UInt16}
    (louder : meter.peakHoldAbs16 < peak) (millis : UInt32) :
    updatePeakHold peak millis meter = ⟨peak, millis + 3000⟩ :=
  if_pos louder

theorem updatePeakHold_eq_iff {meter : PeakMeter} {peak : UInt16}
    (louder : meter.peakHoldAbs16 < peak) (start : Nat) (block : PeakBlock) :
    decide (updatePeakHold block.lastPeakAbs16 (millisAt (start + block.elapsed))
            (updatePeakHold peak (millisAt start) meter) =
          updatePeakHold peak (millisAt start) meter) =
        block.keeps peak ↔ block.ReadsRightly peak start := by
  have right := reached_iff start block.elapsed isComparison_lt 3000
  have positive : 0 < peak := by
    rw [UInt16.lt_iff_toNat_lt] at louder ⊢
    exact Nat.lt_of_le_of_lt (Nat.zero_le _) louder
  rw [updatePeakHold_of_louder louder, Bool.eq_iff_iff, decide_eq_true_eq, PeakBlock.keeps,
    Bool.and_eq_true, decide_eq_true_eq, decide_eq_true_eq, PeakBlock.ReadsRightly]
  by_cases blockLouder : peak < block.lastPeakAbs16
  · rw [updatePeakHold_of_louder blockLouder]
    refine iff_of_true (iff_of_false (fun same => ?_) fun keeps => ?_) (Or.inl blockLouder)
    · have samePeak : block.lastPeakAbs16 = peak := congrArg PeakMeter.peakHoldAbs16 same
      rw [samePeak] at blockLouder
      exact absurd blockLouder (UInt16.lt_irrefl _)
    · exact absurd blockLouder (UInt16.not_lt.mpr keeps.1)
  · have notLouder : block.lastPeakAbs16 ≤ peak := UInt16.not_lt.mp blockLouder
    rw [updatePeakHold_eq_self_iff positive blockLouder, UInt32.lt_iff_toNat_lt, ← Nat.not_lt]
    simp only [notLouder, true_and, not_iff_not, blockLouder, false_or]
    exact right

/-! ## Every run of observations -/

/-- Each timer ends at the observation at which it should exactly when every
observation up to that one reads the counter rightly. -/
theorem deadlinesKept_iff (start : Nat) :
    (∀ polls, StopWaitKept start polls ↔
      WhileWaiting StopPoll.waits (StopPoll.ReadsRightly start) polls) ∧
    (∀ state factoryReset delayMs iterations,
      RebootKept state factoryReset delayMs start iterations ↔
        WhileWaiting (fun elapsed => elapsed < delayMs.toNat)
          (RebootReadsRightly delayMs start) iterations) ∧
    ∀ (meter : PeakMeter) (peak : UInt16) (blocks : List PeakBlock),
      meter.peakHoldAbs16 < peak →
        (PeakKept meter peak start blocks ↔
          WhileWaiting (PeakBlock.keeps peak) (PeakBlock.ReadsRightly peak start) blocks) := by
  refine ⟨fun polls => ?_, fun state factoryReset delayMs iterations => ?_,
    fun meter peak blocks louder => ?_⟩
  · rw [StopWaitKept, dropWhile_eq_iff]
    exact WhileWaiting.congr (stopPolls_eq_iff start) polls
  · rw [RebootKept, dropWhile_eq_iff]
    exact WhileWaiting.congr (keepsLooping_eq_iff state factoryReset delayMs start) iterations
  · rw [PeakKept, dropWhile_eq_iff]
    exact WhileWaiting.congr (updatePeakHold_eq_iff louder start) blocks

/-- Less than a second before the counter wraps, the wait and the hold end at
once; a reboot whose deadline is zero is never carried out. -/
theorem deadlines_missed_at_wrap :
    ¬ StopWaitKept 4294966296 [⟨0, false⟩, ⟨10, true⟩] ∧
      ¬ RebootKept (RebootState.boot false 24 0) false 600 4294966696 [0, 300, 600, 900] ∧
      ¬ PeakKept ⟨0, 0⟩ 1000 4294966296 [⟨64, 10⟩] := by
  refine ⟨?_, ?_, ?_⟩
  · unfold StopWaitKept
    decide
  · unfold RebootKept
    decide
  · unfold PeakKept
    decide

theorem deadlinesKept_after_a_minute :
    StopWaitKept 60000 [⟨0, false⟩, ⟨2990, false⟩, ⟨3000, false⟩] ∧
      RebootKept (RebootState.boot false 24 0) true 600 60000 [100, 500, 610] ∧
      PeakKept ⟨0, 0⟩ 1000 60000 [⟨64, 10⟩, ⟨3000, 20⟩, ⟨3064, 30⟩] := by
  obtain ⟨stop, reboot, peak⟩ := deadlinesKept_iff 60000
  exact ⟨(stop _).mpr (by decide), (reboot _ _ _ _).mpr (by decide),
    (peak _ _ _ (by decide)).mpr (by decide)⟩

end EchoMic
