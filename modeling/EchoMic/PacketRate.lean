import EchoMic.RtpWireFraming
import Mathlib.Algebra.Ring.Nat

/-!
# The measured packet rate

`checkPerformance` and `httpStatus` both divide a thousand times the packet
counter by the time since PLAY, in the 32-bit arithmetic of the target.  This
file proves exactly how many packets a stream may have sent for the result to
be the rate in unbounded integers.
-/

namespace EchoMic

open GuardedRuns

/-- The quotient that both callers compute. -/
def packetRate (audioPacketsSent runtime : UInt32) : UInt32 :=
  audioPacketsSent * 1000 / runtime

/-- `current_rate_pkt_s` as `httpStatus` reports it. -/
def statusPacketRate (isStreaming : Bool)
    (audioPacketsSent lastStatsReset now : UInt32) : UInt32 :=
  let runtime := now - lastStatsReset
  if isStreaming && runtime > 1000 then packetRate audioPacketsSent runtime
  else 0

/-- The successive values of `millis()` in one call of `checkPerformance`. -/
structure PerfClock where
  gate : UInt32
  cooldown : UInt32
  runtime : UInt32
  statsReset : UInt32
  i2sReset : UInt32
  deriving DecidableEq

/-- The globals of `checkPerformance`, with its static counter. -/
structure PerfMonitor where
  minFreeHeap : UInt32
  isStreaming : Bool
  audioPacketsSent : UInt32
  lastStatsReset : UInt32
  lastI2SReset : UInt32
  maxPacketRate : UInt32
  minPacketRate : UInt32
  minAcceptableRate : UInt32
  autoRecoveryEnabled : Bool
  consecutiveLowCount : UInt8
  deriving DecidableEq

/-- The rate that `checkPerformance` evaluates, if it evaluates one. -/
def checkedRate (clock : PerfClock) (monitor : PerfMonitor) : Option UInt32 :=
  if monitor.isStreaming && clock.gate - monitor.lastStatsReset > 30000 then
    if monitor.lastI2SReset > 0 &&
        clock.cooldown - monitor.lastI2SReset < 120000 then none
    else
      some (packetRate monitor.audioPacketsSent
        (clock.runtime - monitor.lastStatsReset))
  else none

/-- What `restartI2S` does to the globals of `checkPerformance`; whether the
stream is resumed is decided by the audio pipeline. -/
def PerfMonitor.restartI2S (monitor : PerfMonitor) (resumed : Bool) :
    PerfMonitor :=
  { monitor with
    maxPacketRate := 0
    minPacketRate := 0xFFFFFFFF
    isStreaming := resumed }

/-- `checkPerformance`, and whether it invokes `restartI2S`. -/
def checkPerformance (clock : PerfClock) (freeHeap : UInt32) (resumed : Bool)
    (monitor : PerfMonitor) : PerfMonitor × Bool :=
  let monitor := { monitor with
    minFreeHeap :=
      if freeHeap < monitor.minFreeHeap then freeHeap
      else monitor.minFreeHeap }
  match checkedRate clock monitor with
  | none => (monitor, false)
  | some currentRate =>
      let monitor := { monitor with
        maxPacketRate :=
          if currentRate > monitor.maxPacketRate then currentRate
          else monitor.maxPacketRate
        minPacketRate :=
          if currentRate < monitor.minPacketRate then currentRate
          else monitor.minPacketRate }
      if currentRate < monitor.minAcceptableRate then
        let monitor := { monitor with
          consecutiveLowCount := monitor.consecutiveLowCount + 1 }
        if monitor.consecutiveLowCount ≥ 3 && monitor.autoRecoveryEnabled then
          let restarted :=
            { monitor with consecutiveLowCount := 0 }.restartI2S resumed
          ({ restarted with
              audioPacketsSent := 0
              lastStatsReset := clock.statsReset
              lastI2SReset := clock.i2sReset }, true)
        else (monitor, false)
      else ({ monitor with consecutiveLowCount := 0 }, false)

/-- The packet counter after `packets` successful sends since PLAY. -/
def packetCounter (packets : Nat) : UInt32 :=
  UInt32.ofNat packets

/-- Along a session the counter is the number of sent packets. -/
theorem audioPacketsSent_of_session {rtpSSRC consecutiveWriteFailures : UInt32}
    {calls : List SendCall} {last : Session}
    (ran : run sessionStep (Session.play rtpSSRC consecutiveWriteFailures) calls =
      some last) :
    last.sender.audioPacketsSent = packetCounter last.sent.length := by
  refine @invariant_of_run Session SendCall sessionStep
    (fun session =>
      session.sender.audioPacketsSent = packetCounter session.sent.length) ?_
    _ last calls rfl ran
  intro session call next counted stepped
  unfold sessionStep at stepped
  split at stepped
  · cases stepped
    rw [sendRTPPacket_audioPacketsSent, counted]
    split
    · simp [packetCounter, UInt32.ofNat_add]
    · rfl
  · cases stepped

/-- The rate of `packets` packets in `elapsed` milliseconds is computed
exactly wherever it is computed, and a stream whose average rate reaches the
acceptable minimum is not counted as low. -/
def PacketRateExact (packets elapsed : Nat) : Prop :=
  (∀ lastStatsReset : UInt32,
    (statusPacketRate true (packetCounter packets) lastStatsReset
        (lastStatsReset + UInt32.ofNat elapsed)).toNat =
      1000 * packets / elapsed) ∧
  ∀ (clock : PerfClock) (monitor : PerfMonitor) (currentRate : UInt32),
    monitor.audioPacketsSent = packetCounter packets →
    clock.runtime = monitor.lastStatsReset + UInt32.ofNat elapsed →
    checkedRate clock monitor = some currentRate →
      currentRate.toNat = 1000 * packets / elapsed ∧
      (monitor.minAcceptableRate.toNat * elapsed ≤ 1000 * packets →
        ∀ freeHeap resumed,
          (checkPerformance clock freeHeap resumed monitor).1.consecutiveLowCount =
            0)

theorem packetRate_toNat (packets elapsed : Nat) (bounded : elapsed < 2 ^ 32) :
    (packetRate (packetCounter packets) (UInt32.ofNat elapsed)).toNat =
      1000 * packets % 2 ^ 32 / elapsed := by
  simp only [packetRate, packetCounter, UInt32.toNat_div, UInt32.toNat_mul,
    UInt32.toNat_ofNat', UInt32.reduceToNat]
  rw [Nat.mod_eq_of_lt bounded, Nat.mod_mul_mod, Nat.mul_comm]

/-- Every wrap of the product lowers the quotient by at least one. -/
theorem wrapped_quotient_eq_iff (product elapsed : Nat) (positive : 0 < elapsed)
    (bounded : elapsed < 2 ^ 32) :
    product % 2 ^ 32 / elapsed = product / elapsed ↔ product < 2 ^ 32 := by
  constructor
  · intro same
    by_contra wraps
    have lower : product % 2 ^ 32 + elapsed ≤ product := by
      have division := Nat.mod_add_div product (2 ^ 32)
      have quotient : 1 ≤ product / 2 ^ 32 :=
        (Nat.one_le_div_iff (by decide)).mpr (by omega)
      omega
    have strict : product % 2 ^ 32 / elapsed + 1 ≤ product / elapsed := by
      rw [← Nat.add_div_right _ positive]
      exact Nat.div_le_div_right lower
    omega
  · intro fits
    rw [Nat.mod_eq_of_lt fits]

theorem elapsed_since (start elapsed : UInt32) :
    start + elapsed - start = elapsed := by
  rw [UInt32.add_comm, UInt32.add_sub_cancel]

theorem checkedRate_eq {clock : PerfClock} {monitor : PerfMonitor}
    {currentRate : UInt32} {packets elapsed : Nat}
    (counter : monitor.audioPacketsSent = packetCounter packets)
    (read : clock.runtime = monitor.lastStatsReset + UInt32.ofNat elapsed)
    (checked : checkedRate clock monitor = some currentRate) :
    currentRate = packetRate (packetCounter packets) (UInt32.ofNat elapsed) := by
  unfold checkedRate at checked
  split at checked
  · split at checked
    · cases checked
    · cases checked
      rw [counter, read, elapsed_since]
  · cases checked

/-- The lowest heap seen so far plays no part in the rate. -/
theorem checkedRate_minFreeHeap (clock : PerfClock) (monitor : PerfMonitor)
    (minFreeHeap : UInt32) :
    checkedRate clock { monitor with minFreeHeap := minFreeHeap } = checkedRate clock monitor :=
  rfl

/-- A check whose rate reaches the minimum clears the low count. -/
theorem consecutiveLowCount_of_checkedRate {clock : PerfClock}
    {monitor : PerfMonitor} {currentRate : UInt32}
    (checked : checkedRate clock monitor = some currentRate)
    (acceptable : ¬ currentRate < monitor.minAcceptableRate)
    (freeHeap : UInt32) (resumed : Bool) :
    (checkPerformance clock freeHeap resumed monitor).1.consecutiveLowCount = 0 := by
  simp only [checkPerformance, checkedRate_minFreeHeap, checked, if_neg acceptable]

theorem statusPacketRate_since (packets elapsed : Nat) (afterFirstSecond : 1000 < elapsed)
    (bounded : elapsed < 2 ^ 32) (lastStatsReset : UInt32) :
    statusPacketRate true (packetCounter packets) lastStatsReset
        (lastStatsReset + UInt32.ofNat elapsed) =
      packetRate (packetCounter packets) (UInt32.ofNat elapsed) := by
  have running : UInt32.ofNat elapsed > 1000 := by
    rw [gt_iff_lt, UInt32.lt_iff_toNat_lt, UInt32.toNat_ofNat_of_lt' bounded]
    exact afterFirstSecond
  simp only [statusPacketRate, elapsed_since, Bool.true_and, decide_eq_true running, if_true]

/-- The status page shows the average rate of the packets a session has sent,
as long as a thousand times their number fits in 32 bits. -/
theorem statusPacketRate_of_session {rtpSSRC consecutiveWriteFailures : UInt32}
    {calls : List SendCall} {last : Session}
    (ran : run sessionStep (Session.play rtpSSRC consecutiveWriteFailures) calls = some last)
    (fits : 1000 * last.sent.length < 2 ^ 32) {elapsed : Nat}
    (afterFirstSecond : 1000 < elapsed) (bounded : elapsed < 2 ^ 32) (lastStatsReset : UInt32) :
    (statusPacketRate true last.sender.audioPacketsSent lastStatsReset
        (lastStatsReset + UInt32.ofNat elapsed)).toNat =
      1000 * last.sent.length / elapsed := by
  rw [audioPacketsSent_of_session ran, statusPacketRate_since _ _ afterFirstSecond bounded,
    packetRate_toNat _ _ bounded, Nat.mod_eq_of_lt fits]

/-- The packet rate is exact exactly as long as a thousand times the number
of packets fits in 32 bits. -/
theorem packetRateExact_iff (packets elapsed : Nat)
    (afterFirstSecond : 1000 < elapsed) (bounded : elapsed < 2 ^ 32) :
    PacketRateExact packets elapsed ↔ 1000 * packets < 2 ^ 32 := by
  have rateEq := packetRate_toNat packets elapsed bounded
  have wrapped :=
    wrapped_quotient_eq_iff (1000 * packets) elapsed (by omega) bounded
  have statusEq := statusPacketRate_since packets elapsed afterFirstSecond bounded
  constructor
  · rintro ⟨status, -⟩
    rw [← wrapped, ← rateEq, ← statusEq 0]
    exact status 0
  · intro fits
    rw [wrapped.mpr fits] at rateEq
    refine ⟨fun lastStatsReset => by rw [statusEq, rateEq], ?_⟩
    intro clock monitor currentRate counter read checked
    have currentEq : currentRate.toNat = 1000 * packets / elapsed := by
      rw [checkedRate_eq counter read checked, rateEq]
    refine ⟨currentEq, fun reaches freeHeap resumed => ?_⟩
    apply consecutiveLowCount_of_checkedRate checked
    rw [UInt32.lt_iff_toNat_lt, currentEq, not_lt]
    exact (Nat.le_div_iff_mul_le (by omega)).mpr reaches

/-- Three days at 15.625 packets per second: the product has wrapped and the
status page shows zero. -/
theorem packetRate_wraps_after_three_days :
    ¬ PacketRateExact 4294968 274877952 := by
  rintro ⟨status, -⟩
  exact absurd (status 0) (by decide)

/-- One packet less is still measured exactly. -/
theorem packetRate_exact_before_wrap : PacketRateExact 4294967 274877888 :=
  (packetRateExact_iff 4294967 274877888 (by decide) (by decide)).mpr (by decide)

end EchoMic
