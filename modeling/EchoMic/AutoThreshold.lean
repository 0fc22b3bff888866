import EchoMic.ThermalLatch
import EchoMic.PacketRate
import Mathlib.Data.Rat.Floor
import Mathlib.Tactic.Linarith

/-!
# The automatic threshold

In automatic mode `minAcceptableRate` is computed from the sample rate and
the buffer size, by hand in every function that changes one of them.  This
file finds the one request that leaves the two out of step, and the stream
formats whose nominal packet rate the computed threshold calls low.
-/

namespace EchoMic

open GuardedRuns

/-- In automatic mode the threshold is the recommended one. -/
def FollowsRecommended (device : Device) : Prop :=
  device.autoThresholdEnabled = true →
    device.minAcceptableRate = computeRecommendedMinRate device

instance (device : Device) : Decidable (FollowsRecommended device) :=
  inferInstanceAs (Decidable (_ → _))

/-- A `min_rate` request that is accepted in automatic mode carries the
recommended value. -/
def LeavesThreshold (device : Device) (event : DeviceEvent) : Prop :=
  ∀ value clientConnected, event = .set "min_rate" value clientConnected →
    device.autoThresholdEnabled = true → ∀ v, argToUInt value = some v →
      5 ≤ v → v ≤ 200 → v = computeRecommendedMinRate device

/-! ## Operations -/

theorem followsRecommended_refresh (device : Device) :
    FollowsRecommended (refreshMinAcceptableRate device) := by
  unfold refreshMinAcceptableRate
  split
  · exact fun _ => rfl
  · rename_i manual
    exact fun auto => absurd auto manual

/-- Every boot computes the threshold from what it has loaded. -/
theorem followsRecommended_loadAudioSettings (device : Device) :
    FollowsRecommended (loadAudioSettings device) := by
  have refreshed := followsRecommended_refresh (readAudioPrefs device)
  unfold loadAudioSettings
  simp only
  split <;> exact refreshed

theorem followsRecommended_setup (flash : AudioPrefs) (reading : SensorReading)
    (bootTime : UInt32) : FollowsRecommended (setup flash reading bootTime) := by
  have loaded := followsRecommended_loadAudioSettings
    { Device.powerOn flash with bootTime := bootTime }
  unfold setup setupTemperature
  cases reading.valid with
  | some temp => exact loaded
  | none => exact loaded

theorem followsRecommended_resetToDefaultSettings (device : Device) :
    FollowsRecommended (resetToDefaultSettings device) :=
  fun _ => rfl

theorem ofText_min_rate {key : String} (found : SettingKey.ofText key = some .min_rate) :
    key = "min_rate" := by
  unfold SettingKey.ofText at found
  split at found <;> first | rfl | cases found

section Operations

variable {device : Device} (follows : FollowsRecommended device)

include follows

theorem FollowsRecommended.restartI2S (clientConnected : Bool) :
    FollowsRecommended (restartI2S clientConnected device) := by
  rw [restartI2S_eq]
  exact follows

theorem FollowsRecommended.saveAudioSettings :
    FollowsRecommended (saveAudioSettings device) :=
  follows

/-- A key that touches neither the mode nor a rate keeps the threshold, and
the keys of the rates compute it again. -/
theorem followsRecommended_applySetting (toFloat : String → Option Rat)
    (clientConnected : Bool) (value : Option String) (key : SettingKey)
    (leaves : key = .min_rate → device.autoThresholdEnabled = true →
      ∀ v, argToUInt value = some v → 5 ≤ v → v ≤ 200 →
        v = computeRecommendedMinRate device) :
    FollowsRecommended (applySetting toFloat clientConnected value key device) := by
  cases key with
  | gain =>
      apply property_setFloat value toFloat follows
      intro v _ _
      apply FollowsRecommended.restartI2S
      exact follows
  | rate =>
      apply property_setUInt value follows
      intro v _ _
      have changed := followsRecommended_refresh { device with currentSampleRate := v }
      exact changed.saveAudioSettings.restartI2S clientConnected
  | buffer =>
      apply property_setUShort value follows
      intro v _ _
      have changed := followsRecommended_refresh { device with currentBufferSize := v }
      exact changed.saveAudioSettings.restartI2S clientConnected
  | wifi_tx =>
      apply property_setFloat value toFloat follows
      exact fun v _ _ => follows
  | thr_mode =>
      simp only [applySetting]
      split
      · exact followsRecommended_refresh { device with autoThresholdEnabled := true }
      · split
        · exact fun impossible => absurd impossible Bool.false_ne_true
        · exact follows
  | min_rate =>
      simp only [applySetting, setUInt]
      split
      · exact follows
      · rename_i v read
        split
        · rename_i inRange
          exact fun auto => leaves rfl auto v read inRange.1 inRange.2
        · exact follows
  | check_interval | reset_hours | cpu_freq | hp_cutoff | led_mode | oh_limit =>
      apply property_setUInt value follows
      exact fun v _ _ => follows
  | auto_recovery | sched_reset | hp_enable | agc_enable | oh_enable =>
      simp only [applySetting]
      apply property_setSwitch value follows
      exact fun v => follows

theorem followsRecommended_checkTemperature (reading : SensorReading) (millis : UInt32) :
    FollowsRecommended (checkTemperature reading millis device) := by
  unfold checkTemperature
  cases reading.valid with
  | none =>
      simp only
      split <;> exact follows
  | some temp =>
      have restored : FollowsRecommended
          (restoreSensor millis
            { device with
              lastTemperatureC := temp
              lastTemperatureValid := true }) := by
        unfold restoreSensor
        split <;> exact follows
      simp only [protectFrom]
      split
      · split
        · exact restored
        · split <;> exact restored
      · exact restored

end Operations

/-! ## Every run -/

theorem followsRecommended_step {toFloat : String → Option Rat} {device next : Device}
    {event : DeviceEvent} (follows : FollowsRecommended device)
    (leaves : LeavesThreshold device event)
    (stepped : deviceStep toFloat device event = some next) : FollowsRecommended next := by
  cases event <;> cases stepped
  case checkTemperature reading millis =>
    exact followsRecommended_checkTemperature follows reading millis
  case thermalClear =>
    unfold httpThermalClear
    split <;> exact follows
  case serverStart =>
    unfold httpActionServerStart
    split
    · exact follows
    · split <;> exact follows
  case serverStop => exact follows
  case set key value clientConnected =>
    unfold httpSet
    split
    · exact follows
    · rename_i found
      refine followsRecommended_applySetting follows toFloat clientConnected value _ ?_
      rintro rfl
      rw [ofText_min_rate found] at leaves
      exact leaves value clientConnected rfl
  case play =>
    unfold loopPlay
    split <;> exact follows
  case streamEnds => exact follows
  case restartI2S clientConnected => exact follows.restartI2S clientConnected
  case factoryReset reading bootTime => exact followsRecommended_setup _ reading bootTime
  case reboot reading bootTime => exact followsRecommended_setup _ reading bootTime

/-- As long as no `min_rate` request overrides the automatic mode, the
threshold follows the sample rate and the buffer size in every state. -/
theorem followsRecommended_of_guarded (toFloat : String → Option Rat) (flash : AudioPrefs)
    (reading : SensorReading) (bootTime : UInt32) (events : List DeviceEvent)
    (guarded : Guarded (deviceStep toFloat) LeavesThreshold
      (setup flash reading bootTime) events) :
    ∃ device,
      run (deviceStep toFloat) (setup flash reading bootTime) events = some device ∧
        FollowsRecommended device ∧ FollowsRecommended (resetToDefaultSettings device) := by
  obtain ⟨device, ran⟩ := run_isSome (deviceStep_isSome toFloat)
    (setup flash reading bootTime) events
  have follows : FollowsRecommended device :=
    invariant_of_guarded (fun _ _ _ => followsRecommended_step)
      (followsRecommended_setup flash reading bootTime) guarded ran
  exact ⟨device, ran, follows, followsRecommended_resetToDefaultSettings device⟩

/-- One request after the first boot: the threshold is 50, where 16000
samples a second in buffers of 1024 give 8. -/
theorem minRate_overrides_automatic :
    ∃ device,
      run (deviceStep fun _ => none) (setup AudioPrefs.empty (.celsius 40) 0)
        [.set "min_rate" (some "50") false] = some device ∧
      ¬ FollowsRecommended device := by
  refine ⟨_, rfl, ?_⟩
  decide +kernel

/-- A threshold of 60 is set in manual mode and given up with it. -/
theorem threshold_follows_mode_changes :
    ∃ device,
      run (deviceStep fun _ => none) (setup AudioPrefs.empty (.celsius 40) 0)
        [.set "thr_mode" (some "manual") false, .set "min_rate" (some "60") false,
          .set "thr_mode" (some "auto") false] = some device ∧
      FollowsRecommended device ∧ FollowsRecommended (resetToDefaultSettings device) := by
  apply followsRecommended_of_guarded
  refine ⟨?_, fun _ first => ⟨?_, fun _ second => ⟨?_, fun _ _ => trivial⟩⟩⟩
  · intro value clientConnected isMinRate
    simp at isMinRate
  · cases first
    intro value clientConnected _ auto
    exact absurd auto (by decide)
  · intro value clientConnected isMinRate
    simp at isMinRate

/-! ## A stream at its nominal rate -/

/-- The packets that a stream at its nominal rate has sent after `elapsed`
milliseconds. -/
def nominalPackets (device : Device) (elapsed : Nat) : Nat :=
  elapsed * device.currentSampleRate.toNat / (1000 * device.currentBufferSize.toNat)

/-- No check of a stream at its nominal rate is counted as low, from the
tenth packet on and while the 32-bit product does not wrap. -/
def NominalNeverLow (device : Device) : Prop :=
  ∀ (gate elapsed : Nat) (clock : PerfClock) (monitor : PerfMonitor)
      (currentRate freeHeap : UInt32) (resumed : Bool),
    10 ≤ nominalPackets device elapsed → gate ≤ elapsed → elapsed < 2 ^ 32 →
    1000 * nominalPackets device elapsed < 2 ^ 32 →
    monitor.audioPacketsSent = packetCounter (nominalPackets device elapsed) →
    monitor.minAcceptableRate = (refreshMinAcceptableRate device).minAcceptableRate →
    monitor.consecutiveLowCount = 0 →
    clock.gate = monitor.lastStatsReset + UInt32.ofNat gate →
    clock.runtime = monitor.lastStatsReset + UInt32.ofNat elapsed →
    checkedRate clock monitor = some currentRate →
      monitor.minAcceptableRate ≤ currentRate ∧
        (checkPerformance clock freeHeap resumed monitor).1.consecutiveLowCount = 0

theorem checkedRate_gate {clock : PerfClock} {monitor : PerfMonitor} {currentRate : UInt32}
    (checked : checkedRate clock monitor = some currentRate) :
    30000 < clock.gate - monitor.lastStatsReset := by
  unfold checkedRate at checked
  split at checked
  · rename_i opened
    rw [Bool.and_eq_true, decide_eq_true_eq] at opened
    exact opened.2
  · cases checked

/-- Rounding half of the expected rate, in whole numbers. -/
theorem round_half_rate (rate buffer : Nat) (positive : 0 < buffer) :
    ((rate : Rat) / buffer * (1 / 2) + 1 / 2).floor.toNat =
      (rate + buffer) / (2 * buffer) := by
  have nonzero : (buffer : Rat) ≠ 0 := by
    exact_mod_cast positive.ne'
  have fraction : (rate : Rat) / buffer * (1 / 2) + 1 / 2 =
      ((rate + buffer : Nat) : Rat) / ((2 * buffer : Nat) : Rat) := by
    push_cast
    field_simp
  have whole := Rat.floor_natCast_div_natCast (rate + buffer) (2 * buffer)
  rw [fraction]
  exact congrArg Int.toNat whole

theorem computeRecommendedMinRate_toNat (device : Device)
    (positive : 0 < device.currentBufferSize.toNat) :
    (computeRecommendedMinRate device).toNat =
      max 5 ((device.currentSampleRate.toNat + device.currentBufferSize.toNat) /
        (2 * device.currentBufferSize.toNat)) := by
  have atLeastOne : max 1 device.currentBufferSize = device.currentBufferSize :=
    if_pos (UInt16.le_iff_toNat_le.mpr (by exact positive))
  have rateBound := device.currentSampleRate.toNat_lt
  have bufferBound := device.currentBufferSize.toNat_lt
  have fits : (device.currentSampleRate.toNat + device.currentBufferSize.toNat) /
      (2 * device.currentBufferSize.toNat) < 2 ^ 32 := by
    apply Nat.div_lt_of_lt_mul
    nlinarith
  simp only [computeRecommendedMinRate, atLeastOne, UInt16.toNat_toUInt32,
    round_half_rate _ _ positive]
  split
  · rename_i below
    rw [UInt32.lt_iff_toNat_lt, UInt32.toNat_ofNat_of_lt' fits] at below
    exact (max_eq_left (Nat.le_of_lt below)).symm
  · rename_i reaches
    rw [UInt32.lt_iff_toNat_lt, UInt32.toNat_ofNat_of_lt' fits, not_lt] at reaches
    rw [UInt32.toNat_ofNat_of_lt' fits]
    exact (max_eq_right reaches).symm

/-- The floor of five packets a second is reached by a stream of nominally
5.034: a check right after thirty seconds finds the worst truncation. -/
theorem five_reached {rate buffer elapsed : Nat} (positive : 0 < buffer)
    (fast : 151000 * buffer ≤ 30001 * rate) (evaluated : 30000 < elapsed) :
    5 * elapsed ≤ 1000 * (elapsed * rate / (1000 * buffer)) := by
  -- The first packet count whose measured rate is five.
  have enough : (elapsed + 199) / 200 ≤ elapsed * rate / (1000 * buffer) := by
    rw [Nat.le_div_iff_mul_le (by omega)]
    have truncation : 30001 * ((elapsed + 199) / 200) ≤ 151 * elapsed := by
      omega
    have scaled := Nat.mul_le_mul_right (1000 * buffer) truncation
    have nominal := Nat.mul_le_mul_left elapsed fast
    nlinarith
  omega

/-- From eleven packets a second on the margin is wide enough. -/
theorem half_reached {rate buffer elapsed : Nat} (positive : 0 < buffer)
    (six : 6 ≤ (rate + buffer) / (2 * buffer)) (evaluated : 30000 < elapsed) :
    (rate + buffer) / (2 * buffer) * elapsed ≤
      1000 * (elapsed * rate / (1000 * buffer)) := by
  have threshold := Nat.div_mul_le_self (rate + buffer) (2 * buffer)
  have sent := Nat.lt_div_mul_add (a := elapsed * rate) (b := 1000 * buffer) (by omega)
  generalize (rate + buffer) / (2 * buffer) = recommended at six threshold ⊢
  generalize elapsed * rate / (1000 * buffer) = packets at sent ⊢
  have fast : 11 * buffer ≤ rate := by
    nlinarith
  have fastElapsed := Nat.mul_le_mul_left elapsed fast
  have thresholdElapsed := Nat.mul_le_mul_left elapsed threshold
  have evaluatedBuffer := Nat.mul_le_mul_right buffer evaluated
  by_contra missed
  have short : 1000 * packets + 1 ≤ recommended * elapsed := by
    omega
  have shortBuffer := Nat.mul_le_mul_right buffer short
  nlinarith

/-- In automatic mode a stream at its nominal rate is never counted as low
exactly when it has at least 151000/30001 packets a second. -/
theorem nominalNeverLow_iff (device : Device)
    (auto : device.autoThresholdEnabled = true)
    (rateRange : 8000 ≤ device.currentSampleRate ∧ device.currentSampleRate ≤ 96000)
    (bufferRange : 256 ≤ device.currentBufferSize ∧ device.currentBufferSize ≤ 8192) :
    NominalNeverLow device ↔
      151000 * device.currentBufferSize.toNat ≤ 30001 * device.currentSampleRate.toNat := by
  have slowest : 8000 ≤ device.currentSampleRate.toNat :=
    UInt32.le_iff_toNat_le.mp rateRange.1
  have smallest : 256 ≤ device.currentBufferSize.toNat :=
    UInt16.le_iff_toNat_le.mp bufferRange.1
  have largest : device.currentBufferSize.toNat ≤ 8192 :=
    UInt16.le_iff_toNat_le.mp bufferRange.2
  have positive : 0 < device.currentBufferSize.toNat := by
    omega
  have thresholdEq : (refreshMinAcceptableRate device).minAcceptableRate =
      computeRecommendedMinRate device := by
    rw [refreshMinAcceptableRate, if_pos auto]
  have recommended := computeRecommendedMinRate_toNat device positive
  constructor
  · intro neverLow
    by_contra slow
    rw [not_le] at slow
    set packets := nominalPackets device 30001 with packetsEq
    have atLeastTen : 10 ≤ packets := by
      rw [packetsEq, nominalPackets, Nat.le_div_iff_mul_le (by omega)]
      nlinarith
    have atMost : packets < 151 := by
      rw [packetsEq, nominalPackets, Nat.div_lt_iff_lt_mul (by omega)]
      nlinarith
    let clock : PerfClock := ⟨30001, 30001, 30001, 30001, 30001⟩
    let monitor : PerfMonitor :=
      ⟨0, true, packetCounter packets, 0, 0, 0, 0, computeRecommendedMinRate device, false, 0⟩
    have read : (30001 : UInt32) = 0 + UInt32.ofNat 30001 := by
      decide
    have checked : checkedRate clock monitor =
        some (packetRate (packetCounter packets) (UInt32.ofNat 30001)) := by
      simp [checkedRate, clock, monitor]
    have measured := packetRate_toNat packets 30001 (by decide)
    have reached := (neverLow 30001 30001 clock monitor _ 0 false atLeastTen le_rfl
      (by decide) (by omega) rfl thresholdEq.symm rfl read read checked).1
    rw [UInt32.le_iff_toNat_le, measured, Nat.mod_eq_of_lt (by omega)] at reached
    have floor : 5 ≤ (computeRecommendedMinRate device).toNat := by
      rw [recommended]
      exact le_max_left _ _
    have atLeastFive := floor.trans reached
    omega
  · intro fast gate elapsed clock monitor currentRate freeHeap resumed _ inOrder bounded
      fits counter threshold zero gateRead runtimeRead checked
    have evaluated : 30000 < elapsed := by
      have gated := checkedRate_gate checked
      rw [gateRead, elapsed_since, UInt32.lt_iff_toNat_lt,
        UInt32.toNat_ofNat_of_lt' (Nat.lt_of_le_of_lt inOrder bounded)] at gated
      exact Nat.lt_of_lt_of_le gated inOrder
    have currentEq : currentRate.toNat = 1000 * nominalPackets device elapsed / elapsed := by
      rw [checkedRate_eq counter runtimeRead checked, packetRate_toNat _ _ bounded,
        Nat.mod_eq_of_lt fits]
    have reaches : monitor.minAcceptableRate ≤ currentRate := by
      rw [threshold, thresholdEq, UInt32.le_iff_toNat_le, currentEq, recommended,
        Nat.le_div_iff_mul_le (by omega)]
      rcases Nat.lt_or_ge 5 ((device.currentSampleRate.toNat +
          device.currentBufferSize.toNat) / (2 * device.currentBufferSize.toNat)) with six | five
      · rw [max_eq_right (by omega)]
        exact half_reached positive six evaluated
      · rw [max_eq_left five]
        exact five_reached positive fast evaluated
    refine ⟨reaches, consecutiveLowCount_of_checkedRate checked ?_ freeHeap resumed⟩
    exact UInt32.not_lt.mpr reaches

/-- The slowest accepted stream sends 29 packets in thirty seconds, which is
measured as zero a second and counted as low. -/
theorem slowest_stream_counted_low :
    ¬ NominalNeverLow
      { Device.powerOn AudioPrefs.empty with
        currentSampleRate := 8000
        currentBufferSize := 8192 } := by
  intro neverLow
  have cleared := (neverLow 30001 30001 ⟨30001, 30001, 30001, 30001, 30001⟩
    ⟨0, true, 29, 0, 0, 0, 0, 5, false, 0⟩ 0 0 false (by decide) le_rfl (by decide)
    (by decide) (by decide) (by decide +kernel) rfl (by decide) (by decide) (by decide)).2
  exact absurd cleared (by decide)

/-- The default stream has 15.625 packets a second. -/
theorem default_stream_never_low : NominalNeverLow (Device.powerOn AudioPrefs.empty) :=
  (nominalNeverLow_iff (Device.powerOn AudioPrefs.empty) rfl
    ⟨by decide, by decide⟩ ⟨by decide, by decide⟩).mpr (by decide)

end EchoMic
