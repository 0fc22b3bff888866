import EchoMic.ThermalLatch

/-!
# Settings that survive a reboot

What a boot reads from the flash, compared with the variables of the running
device.  Every operation that changes a saved variable writes the flash, so
in every reachable state the next boot finds what the device has.
-/

namespace EchoMic

open GuardedRuns

/-- The variables that a reboot keeps.  In automatic mode the threshold is
computed and not kept. -/
structure SavedSettings where
  currentSampleRate : UInt32
  currentGainFactor : Rat
  currentBufferSize : UInt16
  autoRecoveryEnabled : Bool
  scheduledResetEnabled : Bool
  resetIntervalHours : UInt32
  performanceCheckInterval : UInt32
  autoThresholdEnabled : Bool
  manualMinAcceptableRate : Option UInt32
  cpuFrequencyMhz : UInt8
  wifiTxPowerDbm : Rat
  highpassEnabled : Bool
  highpassCutoffHz : UInt16
  agcEnabled : Bool
  ledMode : UInt8
  overheatProtectionEnabled : Bool
  overheatShutdownC : Rat
  overheatLatched : Bool
  overheatTripTemp : Rat
  overheatLastReason : String
  overheatLastTimestamp : String
  deriving DecidableEq

def Device.saved (device : Device) : SavedSettings where
  currentSampleRate := device.currentSampleRate
  currentGainFactor := device.currentGainFactor
  currentBufferSize := device.currentBufferSize
  autoRecoveryEnabled := device.autoRecoveryEnabled
  scheduledResetEnabled := device.scheduledResetEnabled
  resetIntervalHours := device.resetIntervalHours
  performanceCheckInterval := device.performanceCheckInterval
  autoThresholdEnabled := device.autoThresholdEnabled
  manualMinAcceptableRate :=
    if device.autoThresholdEnabled then none else some device.minAcceptableRate
  cpuFrequencyMhz := device.cpuFrequencyMhz
  wifiTxPowerDbm := device.wifiTxPowerDbm
  highpassEnabled := device.highpassEnabled
  highpassCutoffHz := device.highpassCutoffHz
  agcEnabled := device.agcEnabled
  ledMode := device.ledMode
  overheatProtectionEnabled := device.overheatProtectionEnabled
  overheatShutdownC := device.overheatShutdownC
  overheatLatched := device.overheatLatched
  overheatTripTemp := device.overheatTripTemp
  overheatLastReason := device.overheatLastReason
  overheatLastTimestamp := device.overheatLastTimestamp

/-- A boot with the flash of `device` finds what `device` has. -/
def SurvivesReboot (device : Device) : Prop :=
  ∀ booting : Device, booting.flash = device.flash →
    (loadAudioSettings booting).saved = device.saved

/-! ## Loading and saving -/

/-- What the flash is read as. -/
def AudioPrefs.saved (prefs : AudioPrefs) : SavedSettings :=
  (readAudioPrefs (Device.powerOn prefs)).saved

theorem saved_refreshMinAcceptableRate (device : Device) :
    (refreshMinAcceptableRate device).saved = device.saved := by
  unfold refreshMinAcceptableRate
  split
  · rename_i auto
    simp only [Device.saved, auto]
    rfl
  · rfl

theorem saved_loadAudioSettings (device : Device) :
    (loadAudioSettings device).saved = device.flash.saved := by
  have read : (readAudioPrefs device).saved = device.flash.saved := rfl
  rw [← read, ← saved_refreshMinAcceptableRate (readAudioPrefs device)]
  unfold loadAudioSettings
  simp only
  split <;> rfl

/-- The flash holds the variables of the device. -/
def KeptInFlash (device : Device) : Prop :=
  device.flash.saved = device.saved

theorem KeptInFlash.survivesReboot {device : Device} (kept : KeptInFlash device) :
    SurvivesReboot device := by
  intro booting sameFlash
  rw [saved_loadAudioSettings, sameFlash]
  exact kept

theorem keptInFlash_loadAudioSettings (device : Device) :
    KeptInFlash (loadAudioSettings device) := by
  obtain ⟨-, -, -, sameFlash⟩ := loadAudioSettings_spec device
  rw [KeptInFlash, saved_loadAudioSettings, sameFlash]

/-! ## The overheat limit -/

theorem clampOverheatLimit_bounds (ohLimit : UInt32) :
    30 ≤ (clampOverheatLimit ohLimit).toNat ∧ (clampOverheatLimit ohLimit).toNat ≤ 95 := by
  have smallest : overheatMinLimitC.toNat = 30 := rfl
  have largest : overheatMaxLimitC.toNat = 95 := rfl
  unfold clampOverheatLimit
  by_cases below : ohLimit < overheatMinLimitC
  · simp only [if_pos below]
    exact ⟨by decide, by decide⟩
  · simp only [if_neg below]
    by_cases above : ohLimit > overheatMaxLimitC
    · rw [if_pos above]
      exact ⟨by decide, by decide⟩
    · rw [if_neg above]
      rw [gt_iff_lt, UInt32.lt_iff_toNat_lt] at above
      rw [UInt32.lt_iff_toNat_lt] at below
      omega

theorem clampOverheatLimit_of_bounds {ohLimit : UInt32} (low : 30 ≤ ohLimit.toNat)
    (high : ohLimit.toNat ≤ 95) : clampOverheatLimit ohLimit = ohLimit := by
  have notBelow : ¬ ohLimit < overheatMinLimitC := by
    rw [UInt32.lt_iff_toNat_lt]
    exact Nat.not_lt.mpr low
  have notAbove : ¬ ohLimit > overheatMaxLimitC := by
    rw [gt_iff_lt, UInt32.lt_iff_toNat_lt]
    exact Nat.not_lt.mpr high
  simp only [clampOverheatLimit, if_neg notBelow, if_neg notAbove]

theorem snapOverheatLimit_toNat {ohLimit : UInt32} (low : 30 ≤ ohLimit.toNat)
    (high : ohLimit.toNat ≤ 95) :
    (snapOverheatLimit ohLimit).toNat = 30 + (ohLimit.toNat - 30) / 5 * 5 := by
  have above : overheatMinLimitC ≤ ohLimit := by
    rw [UInt32.le_iff_toNat_le]
    exact low
  simp only [snapOverheatLimit, UInt32.toNat_add, UInt32.toNat_mul, UInt32.toNat_div,
    UInt32.toNat_sub_of_le _ _ above]
  simp only [overheatMinLimitC, overheatLimitStepC, UInt32.reduceToNat]
  omega

/-- The limits that `/api/set` and the boot give. -/
def snappedLimit (ohLimit : UInt32) : UInt32 :=
  snapOverheatLimit (clampOverheatLimit ohLimit)

theorem snappedLimit_bounds (ohLimit : UInt32) :
    30 ≤ (snappedLimit ohLimit).toNat ∧ (snappedLimit ohLimit).toNat ≤ 95 ∧
      (snappedLimit ohLimit).toNat % 5 = 0 := by
  obtain ⟨low, high⟩ := clampOverheatLimit_bounds ohLimit
  have snapped := snapOverheatLimit_toNat low high
  rw [snappedLimit, snapped]
  omega

theorem snappedLimit_idem (ohLimit : UInt32) :
    snappedLimit (snappedLimit ohLimit) = snappedLimit ohLimit := by
  obtain ⟨low, high, step⟩ := snappedLimit_bounds ohLimit
  generalize snappedLimit ohLimit = limit at low high step ⊢
  apply UInt32.toNat.inj
  rw [snappedLimit, clampOverheatLimit_of_bounds low high, snapOverheatLimit_toNat low high]
  omega

/-- A limit that is saved is a whole number, so rounding gives it back. -/
theorem round_natCast (limit : UInt32) :
    UInt32.ofNat ((limit.toNat : Rat) + 1 / 2).floor.toNat = limit := by
  have half : (1 / 2 : Rat).floor = 0 := by
    decide +kernel
  have whole : ((limit.toNat : Rat) + 1 / 2).floor = limit.toNat := by
    have split := @Rat.floor_add_intCast (1 / 2) (limit.toNat : Int)
    rw [half, Int.zero_add] at split
    rw [Rat.add_comm]
    exact split
  rw [whole, Int.toNat_natCast, UInt32.ofNat_toNat]

/-! ## Operations -/

/-- The saved variables that the loader would change are already as it
leaves them. -/
structure AsLoaded (device : Device) : Prop where
  limit : ∃ ohLimit, device.overheatShutdownC = (snappedLimit ohLimit).toNat
  ledMode : device.ledMode ≤ 2

theorem KeptInFlash.asLoaded {device : Device} (kept : KeptInFlash device) :
    AsLoaded device where
  limit := ⟨_, (congrArg SavedSettings.overheatShutdownC kept).symm⟩
  ledMode := by
    have sameMode := congrArg SavedSettings.ledMode kept
    change (if device.flash.ledMode.getD 1 > 2 then 1 else device.flash.ledMode.getD 1) =
      device.ledMode at sameMode
    rw [← sameMode]
    split
    · decide
    · exact UInt8.not_lt.mp ‹_›

/-- Saving writes all that a boot reads. -/
theorem keptInFlash_saveAudioSettings {device : Device} (asLoaded : AsLoaded device) :
    KeptInFlash (saveAudioSettings device) := by
  obtain ⟨⟨ohLimit, limit⟩, ledMode⟩ := asLoaded
  have sameLimit :
      ((snappedLimit (clampOverheatLimit (UInt32.ofNat
        (device.overheatShutdownC + 1 / 2).floor.toNat))).toNat : Rat) =
        device.overheatShutdownC := by
    obtain ⟨low, high, -⟩ := snappedLimit_bounds ohLimit
    rw [limit, round_natCast, clampOverheatLimit_of_bounds low high, snappedLimit_idem]
  have sameMode : (if device.ledMode > 2 then 1 else device.ledMode) = device.ledMode :=
    if_neg (UInt8.not_lt.mpr ledMode)
  have read : (saveAudioSettings device).flash.saved =
      { device.saved with
        highpassCutoffHz := device.highpassCutoffHz.toUInt32.toUInt16
        ledMode := if device.ledMode > 2 then 1 else device.ledMode
        overheatShutdownC :=
          (snappedLimit (clampOverheatLimit (UInt32.ofNat
            (device.overheatShutdownC + 1 / 2).floor.toNat))).toNat } := rfl
  rw [KeptInFlash, read, sameLimit, sameMode, UInt16.toUInt16_toUInt32]
  rfl

theorem AsLoaded.refresh {device : Device} (asLoaded : AsLoaded device) :
    AsLoaded (refreshMinAcceptableRate device) := by
  obtain ⟨_, refreshed⟩ := refreshMinAcceptableRate_eq device
  rw [refreshed]
  exact ⟨asLoaded.limit, asLoaded.ledMode⟩

/-- The partial writer covers the note and the latch. -/
theorem keptInFlash_persistOverheatNote {device changed : Device} (kept : KeptInFlash device)
    (sameFlash : changed.flash = device.flash)
    (sameRest : changed.saved =
      { device.saved with
        overheatLatched := changed.overheatLatched
        overheatTripTemp := changed.overheatTripTemp
        overheatLastReason := changed.overheatLastReason
        overheatLastTimestamp := changed.overheatLastTimestamp }) :
    KeptInFlash (persistOverheatNote changed) := by
  have read : (persistOverheatNote changed).flash.saved =
      { changed.flash.saved with
        overheatLatched := changed.overheatLatched
        overheatTripTemp := changed.overheatTripTemp
        overheatLastReason := changed.overheatLastReason
        overheatLastTimestamp := changed.overheatLastTimestamp } := rfl
  rw [KeptInFlash, read, sameFlash, kept, ← sameRest]
  rfl

section Operations

variable {device : Device} (kept : KeptInFlash device)

include kept

theorem KeptInFlash.restartI2S (clientConnected : Bool) :
    KeptInFlash (restartI2S clientConnected device) := by
  rw [restartI2S_eq]
  exact kept

theorem keptInFlash_applySetting (toFloat : String → Option Rat) (clientConnected : Bool)
    (value : Option String) (key : SettingKey) :
    KeptInFlash (applySetting toFloat clientConnected value key device) := by
  have asLoaded := kept.asLoaded
  cases key with
  | gain =>
      apply property_setFloat value toFloat kept
      intro v _ _
      apply KeptInFlash.restartI2S
      exact keptInFlash_saveAudioSettings ⟨asLoaded.limit, asLoaded.ledMode⟩
  | rate =>
      apply property_setUInt value kept
      intro v _ _
      have changed : AsLoaded { device with currentSampleRate := v } :=
        ⟨asLoaded.limit, asLoaded.ledMode⟩
      exact (keptInFlash_saveAudioSettings changed.refresh).restartI2S clientConnected
  | buffer =>
      apply property_setUShort value kept
      intro v _ _
      have changed : AsLoaded { device with currentBufferSize := v } :=
        ⟨asLoaded.limit, asLoaded.ledMode⟩
      exact (keptInFlash_saveAudioSettings changed.refresh).restartI2S clientConnected
  | wifi_tx =>
      apply property_setFloat value toFloat kept
      exact fun v _ _ => keptInFlash_saveAudioSettings ⟨asLoaded.limit, asLoaded.ledMode⟩
  | thr_mode =>
      simp only [applySetting]
      split
      · have changed : AsLoaded { device with autoThresholdEnabled := true } :=
          ⟨asLoaded.limit, asLoaded.ledMode⟩
        exact keptInFlash_saveAudioSettings changed.refresh
      · split
        · exact keptInFlash_saveAudioSettings ⟨asLoaded.limit, asLoaded.ledMode⟩
        · exact kept
  | min_rate | check_interval | reset_hours | cpu_freq | hp_cutoff =>
      apply property_setUInt value kept
      exact fun v _ _ => keptInFlash_saveAudioSettings ⟨asLoaded.limit, asLoaded.ledMode⟩
  | auto_recovery | sched_reset | hp_enable | agc_enable | oh_enable =>
      simp only [applySetting]
      apply property_setSwitch value kept
      exact fun v => keptInFlash_saveAudioSettings ⟨asLoaded.limit, asLoaded.ledMode⟩
  | led_mode =>
      apply property_setUInt value kept
      intro v _ inRange
      refine keptInFlash_saveAudioSettings ⟨asLoaded.limit, ?_⟩
      rw [UInt32.le_iff_toNat_le] at inRange
      rw [UInt8.le_iff_toNat_le]
      simp only [UInt32.toNat_toUInt8, UInt32.reduceToNat, UInt8.reduceToNat] at inRange ⊢
      omega
  | oh_limit =>
      apply property_setUInt value kept
      intro v low high
      rw [UInt32.le_iff_toNat_le] at low high
      refine keptInFlash_saveAudioSettings ⟨⟨v, ?_⟩, asLoaded.ledMode⟩
      rw [snappedLimit, clampOverheatLimit_of_bounds low high]

theorem keptInFlash_httpSet (toFloat : String → Option Rat) (clientConnected : Bool)
    (key : String) (value : Option String) :
    KeptInFlash (httpSet toFloat clientConnected key value device) := by
  unfold httpSet
  split
  · exact kept
  · exact keptInFlash_applySetting kept toFloat clientConnected value _

theorem keptInFlash_checkTemperature (reading : SensorReading) (millis : UInt32) :
    KeptInFlash (checkTemperature reading millis device) := by
  unfold checkTemperature
  cases reading.valid with
  | none =>
      simp only
      split
      · exact kept
      · exact keptInFlash_persistOverheatNote kept rfl rfl
  | some temp =>
      have restored : KeptInFlash
          (restoreSensor millis
            { device with
              lastTemperatureC := temp
              lastTemperatureValid := true }) := by
        unfold restoreSensor
        split
        · exact keptInFlash_persistOverheatNote kept rfl rfl
        · exact kept
      simp only [protectFrom]
      split
      · split
        · exact keptInFlash_persistOverheatNote restored rfl rfl
        · split <;> exact restored
      · exact restored

theorem keptInFlash_httpThermalClear : KeptInFlash (httpThermalClear device).1 := by
  have asLoaded := kept.asLoaded
  unfold httpThermalClear
  split
  · exact keptInFlash_saveAudioSettings ⟨asLoaded.limit, asLoaded.ledMode⟩
  · exact kept

theorem keptInFlash_httpActionServerStart :
    KeptInFlash (httpActionServerStart device).1 := by
  unfold httpActionServerStart
  split
  · exact kept
  · split <;> exact kept

theorem keptInFlash_loopPlay : KeptInFlash (loopPlay device) := by
  unfold loopPlay
  split <;> exact kept

end Operations

theorem keptInFlash_setup (flash : AudioPrefs) (reading : SensorReading) (bootTime : UInt32) :
    KeptInFlash (setup flash reading bootTime) := by
  have loaded := keptInFlash_loadAudioSettings
    { Device.powerOn flash with bootTime := bootTime }
  unfold setup setupTemperature
  cases reading.valid with
  | some temp => exact loaded
  | none => exact keptInFlash_persistOverheatNote loaded rfl rfl

/-! ## Every run -/

theorem keptInFlash_step {toFloat : String → Option Rat} {device next : Device}
    {event : DeviceEvent} (kept : KeptInFlash device)
    (stepped : deviceStep toFloat device event = some next) : KeptInFlash next := by
  cases event <;> cases stepped
  case checkTemperature reading millis => exact keptInFlash_checkTemperature kept reading millis
  case thermalClear => exact keptInFlash_httpThermalClear kept
  case serverStart => exact keptInFlash_httpActionServerStart kept
  case serverStop => exact kept
  case set key value clientConnected =>
    exact keptInFlash_httpSet kept toFloat clientConnected key value
  case play => exact keptInFlash_loopPlay kept
  case streamEnds => exact kept
  case restartI2S clientConnected => exact kept.restartI2S clientConnected
  case factoryReset reading bootTime => exact keptInFlash_setup _ reading bootTime
  case reboot reading bootTime => exact keptInFlash_setup _ reading bootTime

/-- In every state reachable from boot, the settings survive a reboot. -/
theorem survivesReboot_of_run (toFloat : String → Option Rat) (flash : AudioPrefs)
    (reading : SensorReading) (bootTime : UInt32) (events : List DeviceEvent) :
    ∃ device,
      run (deviceStep toFloat) (setup flash reading bootTime) events = some device ∧
        SurvivesReboot device := by
  obtain ⟨device, ran⟩ := run_isSome (deviceStep_isSome toFloat)
    (setup flash reading bootTime) events
  have kept : KeptInFlash device :=
    invariant_of_run (fun _ _ _ => keptInFlash_step) (keptInFlash_setup _ _ _) ran
  exact ⟨device, ran, kept.survivesReboot⟩

end EchoMic
