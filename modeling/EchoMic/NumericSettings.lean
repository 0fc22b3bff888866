import EchoMic.DecimalTexts
import EchoMic.FactoryReset
import EchoMic.WireGuardSettings

/-!
# Numeric settings

The ten keys of `/api/set` whose value is a whole number.  Their branches
read the text with `String::toInt`, narrow it to 16 or 32 bits and compare
the result with a range.  This file proves for which numbers the comparison
is that of the number itself.
-/

namespace EchoMic

/-- `httpSet` on the whole firmware. -/
def Firmware.httpSet (toFloat : String → Option Rat)
    (fromString : String → Option IPAddress) (clientConnected : Bool) (outside : WgOutside)
    (key : String) (value : Option String) (firmware : Firmware) : Firmware :=
  match wgRequest key value with
  | .call call => { firmware with wg := wgCall fromString outside firmware.wg call }
  | .invalidPort | .ignored => firmware
  | .otherKey =>
      { firmware with
        device := EchoMic.httpSet toFloat clientConnected key value firmware.device }

inductive NumericKey where
  | rate
  | buffer
  | min_rate
  | check_interval
  | reset_hours
  | cpu_freq
  | hp_cutoff
  | led_mode
  | oh_limit
  | wg_keepalive
  deriving DecidableEq

namespace NumericKey

def text : NumericKey → String
  | .rate => "rate"
  | .buffer => "buffer"
  | .min_rate => "min_rate"
  | .check_interval => "check_interval"
  | .reset_hours => "reset_hours"
  | .cpu_freq => "cpu_freq"
  | .hp_cutoff => "hp_cutoff"
  | .led_mode => "led_mode"
  | .oh_limit => "oh_limit"
  | .wg_keepalive => "wg_keepalive"

/-- The stated range, its limits included. -/
def range : NumericKey → Nat × Nat
  | .rate => (8000, 96000)
  | .buffer => (256, 8192)
  | .min_rate => (5, 200)
  | .check_interval => (1, 60)
  | .reset_hours => (1, 168)
  | .cpu_freq => (40, 240)
  | .hp_cutoff => (10, 10000)
  | .led_mode => (0, 2)
  | .oh_limit => (30, 95)
  | .wg_keepalive => (0, 65535)

def InRange (key : NumericKey) (v : Int) : Prop :=
  (key.range.1 : Int) ≤ v ∧ v ≤ key.range.2

instance (key : NumericKey) (v : Int) : Decidable (key.InRange v) :=
  inferInstanceAs (Decidable (_ ∧ _))

/-- The setting of a key. -/
def current : NumericKey → Firmware → Rat
  | .rate, firmware => firmware.device.currentSampleRate.toNat
  | .buffer, firmware => firmware.device.currentBufferSize.toNat
  | .min_rate, firmware => firmware.device.minAcceptableRate.toNat
  | .check_interval, firmware => firmware.device.performanceCheckInterval.toNat
  | .reset_hours, firmware => firmware.device.resetIntervalHours.toNat
  | .cpu_freq, firmware => firmware.device.cpuFrequencyMhz.toNat
  | .hp_cutoff, firmware => firmware.device.highpassCutoffHz.toNat
  | .led_mode, firmware => firmware.device.ledMode.toNat
  | .oh_limit, firmware => firmware.device.overheatShutdownC
  | .wg_keepalive, firmware => firmware.wg.config.keepalive.toNat

/-- The value that a request for `v` sets. -/
def stored (key : NumericKey) (v : Int) : Int :=
  if key = .oh_limit then 30 + (v - 30) / 5 * 5 else v

end NumericKey

/-- The device without its flash copy and its pipeline, which an accepted
request saves and may restart. -/
def Device.settings (device : Device) : Device :=
  { device with
    flash := AudioPrefs.empty
    isStreaming := false }

/-- The settings without a threshold that is computed. -/
def Device.withoutThreshold (device : Device) : Device :=
  { device.settings with
    minAcceptableRate :=
      if device.autoThresholdEnabled then 0 else device.minAcceptableRate }

/-- What a request for `key` must leave alone: all settings but its own, the
computed threshold and the lockout. -/
def NumericKey.others : NumericKey → Firmware → Device × WireGuardState
  | .rate, firmware =>
      ({ firmware.device.withoutThreshold with currentSampleRate := 0 }, firmware.wg)
  | .buffer, firmware =>
      ({ firmware.device.withoutThreshold with currentBufferSize := 0 }, firmware.wg)
  | .min_rate, firmware =>
      ({ firmware.device.settings with minAcceptableRate := 0 }, firmware.wg)
  | .check_interval, firmware =>
      ({ firmware.device.settings with performanceCheckInterval := 0 }, firmware.wg)
  | .reset_hours, firmware =>
      ({ firmware.device.settings with resetIntervalHours := 0 }, firmware.wg)
  | .cpu_freq, firmware =>
      ({ firmware.device.settings with cpuFrequencyMhz := 0 }, firmware.wg)
  | .hp_cutoff, firmware =>
      ({ firmware.device.settings with highpassCutoffHz := 0 }, firmware.wg)
  | .led_mode, firmware => ({ firmware.device.settings with ledMode := 0 }, firmware.wg)
  | .oh_limit, firmware =>
      ({ firmware.device.settings with
        overheatShutdownC := 0
        overheatLockoutActive := false }, firmware.wg)
  | .wg_keepalive, firmware =>
      (firmware.device,
        { WireGuardState.powerOn WgPrefs.empty with
          config := { firmware.wg.config with keepalive := 0 } })

/-- A request for `v` is accepted exactly in the range of its key.  Then it
sets its own setting, and nothing else but what follows from it; otherwise it
changes nothing at all. -/
def AcceptedExactly (key : NumericKey) (v : Int) : Prop :=
  ∀ (toFloat : String → Option Rat) (fromString : String → Option IPAddress)
      (clientConnected : Bool) (outside : WgOutside) (firmware : Firmware),
    let next := firmware.httpSet toFloat fromString clientConnected outside key.text
      (some (toString v))
    if key.InRange v then
      key.current next = key.stored v ∧ key.others next = key.others firmware
    else next = firmware

/-- Sixteen bits of a number outside the range lie inside it. -/
def WrapsIntoRange (key : NumericKey) (v : Int) : Prop :=
  ¬ key.InRange v ∧ key.InRange (v % 2 ^ 16)

instance (key : NumericKey) (v : Int) : Decidable (WrapsIntoRange key v) :=
  inferInstanceAs (Decidable (_ ∧ _))

/-! ## Reading the number -/

section Reading

variable {v : Int} (low : -2 ^ 31 ≤ v) (high : v < 2 ^ 31)

include low high

theorem argToUInt_toString : argToUInt (some (toString v)) = some (UInt32.ofInt v) := by
  rw [argToUInt, Option.map_some, toInt_toString low high]

theorem argToUShort_toString : argToUShort (some (toString v)) = some (UInt16.ofInt v) := by
  rw [argToUShort, Option.map_some, toInt_toString low high]

/-- A comparison in 32 bits is one of the numbers, as the negative ones end
up above every limit. -/
theorem ofInt_inRange_iff {lowest highest : UInt32} (limit : highest.toNat < 2 ^ 31) :
    (UInt32.ofInt v ≥ lowest ∧ UInt32.ofInt v ≤ highest) ↔
      (lowest.toNat : Int) ≤ v ∧ v ≤ highest.toNat := by
  rw [ge_iff_le, UInt32.le_iff_toNat_le, UInt32.le_iff_toNat_le, UInt32.ofInt,
    UInt32.toNat_ofNat']
  omega

omit low in
theorem toNat_ofInt (nonnegative : 0 ≤ v) : ((UInt32.ofInt v).toNat : Int) = v := by
  rw [UInt32.ofInt, UInt32.toNat_ofNat']
  omega

omit low high in
theorem toNat_ofInt_short : ((UInt16.ofInt v).toNat : Int) = v % 2 ^ 16 := by
  rw [UInt16.ofInt, UInt16.toNat_ofNat']
  omega

/-- A key whose number is compared in 32 bits is accepted exactly in its
range, when the assignment of its branch sets the number and no more. -/
theorem acceptedExactly_of_setUInt {key : NumericKey} {lowest highest : UInt32}
    (limits : key.range = (lowest.toNat, highest.toNat)) (limit : highest.toNat < 2 ^ 31)
    (assign : Bool → UInt32 → Device → Device)
    (branch : ∀ toFloat fromString clientConnected outside value firmware,
      Firmware.httpSet toFloat fromString clientConnected outside key.text value firmware =
        { firmware with
          device := setUInt value lowest highest (assign clientConnected) firmware.device })
    (assigned : ∀ clientConnected w firmware, key.InRange w.toNat →
      let next : Firmware :=
        { firmware with device := assign clientConnected w firmware.device }
      key.current next = key.stored w.toNat ∧ key.others next = key.others firmware) :
    AcceptedExactly key v := by
  intro toFloat fromString clientConnected outside firmware
  have inRange := @ofInt_inRange_iff v low high lowest highest limit
  have same : key.InRange v ↔ (lowest.toNat : Int) ≤ v ∧ v ≤ highest.toNat := by
    rw [NumericKey.InRange, limits]
  rw [branch]
  simp only [setUInt, argToUInt_toString low high]
  by_cases accepted : key.InRange v
  · have nonnegative : 0 ≤ v := by
      have atLeast := accepted.1
      omega
    have number := toNat_ofInt high nonnegative
    rw [if_pos (inRange.mpr (same.mp accepted)), if_pos accepted]
    have set := assigned clientConnected (UInt32.ofInt v) firmware
    rw [number] at set
    exact set accepted
  · rw [if_neg (fun inside => accepted (same.mpr (inRange.mp inside))), if_neg accepted]

end Reading

/-! ## The keys of the device -/

theorem withoutThreshold_refresh (device : Device) :
    (refreshMinAcceptableRate device).withoutThreshold = device.withoutThreshold := by
  unfold refreshMinAcceptableRate
  split
  · rename_i auto
    simp [Device.withoutThreshold, Device.settings, auto]
  · rfl

theorem withoutThreshold_saveAudioSettings (device : Device) :
    (saveAudioSettings device).withoutThreshold = device.withoutThreshold :=
  rfl

theorem withoutThreshold_restartI2S (clientConnected : Bool) (device : Device) :
    (restartI2S clientConnected device).withoutThreshold = device.withoutThreshold := by
  rw [restartI2S_eq]
  rfl

/-- A changed rate is followed by the threshold, saved, and applied to the
pipeline. -/
theorem withoutThreshold_applied (clientConnected : Bool) (device : Device) :
    (restartI2S clientConnected
      (saveAudioSettings (refreshMinAcceptableRate device))).withoutThreshold =
        device.withoutThreshold := by
  rw [withoutThreshold_restartI2S, withoutThreshold_saveAudioSettings,
    withoutThreshold_refresh]

theorem currentSampleRate_applied (clientConnected : Bool) (device : Device) :
    (restartI2S clientConnected
      (saveAudioSettings (refreshMinAcceptableRate device))).currentSampleRate =
        device.currentSampleRate := by
  obtain ⟨_, refreshed⟩ := refreshMinAcceptableRate_eq device
  rw [restartI2S_eq, refreshed]
  rfl

theorem currentBufferSize_applied (clientConnected : Bool) (device : Device) :
    (restartI2S clientConnected
      (saveAudioSettings (refreshMinAcceptableRate device))).currentBufferSize =
        device.currentBufferSize := by
  obtain ⟨_, refreshed⟩ := refreshMinAcceptableRate_eq device
  rw [restartI2S_eq, refreshed]
  rfl

section Keys

variable {v : Int} (low : -2 ^ 31 ≤ v) (high : v < 2 ^ 31)

include low high

theorem acceptedExactly_rate : AcceptedExactly .rate v := by
  refine acceptedExactly_of_setUInt low high rfl (by decide) (fun clientConnected w device =>
    restartI2S clientConnected (saveAudioSettings
      (refreshMinAcceptableRate { device with currentSampleRate := w })))
    (fun _ _ _ _ _ _ => rfl) ?_
  intro clientConnected w firmware _
  constructor
  · exact congrArg (fun rate : UInt32 => (rate.toNat : Rat))
      (currentSampleRate_applied clientConnected
        { firmware.device with currentSampleRate := w })
  · simp only [NumericKey.others, withoutThreshold_applied]
    rfl

/-- The keys that assign the number as it is. -/
theorem acceptedExactly_assign {key : NumericKey}
    (plain : key = .min_rate ∨ key = .check_interval ∨ key = .reset_hours) :
    AcceptedExactly key v := by
  rcases plain with rfl | rfl | rfl
  · exact acceptedExactly_of_setUInt low high rfl (by decide) (fun _ w device =>
      saveAudioSettings { device with minAcceptableRate := w })
      (fun _ _ _ _ _ _ => rfl) fun _ _ _ _ => ⟨rfl, rfl⟩
  · exact acceptedExactly_of_setUInt low high rfl (by decide) (fun _ w device =>
      saveAudioSettings { device with performanceCheckInterval := w })
      (fun _ _ _ _ _ _ => rfl) fun _ _ _ _ => ⟨rfl, rfl⟩
  · exact acceptedExactly_of_setUInt low high rfl (by decide) (fun _ w device =>
      saveAudioSettings { device with resetIntervalHours := w })
      (fun _ _ _ _ _ _ => rfl) fun _ _ _ _ => ⟨rfl, rfl⟩

/-- The keys that narrow a number which has passed its 32-bit comparison. -/
theorem acceptedExactly_narrow {key : NumericKey}
    (narrow : key = .cpu_freq ∨ key = .hp_cutoff ∨ key = .led_mode) :
    AcceptedExactly key v := by
  rcases narrow with rfl | rfl | rfl
  · refine acceptedExactly_of_setUInt low high rfl (by decide) (fun _ w device =>
      saveAudioSettings { device with cpuFrequencyMhz := w.toUInt8 })
      (fun _ _ _ _ _ _ => rfl) fun _ w firmware inRange => ⟨?_, rfl⟩
    have fits : w.toNat % 2 ^ 8 = w.toNat := by
      have small : (w.toNat : Int) ≤ 240 := inRange.2
      omega
    exact congrArg Nat.cast ((UInt32.toNat_toUInt8 w).trans fits)
  · refine acceptedExactly_of_setUInt low high rfl (by decide) (fun _ w device =>
      saveAudioSettings { device with highpassCutoffHz := w.toUInt16 })
      (fun _ _ _ _ _ _ => rfl) fun _ w firmware inRange => ⟨?_, rfl⟩
    have fits : w.toNat % 2 ^ 16 = w.toNat := by
      have small : (w.toNat : Int) ≤ 10000 := inRange.2
      omega
    exact congrArg Nat.cast ((UInt32.toNat_toUInt16 w).trans fits)
  · refine acceptedExactly_of_setUInt low high rfl (by decide) (fun _ w device =>
      saveAudioSettings { device with ledMode := w.toUInt8 })
      (fun _ _ _ _ _ _ => rfl) fun _ w firmware inRange => ⟨?_, rfl⟩
    have fits : w.toNat % 2 ^ 8 = w.toNat := by
      have small : (w.toNat : Int) ≤ 2 := inRange.2
      omega
    exact congrArg Nat.cast ((UInt32.toNat_toUInt8 w).trans fits)

theorem acceptedExactly_oh_limit : AcceptedExactly .oh_limit v := by
  refine acceptedExactly_of_setUInt low high rfl (by decide) (fun _ w device =>
    saveAudioSettings
      { device with
        overheatShutdownC := (snapOverheatLimit w).toNat
        overheatLockoutActive := false })
    (fun _ _ _ _ _ _ => rfl) fun _ w firmware inRange => ⟨?_, rfl⟩
  have atLeast : (30 : Int) ≤ w.toNat := inRange.1
  have atMost : (w.toNat : Int) ≤ 95 := inRange.2
  have snapped := @snapOverheatLimit_toNat w (by omega) (by omega)
  have whole : ((snapOverheatLimit w).toNat : Int) = NumericKey.stored .oh_limit w.toNat := by
    rw [snapped, NumericKey.stored, if_pos rfl]
    omega
  rw [← whole]
  rfl

/-! ## The keepalive -/

theorem acceptedExactly_wg_keepalive : AcceptedExactly .wg_keepalive v := by
  intro toFloat fromString clientConnected outside firmware
  have inRange := @ofInt_inRange_iff v low high 0 65535 (by decide)
  have request : wgRequest "wg_keepalive" (some (toString v)) =
      if UInt32.ofInt v ≤ 65535 then .call (.setKeepalive (UInt32.ofInt v).toUInt16)
      else .ignored := by
    simp only [wgRequest, wgKeepaliveRequest, argToUInt_toString low high]
  simp only [Firmware.httpSet, NumericKey.text, request]
  by_cases accepted : NumericKey.InRange .wg_keepalive v
  · obtain ⟨-, small⟩ := inRange.mpr accepted
    have number := toNat_ofInt high accepted.1
    have fits : (UInt32.ofInt v).toNat % 2 ^ 16 = (UInt32.ofInt v).toNat := by
      have atMost : v ≤ 65535 := accepted.2
      omega
    obtain ⟨changed, -⟩ := changeConfig_spec "keepalive changed"
      { firmware.wg.config with keepalive := (UInt32.ofInt v).toUInt16 } outside firmware.wg
    have set : (wgCall fromString outside firmware.wg
        (.setKeepalive (UInt32.ofInt v).toUInt16)).config =
          { firmware.wg.config with keepalive := (UInt32.ofInt v).toUInt16 } := changed
    rw [if_pos accepted, if_pos small]
    constructor
    · simp only [NumericKey.current, set, UInt32.toNat_toUInt16, fits, NumericKey.stored]
      exact_mod_cast number
    · simp only [NumericKey.others, set]
  · have large : ¬ UInt32.ofInt v ≤ 65535 := fun small =>
      accepted (inRange.mp ⟨UInt32.zero_le, small⟩)
    rw [if_neg accepted, if_neg large]

/-! ## The buffer size -/

/-- The comparison of `buffer` is made with sixteen bits of the number. -/
theorem httpSet_buffer (toFloat : String → Option Rat)
    (fromString : String → Option IPAddress) (clientConnected : Bool) (outside : WgOutside)
    (firmware : Firmware) :
    firmware.httpSet toFloat fromString clientConnected outside "buffer" (some (toString v)) =
      if NumericKey.InRange .buffer (v % 2 ^ 16) then
        { firmware with
          device :=
            restartI2S clientConnected (saveAudioSettings (refreshMinAcceptableRate
              { firmware.device with currentBufferSize := UInt16.ofInt v })) }
      else firmware := by
  have compared : (UInt16.ofInt v ≥ 256 ∧ UInt16.ofInt v ≤ 8192) ↔
      NumericKey.InRange .buffer (v % 2 ^ 16) := by
    rw [ge_iff_le, UInt16.le_iff_toNat_le, UInt16.le_iff_toNat_le,
      ← toNat_ofInt_short]
    simp only [NumericKey.InRange, NumericKey.range, UInt16.reduceToNat]
    omega
  have branch : firmware.httpSet toFloat fromString clientConnected outside "buffer"
      (some (toString v)) =
        { firmware with
          device := setUShort (some (toString v)) 256 8192 (fun w device =>
            restartI2S clientConnected (saveAudioSettings
              (refreshMinAcceptableRate { device with currentBufferSize := w })))
            firmware.device } := rfl
  rw [branch]
  simp only [setUShort, argToUShort_toString low high, compared]
  split <;> rfl

theorem acceptedExactly_buffer_iff :
    AcceptedExactly .buffer v ↔ ¬ WrapsIntoRange .buffer v := by
  constructor
  · rintro accepted ⟨outside, inside⟩
    -- A request that is refused must leave a buffer size of zero.
    let firmware : Firmware :=
      { Firmware.powerOn AudioPrefs.empty WgPrefs.empty with
        device := { Device.powerOn AudioPrefs.empty with currentBufferSize := 0 } }
    have refused := accepted (fun _ => none) (fun _ => none) false
      (WgOutside.working 0 DnsUpdate.idle) firmware
    simp only [if_neg outside, NumericKey.text, httpSet_buffer low high, if_pos inside]
      at refused
    have zero := congrArg (fun firmware => firmware.device.currentBufferSize.toNat) refused
    simp only [currentBufferSize_applied] at zero
    have number := @toNat_ofInt_short v
    have atLeast : (256 : Int) ≤ v % 2 ^ 16 := inside.1
    have none : (UInt16.ofInt v).toNat = 0 := zero
    omega
  · intro noWrap toFloat fromString clientConnected outside firmware
    simp only [NumericKey.text, httpSet_buffer low high]
    by_cases accepted : NumericKey.InRange .buffer v
    · have bounds : (256 : Int) ≤ v ∧ v ≤ 8192 := accepted
      have same : v % 2 ^ 16 = v := by
        omega
      have number : ((UInt16.ofInt v).toNat : Int) = v := toNat_ofInt_short.trans same
      rw [same, if_pos accepted, if_pos accepted]
      constructor
      · simp only [NumericKey.current, currentBufferSize_applied, NumericKey.stored]
        exact_mod_cast number
      · simp only [NumericKey.others, withoutThreshold_applied]
        rfl
    · have refused : ¬ NumericKey.InRange .buffer (v % 2 ^ 16) := fun inside =>
        noWrap ⟨accepted, inside⟩
      rw [if_neg accepted, if_neg refused]

/-- Every key but `buffer` is accepted exactly in its range, and `buffer` but
for numbers that wrap into it. -/
theorem acceptedExactly_iff (key : NumericKey) :
    AcceptedExactly key v ↔ ¬ (key = .buffer ∧ WrapsIntoRange key v) := by
  have always {key : NumericKey} (accepted : AcceptedExactly key v) (other : key ≠ .buffer) :
      AcceptedExactly key v ↔ ¬ (key = .buffer ∧ WrapsIntoRange key v) :=
    iff_of_true accepted fun wraps => other wraps.1
  cases key with
  | rate => exact always (acceptedExactly_rate low high) (by decide)
  | buffer => simpa using acceptedExactly_buffer_iff low high
  | min_rate => exact always (acceptedExactly_assign low high (by decide)) (by decide)
  | check_interval => exact always (acceptedExactly_assign low high (by decide)) (by decide)
  | reset_hours => exact always (acceptedExactly_assign low high (by decide)) (by decide)
  | cpu_freq => exact always (acceptedExactly_narrow low high (by decide)) (by decide)
  | hp_cutoff => exact always (acceptedExactly_narrow low high (by decide)) (by decide)
  | led_mode => exact always (acceptedExactly_narrow low high (by decide)) (by decide)
  | oh_limit => exact always (acceptedExactly_oh_limit low high) (by decide)
  | wg_keepalive => exact always (acceptedExactly_wg_keepalive low high) (by decide)

end Keys

/-- 66560 is 65536 and 1024, and is accepted as 1024. -/
theorem buffer_accepts_wrapped_number : ¬ AcceptedExactly .buffer 66560 := by
  intro accepted
  have refused := accepted (fun _ => none) (fun _ => none) false
    (WgOutside.working 0 DnsUpdate.idle)
    { Firmware.powerOn AudioPrefs.empty WgPrefs.empty with
      device := { Device.powerOn AudioPrefs.empty with currentBufferSize := 512 } }
  have wraps : NumericKey.InRange .buffer (66560 % 2 ^ 16) := by decide
  have set := @httpSet_buffer 66560 (by decide) (by decide)
  rw [if_neg (by decide), NumericKey.text, set, if_pos wraps] at refused
  have same := congrArg (fun firmware => firmware.device.currentBufferSize) refused
  simp only [currentBufferSize_applied] at same
  exact absurd same (by decide)

/-- The largest sixteen-bit number is refused as it should be. -/
theorem buffer_refuses_large_number : AcceptedExactly .buffer 65535 :=
  (acceptedExactly_iff (by decide) (by decide) .buffer).mpr (by decide)

end EchoMic
