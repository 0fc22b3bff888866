import EchoMic.DeviceSettings
import EchoMic.GuardedRuns

/-!
# Thermal protection and its latch

The temperature monitor, the web handlers and the boot code that share the
lockout flag, the latch, the server flag and the flash copy of the latch.
Every operation is one step of Core 0.  This file proves that the flags stay
consistent in every reachable state and that a trip holds until it is
acknowledged.
-/

namespace EchoMic

open GuardedRuns

inductive SensorReading where
  | nan
  | infinite
  | celsius (temp : Rat)
  deriving DecidableEq

/-- The temperature of a valid reading. -/
def SensorReading.valid : SensorReading → Option Rat
  | .nan => none
  | .infinite => none
  | .celsius temp => if temp < -20 ∨ temp > 130 then none else some temp

def formatUptime (seconds : Nat) : String :=
  let days := seconds / 86400
  let hours := seconds % 86400 / 3600
  let minutes := seconds % 86400 % 3600 / 60
  (if days > 0 then toString days ++ "d " else "") ++
    (if hours > 0 ∨ days > 0 then toString hours ++ "h " else "") ++
    (if minutes > 0 ∨ hours > 0 ∨ days > 0 then toString minutes ++ "m " else "") ++
    toString (seconds % 86400 % 3600 % 60) ++ "s"

/-- `String(value, 1)`. -/
def oneDecimal (value : Rat) : String :=
  let tenths := (value.abs * 10 + 1 / 2).floor.toNat
  (if value < 0 then "-" else "") ++ toString (tenths / 10) ++ "." ++
    toString (tenths % 10)

/-- Seconds since boot, in 32-bit milliseconds. -/
def uptimeSeconds (device : Device) (millis : UInt32) : Nat :=
  ((millis - device.bootTime) / 1000).toNat

def persistOverheatNote (device : Device) : Device :=
  { device with
    flash :=
      { device.flash with
        ohReason := some device.overheatLastReason
        ohStamp := some device.overheatLastTimestamp
        ohTripC := some device.overheatTripTemp
        ohLatched := some device.overheatLatched } }

def recordOverheatTrip (temp : Rat) (millis : UInt32) (device : Device) : Device :=
  persistOverheatNote
    { device with
      overheatTripTemp := temp
      overheatTriggeredAt := millis
      overheatLastTimestamp := formatUptime (uptimeSeconds device millis)
      overheatLastReason :=
        "Thermal shutdown: " ++ oneDecimal temp ++ " C reached (limit " ++
          oneDecimal device.overheatShutdownC ++
          " C). Stream disabled; acknowledge in UI."
      overheatLatched := true }

/-- The note of a sensor that stops answering. -/
def recordSensorFault (reason : String) (device : Device) : Device :=
  persistOverheatNote
    { device with
      overheatSensorFault := true
      overheatLastReason := reason
      overheatLastTimestamp := ""
      overheatTripTemp := 0
      overheatTriggeredAt := 0 }

def sensorUnavailable : String :=
  "Thermal protection disabled: temperature sensor unavailable."

/-- The sensor answers again. -/
def restoreSensor (millis : UInt32) (device : Device) : Device :=
  if device.overheatSensorFault then
    persistOverheatNote
      { device with
        overheatSensorFault := false
        overheatLastReason := "Thermal protection restored: temperature sensor reading valid."
        overheatLastTimestamp := formatUptime (uptimeSeconds device millis) }
  else device

/-- `requestStreamStop`, `stopAudioCaptureTask` and the end of the server. -/
def shutDownStreaming (device : Device) : Device :=
  { device with
    isStreaming := false
    rtspServerEnabled := false }

/-- Trip, re-arm or stand down with a valid temperature. -/
def protectFrom (temp : Rat) (millis : UInt32) (device : Device) : Device :=
  if device.overheatProtectionEnabled && !device.overheatSensorFault then
    if device.overheatLockoutActive = false ∧ temp ≥ device.overheatShutdownC then
      shutDownStreaming
        (recordOverheatTrip temp millis { device with overheatLockoutActive := true })
    else if device.overheatLockoutActive = true ∧
        temp ≤ device.overheatShutdownC - overheatLimitStepC.toNat then
      { device with overheatLockoutActive := false }
    else device
  else { device with overheatLockoutActive := false }

def checkTemperature (reading : SensorReading) (millis : UInt32) (device : Device) :
    Device :=
  match reading.valid with
  | none =>
      let device := { device with lastTemperatureValid := false }
      if device.overheatSensorFault then device
      else recordSensorFault sensorUnavailable device
  | some temp =>
      let device :=
        restoreSensor millis
          { device with
            lastTemperatureC := temp
            lastTemperatureValid := true }
      let device :=
        { device with
          maxTemperature :=
            if temp > device.maxTemperature then temp else device.maxTemperature }
      protectFrom temp millis device

/-- The replies of the handlers. -/
inductive ApiReply where
  | ok
  | rejected
  | thermalLatched
  deriving DecidableEq

def httpThermalClear (device : Device) : Device × ApiReply :=
  if device.overheatLatched then
    (saveAudioSettings
      { device with
        overheatLatched := false
        overheatLockoutActive := false
        overheatTripTemp := 0
        overheatTriggeredAt := 0
        overheatLastReason := "Thermal latch cleared manually."
        overheatLastTimestamp := ""
        rtspServerEnabled := true }, .ok)
  else (device, .rejected)

def httpActionServerStart (device : Device) : Device × ApiReply :=
  if device.overheatLatched then (device, .thermalLatched)
  else if device.rtspServerEnabled then (device, .ok)
  else
    ({ device with
        rtspServerEnabled := true
        overheatLockoutActive := false }, .ok)

def httpActionServerStop (device : Device) : Device × ApiReply :=
  (shutDownStreaming device, .ok)

/-- `loop` serves the RTSP connection only while the server is enabled and
nothing streams. -/
def loopPlay (device : Device) : Device :=
  if device.rtspServerEnabled && !device.isStreaming then
    { device with isStreaming := true }
  else device

/-- The first temperature reading at boot. -/
def setupTemperature (reading : SensorReading) (device : Device) : Device :=
  match reading.valid with
  | some temp =>
      { device with
        maxTemperature := temp
        lastTemperatureC := temp
        lastTemperatureValid := true
        overheatSensorFault := false }
  | none =>
      recordSensorFault sensorUnavailable
        { device with
          maxTemperature := 0
          lastTemperatureC := 0
          lastTemperatureValid := false }

/-- Power on and run `setup` with what the flash holds. -/
def setup (flash : AudioPrefs) (reading : SensorReading) (bootTime : UInt32) :
    Device :=
  let device := loadAudioSettings { Device.powerOn flash with bootTime := bootTime }
  setupTemperature reading
    { device with rtspServerEnabled := !device.overheatLatched }

/-- The operations on the device, with what the sensor, the clock and the
connection answer. -/
inductive DeviceEvent where
  | checkTemperature (reading : SensorReading) (millis : UInt32)
  | thermalClear
  | serverStart
  | serverStop
  | set (key : String) (value : Option String) (clientConnected : Bool)
  | play
  | streamEnds
  | restartI2S (clientConnected : Bool)
  | factoryReset (reading : SensorReading) (bootTime : UInt32)
  | reboot (reading : SensorReading) (bootTime : UInt32)

section Run

variable (toFloat : String → Option Rat)

def deviceStep (device : Device) : DeviceEvent → Option Device
  | .checkTemperature reading millis => some (checkTemperature reading millis device)
  | .thermalClear => some (httpThermalClear device).1
  | .serverStart => some (httpActionServerStart device).1
  | .serverStop => some (httpActionServerStop device).1
  | .set key value clientConnected =>
      some (httpSet toFloat clientConnected key value device)
  | .play => some (loopPlay device)
  | .streamEnds => some { device with isStreaming := false }
  | .restartI2S clientConnected => some (restartI2S clientConnected device)
  | .factoryReset reading bootTime =>
      some (setup (resetToDefaultSettings device).flash reading bootTime)
  | .reboot reading bootTime => some (setup device.flash reading bootTime)

end Run

/-- The persisted latch, as `loadAudioSettings` reads it. -/
def AudioPrefs.latched (prefs : AudioPrefs) : Bool :=
  prefs.ohLatched.getD false

/-- The four flags and the flash copy of the latch agree. -/
structure LatchSafe (device : Device) : Prop where
  lockout : device.overheatLockoutActive = true → device.overheatLatched = true
  server : device.overheatLatched = true → device.rtspServerEnabled = false
  stream : device.overheatLatched = true → device.isStreaming = false
  persisted : device.flash.latched = device.overheatLatched

/-- Streaming stopped, the server disabled and the latch set in flash. -/
structure ShutDown (device : Device) : Prop where
  latched : device.overheatLatched = true
  server : device.rtspServerEnabled = false
  stream : device.isStreaming = false
  persisted : device.flash.latched = true

/-- An acknowledgement of a trip. -/
def DeviceEvent.acknowledges : DeviceEvent → Bool
  | .thermalClear => true
  | .factoryReset _ _ => true
  | _ => false

/-- A reading at or above the limit while the protection is enabled shuts the
device down, and it stays shut down through every run of operations that
contains no thermal clear and no factory reset. -/
def TripHolds (toFloat : String → Option Rat) (device : Device) : Prop :=
  ∀ reading millis temp, reading.valid = some temp →
    device.overheatProtectionEnabled = true → temp ≥ device.overheatShutdownC →
      ∀ later : List DeviceEvent, (∀ event ∈ later, event.acknowledges = false) →
        ∀ last, run (deviceStep toFloat) (checkTemperature reading millis device) later =
          some last → ShutDown last

/-! ## Operations that leave the latch alone -/

/-- What an operation that neither trips nor acknowledges may change. -/
structure KeepsLatch (device next : Device) : Prop where
  latched : next.overheatLatched = device.overheatLatched
  lockout : next.overheatLockoutActive = true → device.overheatLockoutActive = true
  server : device.rtspServerEnabled = false → next.rtspServerEnabled = false
  stream : device.rtspServerEnabled = false → next.isStreaming = true →
    device.isStreaming = true
  persisted : next.flash.ohLatched = device.flash.ohLatched ∨
    next.flash.ohLatched = some device.overheatLatched

theorem LatchSafe.shutDown {device : Device} (safe : LatchSafe device)
    (latched : device.overheatLatched = true) : ShutDown device where
  latched := latched
  server := safe.server latched
  stream := safe.stream latched
  persisted := safe.persisted.trans latched

theorem ShutDown.latchSafe {device : Device} (down : ShutDown device) :
    LatchSafe device where
  lockout := fun _ => down.latched
  server := fun _ => down.server
  stream := fun _ => down.stream
  persisted := down.persisted.trans down.latched.symm

theorem KeepsLatch.refl (device : Device) : KeepsLatch device device where
  latched := rfl
  lockout := id
  server := id
  stream := fun _ => id
  persisted := Or.inl rfl

theorem KeepsLatch.latchSafe {device next : Device} (kept : KeepsLatch device next)
    (safe : LatchSafe device) : LatchSafe next where
  lockout := fun active => by
    rw [kept.latched]
    exact safe.lockout (kept.lockout active)
  server := fun latched => by
    rw [kept.latched] at latched
    exact kept.server (safe.server latched)
  stream := fun latched => by
    rw [kept.latched] at latched
    cases streaming : next.isStreaming with
    | false => rfl
    | true =>
        have before := kept.stream (safe.server latched) streaming
        exact absurd before (by simp [safe.stream latched])
  persisted := by
    rw [kept.latched, AudioPrefs.latched]
    rcases kept.persisted with same | put
    · rw [same]
      exact safe.persisted
    · rw [put]
      rfl

theorem restartI2S_eq (clientConnected : Bool) (device : Device) :
    restartI2S clientConnected device =
      { device with isStreaming := device.isStreaming && clientConnected } := by
  unfold restartI2S
  cases device.isStreaming <;> cases clientConnected <;> rfl

theorem KeepsLatch.restart {device next : Device} (kept : KeepsLatch device next)
    (clientConnected : Bool) :
    KeepsLatch device (restartI2S clientConnected next) := by
  rw [restartI2S_eq]
  refine ⟨kept.latched, kept.lockout, kept.server, fun disabled streaming => ?_,
    kept.persisted⟩
  exact kept.stream disabled (Bool.and_eq_true_iff.mp streaming).1

/-! ### Settings requests -/

/-- What the assignment of a setting leaves of the thermal protection. -/
structure SameThermal (device changed : Device) : Prop where
  latched : changed.overheatLatched = device.overheatLatched
  lockout : changed.overheatLockoutActive = true → device.overheatLockoutActive = true
  server : changed.rtspServerEnabled = device.rtspServerEnabled
  stream : changed.isStreaming = device.isStreaming
  fault : changed.overheatSensorFault = device.overheatSensorFault
  tripTemp : changed.overheatTripTemp = device.overheatTripTemp
  lastReason : changed.overheatLastReason = device.overheatLastReason

/-- A settings request ignores its value, or saves an assignment that leaves
the thermal protection alone and perhaps restarts the driver. -/
theorem property_applySetting {property : Device → Prop} {device : Device}
    {clientConnected : Bool} (value : Option String) (toFloat : String → Option Rat)
    (same : property device)
    (saved : ∀ changed, SameThermal device changed → property (saveAudioSettings changed))
    (restarted : ∀ changed, SameThermal device changed →
      property (restartI2S clientConnected (saveAudioSettings changed)))
    (key : SettingKey) :
    property (applySetting toFloat clientConnected value key device) := by
  cases key with
  | gain =>
      apply property_setFloat value toFloat same
      exact fun v _ _ => restarted _ ⟨rfl, id, rfl, rfl, rfl, rfl, rfl⟩
  | rate =>
      apply property_setUInt value same
      intro v _ _
      obtain ⟨_, refreshed⟩ :=
        refreshMinAcceptableRate_eq { device with currentSampleRate := v }
      simp only [refreshed]
      exact restarted _ ⟨rfl, id, rfl, rfl, rfl, rfl, rfl⟩
  | buffer =>
      apply property_setUShort value same
      intro v _ _
      obtain ⟨_, refreshed⟩ :=
        refreshMinAcceptableRate_eq { device with currentBufferSize := v }
      simp only [refreshed]
      exact restarted _ ⟨rfl, id, rfl, rfl, rfl, rfl, rfl⟩
  | wifi_tx =>
      apply property_setFloat value toFloat same
      exact fun v _ _ => saved _ ⟨rfl, id, rfl, rfl, rfl, rfl, rfl⟩
  | thr_mode =>
      simp only [applySetting]
      split
      · obtain ⟨_, refreshed⟩ :=
          refreshMinAcceptableRate_eq { device with autoThresholdEnabled := true }
        rw [refreshed]
        exact saved _ ⟨rfl, id, rfl, rfl, rfl, rfl, rfl⟩
      · split
        · exact saved _ ⟨rfl, id, rfl, rfl, rfl, rfl, rfl⟩
        · exact same
  | min_rate | check_interval | reset_hours | cpu_freq | hp_cutoff | led_mode =>
      apply property_setUInt value same
      exact fun v _ _ => saved _ ⟨rfl, id, rfl, rfl, rfl, rfl, rfl⟩
  | auto_recovery | sched_reset | hp_enable | agc_enable =>
      simp only [applySetting]
      apply property_setSwitch value same
      exact fun v => saved _ ⟨rfl, id, rfl, rfl, rfl, rfl, rfl⟩
  | oh_enable =>
      simp only [applySetting]
      apply property_setSwitch value same
      intro v
      refine saved _ ⟨rfl, ?_, rfl, rfl, rfl, rfl, rfl⟩
      cases v with
      | true => exact id
      | false => exact fun impossible => nomatch impossible
  | oh_limit =>
      apply property_setUInt value same
      intro v _ _
      refine saved _ ⟨rfl, ?_, rfl, rfl, rfl, rfl, rfl⟩
      exact fun impossible => nomatch impossible

theorem SameThermal.keepsLatch_save {device changed : Device}
    (same : SameThermal device changed) : KeepsLatch device (saveAudioSettings changed) where
  latched := same.latched
  lockout := same.lockout
  server := fun disabled => same.server.trans disabled
  stream := fun _ streaming => same.stream.symm.trans streaming
  persisted := Or.inr (congrArg some same.latched)

/-- No settings request touches the latch. -/
theorem keepsLatch_applySetting {device : Device} (value : Option String)
    (toFloat : String → Option Rat) (clientConnected : Bool) (key : SettingKey) :
    KeepsLatch device (applySetting toFloat clientConnected value key device) := by
  refine property_applySetting value toFloat (KeepsLatch.refl device) ?_ ?_ key
  · exact fun _ same => same.keepsLatch_save
  · exact fun _ same => same.keepsLatch_save.restart clientConnected

theorem keepsLatch_httpSet (toFloat : String → Option Rat) (clientConnected : Bool)
    (key : String) (value : Option String) (device : Device) :
    KeepsLatch device (httpSet toFloat clientConnected key value device) := by
  unfold httpSet
  split
  · exact KeepsLatch.refl device
  · exact keepsLatch_applySetting value toFloat clientConnected _

theorem keepsLatch_loopPlay (device : Device) : KeepsLatch device (loopPlay device) := by
  unfold loopPlay
  split
  · rename_i serves
    refine ⟨rfl, id, id, fun disabled _ => ?_, Or.inl rfl⟩
    rw [disabled] at serves
    cases serves
  · exact KeepsLatch.refl device

theorem keepsLatch_recordSensorFault (reason : String) (device : Device) :
    KeepsLatch device (recordSensorFault reason device) where
  latched := rfl
  lockout := id
  server := id
  stream := fun _ => id
  persisted := Or.inr rfl

theorem keepsLatch_restoreSensor (millis : UInt32) (device : Device) :
    KeepsLatch device (restoreSensor millis device) := by
  unfold restoreSensor
  split
  · exact ⟨rfl, id, id, fun _ => id, Or.inr rfl⟩
  · exact KeepsLatch.refl device

/-! ## The temperature monitor -/

theorem keepsLatch_standDown (device : Device) :
    KeepsLatch device { device with overheatLockoutActive := false } where
  latched := rfl
  lockout := fun impossible => nomatch impossible
  server := id
  stream := fun _ => id
  persisted := Or.inl rfl

/-- With a valid temperature and no sensor fault, the monitor trips, or
leaves the latch alone because the temperature is below the limit, the
protection is off, or the lockout is active. -/
theorem protectFrom_cases (temp : Rat) (millis : UInt32) (device : Device) :
    ShutDown (protectFrom temp millis device) ∨
      (KeepsLatch device (protectFrom temp millis device) ∧
        (device.overheatProtectionEnabled = true →
          device.overheatSensorFault = false → temp ≥ device.overheatShutdownC →
            device.overheatLockoutActive = true)) := by
  unfold protectFrom
  split
  · split
    · exact Or.inl ⟨rfl, rfl, rfl, rfl⟩
    · rename_i noTrip
      refine Or.inr ⟨?_, fun _ _ hot => ?_⟩
      · split
        · exact keepsLatch_standDown device
        · exact KeepsLatch.refl device
      · rw [not_and] at noTrip
        exact Bool.of_not_eq_false fun inactive => noTrip inactive hot
  · rename_i inactive
    refine Or.inr ⟨keepsLatch_standDown device, fun enabled fault => ?_⟩
    rw [enabled, fault] at inactive
    exact absurd rfl inactive

theorem restoreSensor_spec (millis : UInt32) (device : Device) :
    (restoreSensor millis device).overheatSensorFault = false ∧
      (restoreSensor millis device).overheatProtectionEnabled =
        device.overheatProtectionEnabled ∧
      (restoreSensor millis device).overheatShutdownC = device.overheatShutdownC ∧
      (restoreSensor millis device).overheatLockoutActive =
        device.overheatLockoutActive := by
  unfold restoreSensor
  split
  · exact ⟨rfl, rfl, rfl, rfl⟩
  · exact ⟨Bool.of_not_eq_true ‹_›, rfl, rfl, rfl⟩

theorem KeepsLatch.trans {first second third : Device}
    (kept : KeepsLatch first second) (onward : KeepsLatch second third) :
    KeepsLatch first third where
  latched := onward.latched.trans kept.latched
  lockout := fun active => kept.lockout (onward.lockout active)
  server := fun disabled => onward.server (kept.server disabled)
  stream := fun disabled streaming =>
    kept.stream disabled (onward.stream (kept.server disabled) streaming)
  persisted := by
    rcases onward.persisted with same | put
    · rw [same]
      exact kept.persisted
    · rw [put, kept.latched]
      exact Or.inr rfl

/-- A device before the monitor judges a valid temperature. -/
structure Measured (device measured : Device) : Prop where
  keeps : KeepsLatch device measured
  noFault : measured.overheatSensorFault = false
  enabled : measured.overheatProtectionEnabled = device.overheatProtectionEnabled
  limit : measured.overheatShutdownC = device.overheatShutdownC
  lockout : measured.overheatLockoutActive = device.overheatLockoutActive
  record : device.overheatSensorFault = false →
    measured.overheatTripTemp = device.overheatTripTemp ∧
      measured.overheatLastReason = device.overheatLastReason ∧ measured.flash = device.flash

/-- With a valid temperature, the sensor is restored before the monitor
judges. -/
theorem checkTemperature_of_valid {reading : SensorReading} {temp : Rat}
    (valid : reading.valid = some temp) (millis : UInt32) (device : Device) :
    ∃ measured, checkTemperature reading millis device = protectFrom temp millis measured ∧
      Measured device measured := by
  set read : Device :=
    { device with
      lastTemperatureC := temp
      lastTemperatureValid := true }
  obtain ⟨noFault, sameEnabled, sameLimit, sameLockout⟩ := restoreSensor_spec millis read
  set measured : Device :=
    { restoreSensor millis read with
      maxTemperature :=
        if temp > (restoreSensor millis read).maxTemperature then temp
        else (restoreSensor millis read).maxTemperature } with measuredEq
  have keptRead : KeepsLatch device read := ⟨rfl, id, id, fun _ => id, Or.inl rfl⟩
  have keptMeasured : KeepsLatch (restoreSensor millis read) measured :=
    ⟨rfl, id, id, fun _ => id, Or.inl rfl⟩
  have keeps := (keptRead.trans (keepsLatch_restoreSensor millis read)).trans keptMeasured
  refine ⟨measured, ?_, keeps, noFault, sameEnabled, sameLimit, sameLockout, fun noted => ?_⟩
  · simp only [checkTemperature, valid]
    rfl
  · have noRestore : ¬ read.overheatSensorFault = true := by
      change ¬ device.overheatSensorFault = true
      rw [noted]
      exact Bool.false_ne_true
    rw [measuredEq, restoreSensor, if_neg noRestore]
    exact ⟨rfl, rfl, rfl⟩

theorem checkTemperature_cases (reading : SensorReading) (millis : UInt32)
    (device : Device) :
    ShutDown (checkTemperature reading millis device) ∨
      (KeepsLatch device (checkTemperature reading millis device) ∧
        ∀ temp, reading.valid = some temp →
          device.overheatProtectionEnabled = true →
            temp ≥ device.overheatShutdownC → device.overheatLockoutActive = true) := by
  cases valid : reading.valid with
  | none =>
      refine Or.inr ⟨?_, fun _ impossible => nomatch impossible⟩
      simp only [checkTemperature, valid]
      split
      · exact ⟨rfl, id, id, fun _ => id, Or.inl rfl⟩
      · refine KeepsLatch.trans ?_ (keepsLatch_recordSensorFault _ _)
        exact ⟨rfl, id, id, fun _ => id, Or.inl rfl⟩
  | some temp =>
      obtain ⟨measured, checked, same⟩ := checkTemperature_of_valid valid millis device
      rw [checked]
      rcases protectFrom_cases temp millis measured with down | ⟨onward, noTrip⟩
      · exact Or.inl down
      · refine Or.inr ⟨same.keeps.trans onward, ?_⟩
        intro _ sameTemp enabled hot
        cases sameTemp
        have hotMeasured : temp ≥ measured.overheatShutdownC := by
          rw [same.limit]
          exact hot
        exact same.lockout.symm.trans
          (noTrip (same.enabled.trans enabled) same.noFault hotMeasured)

/-! ## Boot -/

theorem loadAudioSettings_spec (device : Device) :
    (loadAudioSettings device).overheatLatched = device.flash.latched ∧
      (loadAudioSettings device).overheatLockoutActive = device.overheatLockoutActive ∧
      (loadAudioSettings device).isStreaming = device.isStreaming ∧
      (loadAudioSettings device).flash = device.flash := by
  obtain ⟨_, refreshed⟩ := refreshMinAcceptableRate_eq (readAudioPrefs device)
  simp only [loadAudioSettings, refreshed]
  split <;> exact ⟨rfl, rfl, rfl, rfl⟩

/-- Every boot ends in a consistent state with the latch that was saved. -/
theorem setup_spec (flash : AudioPrefs) (reading : SensorReading) (bootTime : UInt32) :
    (setup flash reading bootTime).overheatLatched = flash.latched ∧
      LatchSafe (setup flash reading bootTime) := by
  obtain ⟨latchedEq, lockoutEq, streamEq, flashEq⟩ :=
    loadAudioSettings_spec { Device.powerOn flash with bootTime := bootTime }
  unfold setup
  set loaded := loadAudioSettings { Device.powerOn flash with bootTime := bootTime }
  have safe : LatchSafe { loaded with rtspServerEnabled := !loaded.overheatLatched } := by
    refine ⟨fun active => ?_, fun latched => ?_, fun _ => streamEq, ?_⟩
    · rw [lockoutEq] at active
      cases active
    · simp only [Bool.not_eq_false']
      exact latched
    · simp only [latchedEq, flashEq]
  unfold setupTemperature
  cases reading.valid with
  | some temp => exact ⟨latchedEq, safe.lockout, safe.server, safe.stream, safe.persisted⟩
  | none =>
      refine ⟨latchedEq, KeepsLatch.latchSafe ?_ safe⟩
      refine KeepsLatch.trans ?_ (keepsLatch_recordSensorFault _ _)
      exact ⟨rfl, id, id, fun _ => id, Or.inl rfl⟩

/-! ## Every run -/

theorem deviceStep_isSome (toFloat : String → Option Rat) (device : Device)
    (event : DeviceEvent) : (deviceStep toFloat device event).isSome := by
  cases event <;> rfl

theorem latchSafe_step {toFloat : String → Option Rat} {device next : Device}
    {event : DeviceEvent} (safe : LatchSafe device)
    (stepped : deviceStep toFloat device event = some next) : LatchSafe next := by
  cases event <;> cases stepped
  case checkTemperature reading millis =>
    rcases checkTemperature_cases reading millis device with down | ⟨kept, -⟩
    · exact down.latchSafe
    · exact kept.latchSafe safe
  case thermalClear =>
    unfold httpThermalClear
    split
    · refine ⟨?_, ?_, ?_, rfl⟩ <;> exact fun impossible => nomatch impossible
    · exact safe
  case serverStart =>
    unfold httpActionServerStart
    split
    · exact safe
    · rename_i unlatched
      split
      · exact safe
      · refine ⟨?_, ?_, safe.stream, safe.persisted⟩
        · exact fun impossible => nomatch impossible
        · exact fun latched => absurd latched unlatched
  case serverStop => exact ⟨safe.lockout, fun _ => rfl, fun _ => rfl, safe.persisted⟩
  case set key value clientConnected =>
    exact (keepsLatch_httpSet toFloat clientConnected key value device).latchSafe safe
  case play => exact (keepsLatch_loopPlay device).latchSafe safe
  case streamEnds => exact ⟨safe.lockout, safe.server, fun _ => rfl, safe.persisted⟩
  case restartI2S clientConnected =>
    exact ((KeepsLatch.refl device).restart clientConnected).latchSafe safe
  case factoryReset reading bootTime => exact (setup_spec _ reading bootTime).2
  case reboot reading bootTime => exact (setup_spec _ reading bootTime).2

/-- The latch outlives every operation that does not acknowledge it. -/
theorem latched_step {toFloat : String → Option Rat} {device next : Device}
    {event : DeviceEvent} (safe : LatchSafe device)
    (latched : device.overheatLatched = true) (kept : event.acknowledges = false)
    (stepped : deviceStep toFloat device event = some next) :
    next.overheatLatched = true := by
  cases event <;> cases stepped
  case checkTemperature reading millis =>
    rcases checkTemperature_cases reading millis device with down | ⟨kept, -⟩
    · exact down.latched
    · exact kept.latched.trans latched
  case thermalClear => cases kept
  case serverStart =>
    unfold httpActionServerStart
    rw [if_pos latched]
    exact latched
  case serverStop => exact latched
  case set key value clientConnected =>
    exact (keepsLatch_httpSet toFloat clientConnected key value device).latched.trans
      latched
  case play => exact (keepsLatch_loopPlay device).latched.trans latched
  case streamEnds => exact latched
  case restartI2S clientConnected =>
    exact ((KeepsLatch.refl device).restart clientConnected).latched.trans latched
  case factoryReset reading bootTime => cases kept
  case reboot reading bootTime =>
    exact (setup_spec _ reading bootTime).1.trans (safe.persisted.trans latched)

theorem tripHolds_of_latchSafe (toFloat : String → Option Rat) {device : Device}
    (safe : LatchSafe device) : TripHolds toFloat device := by
  intro reading millis temp valid enabled hot later noneAcknowledges last ran
  have tripped : ShutDown (checkTemperature reading millis device) := by
    rcases checkTemperature_cases reading millis device with down | ⟨kept, noTrip⟩
    · exact down
    · -- The trip branch is skipped only in a lockout, and then the latch is set.
      have locked := noTrip temp valid enabled hot
      exact (kept.latchSafe safe).shutDown (kept.latched.trans (safe.lockout locked))
  refine @invariant_of_guarded Device DeviceEvent (deviceStep toFloat)
    (fun _ event => event.acknowledges = false) ShutDown ?_ _ _ later tripped
    (guarded_of_forall_mem (fun event member _ => noneAcknowledges event member) _) ran
  intro device event next down kept stepped
  exact (latchSafe_step down.latchSafe stepped).shutDown
    (latched_step down.latchSafe down.latched kept stepped)

/-- In every state reachable from boot the latch flags are consistent, and a
trip in that state holds until it is acknowledged. -/
theorem latchSafe_and_tripHolds_of_run (toFloat : String → Option Rat)
    (flash : AudioPrefs) (reading : SensorReading) (bootTime : UInt32)
    (events : List DeviceEvent) :
    ∃ device,
      run (deviceStep toFloat) (setup flash reading bootTime) events = some device ∧
        LatchSafe device ∧ TripHolds toFloat device := by
  obtain ⟨device, ran⟩ := run_isSome (deviceStep_isSome toFloat)
    (setup flash reading bootTime) events
  have safe : LatchSafe device :=
    invariant_of_run (fun _ _ _ => latchSafe_step) (setup_spec _ _ _).2 ran
  exact ⟨device, ran, safe, tripHolds_of_latchSafe toFloat safe⟩

end EchoMic
