import EchoMic.ThermalLatch

/-!
# The record of a thermal trip

The temperature and the reason that a trip leaves in the memory and in the
flash.  The same variables take the notes of a sensor that fails or answers
again, so the record outlives requests and reboots only while the sensor
answers.
-/

namespace EchoMic

open GuardedRuns

/-- A trip: the temperature, and the limit at that time. -/
structure TripRecord where
  temp : Rat
  limit : Rat
  deriving DecidableEq

/-- The reason that `recordOverheatTrip` writes. -/
def TripRecord.reason (trip : TripRecord) : String :=
  "Thermal shutdown: " ++ oneDecimal trip.temp ++ " C reached (limit " ++
    oneDecimal trip.limit ++ " C). Stream disabled; acknowledge in UI."

/-- `temp` trips the protection. -/
def Trips (device : Device) (temp : Rat) : Prop :=
  device.overheatProtectionEnabled = true ∧ device.overheatLockoutActive = false ∧
    temp ≥ device.overheatShutdownC

instance (device : Device) (temp : Rat) : Decidable (Trips device temp) :=
  inferInstanceAs (Decidable (_ ∧ _))

/-- The trip of a step, if it is one. -/
def tripOf (device : Device) : DeviceEvent → Option TripRecord
  | .checkTemperature reading _ =>
      match reading.valid with
      | none => none
      | some temp =>
          if Trips device temp then
            some
              { temp := temp
                limit := device.overheatShutdownC }
          else none
  | _ => none

/-- The device and its most recent trip, as long as the latch has been set
since. -/
structure TrackedDevice where
  device : Device
  trip : Option TripRecord
  deriving DecidableEq

def TrackedDevice.boot (flash : AudioPrefs) (reading : SensorReading) (bootTime : UInt32) :
    TrackedDevice where
  device := setup flash reading bootTime
  trip := none

def trackedStep (toFloat : String → Option Rat) (tracked : TrackedDevice)
    (event : DeviceEvent) : Option TrackedDevice :=
  (deviceStep toFloat tracked.device event).map fun next =>
    { device := next
      trip :=
        match tripOf tracked.device event with
        | some trip => some trip
        | none => if next.overheatLatched then tracked.trip else none }

/-- The temperature and the reason of the trip, in memory and in flash. -/
structure TripRecorded (trip : TripRecord) (device : Device) : Prop where
  temp : device.overheatTripTemp = trip.temp
  reason : device.overheatLastReason = trip.reason
  flashTemp : device.flash.ohTripC = some trip.temp
  flashReason : device.flash.ohReason = some trip.reason

/-- The record is that of the most recent trip while the latch is set. -/
def RecordKept (tracked : TrackedDevice) : Prop :=
  ∀ trip ∈ tracked.trip, TripRecorded trip tracked.device

def DeviceEvent.readsInvalid : DeviceEvent → Bool
  | .checkTemperature reading _ => reading.valid.isNone
  | .reboot reading _ => reading.valid.isNone
  | _ => false

/-- While the latch is set, the sensor answers with valid readings. -/
def SensorAnswers (tracked : TrackedDevice) (event : DeviceEvent) : Prop :=
  tracked.device.overheatLatched = true → event.readsInvalid = false

instance (tracked : TrackedDevice) (event : DeviceEvent) :
    Decidable (SensorAnswers tracked event) :=
  inferInstanceAs (Decidable (_ → _))

/-! ## The invariant -/

/-- The latch is set, the record is there, and no sensor fault is noted. -/
structure TripHeld (trip : TripRecord) (device : Device) : Prop where
  latched : device.overheatLatched = true
  noFault : device.overheatSensorFault = false
  recorded : TripRecorded trip device

section Held

variable {trip : TripRecord} {device changed : Device}

/-- The record is kept by a change of anything else. -/
theorem TripHeld.congr (held : TripHeld trip device)
    (latched : changed.overheatLatched = device.overheatLatched)
    (fault : changed.overheatSensorFault = device.overheatSensorFault)
    (temp : changed.overheatTripTemp = device.overheatTripTemp)
    (reason : changed.overheatLastReason = device.overheatLastReason)
    (flash : changed.flash = device.flash) : TripHeld trip changed where
  latched := latched.trans held.latched
  noFault := fault.trans held.noFault
  recorded :=
    { temp := temp.trans held.recorded.temp
      reason := reason.trans held.recorded.reason
      flashTemp := (congrArg AudioPrefs.ohTripC flash).trans held.recorded.flashTemp
      flashReason := (congrArg AudioPrefs.ohReason flash).trans held.recorded.flashReason }

theorem TripHeld.saveAudioSettings (held : TripHeld trip device)
    (same : SameThermal device changed) : TripHeld trip (saveAudioSettings changed) where
  latched := same.latched.trans held.latched
  noFault := same.fault.trans held.noFault
  recorded :=
    { temp := same.tripTemp.trans held.recorded.temp
      reason := same.lastReason.trans held.recorded.reason
      flashTemp := congrArg some (same.tripTemp.trans held.recorded.temp)
      flashReason := congrArg some (same.lastReason.trans held.recorded.reason) }

theorem TripHeld.restartI2S (held : TripHeld trip device) (clientConnected : Bool) :
    TripHeld trip (restartI2S clientConnected device) := by
  rw [restartI2S_eq]
  exact held.congr rfl rfl rfl rfl rfl

theorem TripHeld.httpSet (held : TripHeld trip device) (toFloat : String → Option Rat)
    (clientConnected : Bool) (key : String) (value : Option String) :
    TripHeld trip (httpSet toFloat clientConnected key value device) := by
  unfold EchoMic.httpSet
  split
  · exact held
  · refine property_applySetting value toFloat held ?_ ?_ _
    · exact fun _ same => held.saveAudioSettings same
    · exact fun _ same => (held.saveAudioSettings same).restartI2S clientConnected

theorem TripHeld.loopPlay (held : TripHeld trip device) : TripHeld trip (loopPlay device) := by
  unfold EchoMic.loopPlay
  split
  · exact held.congr rfl rfl rfl rfl rfl
  · exact held

/-! ## The temperature monitor -/

theorem protectFrom_of_trips {temp : Rat} (millis : UInt32)
    (noFault : device.overheatSensorFault = false) (trips : Trips device temp) :
    TripHeld ⟨temp, device.overheatShutdownC⟩ (protectFrom temp millis device) := by
  obtain ⟨enabled, noLockout, hot⟩ := trips
  have active : (device.overheatProtectionEnabled && !device.overheatSensorFault) = true := by
    rw [enabled, noFault]
    rfl
  rw [protectFrom, if_pos active, if_pos ⟨noLockout, hot⟩]
  exact ⟨rfl, noFault, rfl, rfl, rfl, rfl⟩

/-- Without a trip, the monitor changes the lockout at most. -/
theorem protectFrom_of_not_trips {temp : Rat} (millis : UInt32)
    (noTrip : ¬ Trips device temp) :
    ∃ lockout, protectFrom temp millis device =
      { device with overheatLockoutActive := lockout } := by
  unfold protectFrom
  split
  · rename_i active
    split
    · rename_i hot
      exact absurd ⟨(Bool.and_eq_true_iff.mp active).1, hot⟩ noTrip
    · split
      · exact ⟨false, rfl⟩
      · exact ⟨device.overheatLockoutActive, rfl⟩
  · exact ⟨false, rfl⟩

theorem Measured.trips_iff {measured : Device} (same : Measured device measured) (temp : Rat) :
    Trips measured temp ↔ Trips device temp := by
  rw [Trips, Trips, same.enabled, same.limit, same.lockout]

theorem tripHeld_of_tripOf {reading : SensorReading} {millis : UInt32}
    (tripped : tripOf device (.checkTemperature reading millis) = some trip) :
    TripHeld trip (checkTemperature reading millis device) := by
  cases valid : reading.valid with
  | none =>
      simp only [tripOf, valid] at tripped
      cases tripped
  | some temp =>
      obtain ⟨measured, checked, same⟩ := checkTemperature_of_valid valid millis device
      simp only [tripOf, valid] at tripped
      split at tripped
      · rename_i trips
        cases tripped
        rw [checked, ← same.limit]
        exact protectFrom_of_trips millis same.noFault ((same.trips_iff temp).mpr trips)
      · cases tripped

theorem TripHeld.checkTemperature (held : TripHeld trip device) {reading : SensorReading}
    {millis : UInt32} (noTrip : tripOf device (.checkTemperature reading millis) = none)
    (valid : reading.valid.isNone = false) :
    TripHeld trip (checkTemperature reading millis device) := by
  cases read : reading.valid with
  | none =>
      rw [read] at valid
      cases valid
  | some temp =>
      obtain ⟨measured, checked, same⟩ := checkTemperature_of_valid read millis device
      simp only [tripOf, read] at noTrip
      split at noTrip
      · cases noTrip
      · rename_i cool
        have coolMeasured : ¬ Trips measured temp := fun trips => cool ((same.trips_iff temp).mp trips)
        obtain ⟨_, changed⟩ := protectFrom_of_not_trips millis coolMeasured
        obtain ⟨temp, reason, flash⟩ := same.record held.noFault
        have fault := same.noFault.trans held.noFault.symm
        rw [checked, changed]
        exact held.congr same.keeps.latched fault temp reason flash

/-! ## Boot -/

theorem loadAudioSettings_record (device : Device) :
    (loadAudioSettings device).overheatTripTemp = device.flash.ohTripC.getD 0 ∧
      (loadAudioSettings device).overheatLastReason = device.flash.ohReason.getD "" := by
  obtain ⟨_, refreshed⟩ := refreshMinAcceptableRate_eq (readAudioPrefs device)
  simp only [loadAudioSettings, refreshed]
  split <;> exact ⟨rfl, rfl⟩

theorem TripHeld.setup (held : TripHeld trip device) (safe : LatchSafe device)
    {reading : SensorReading} (valid : reading.valid.isNone = false) (bootTime : UInt32) :
    TripHeld trip (setup device.flash reading bootTime) := by
  have latched := (setup_spec device.flash reading bootTime).1
  set booting : Device := { Device.powerOn device.flash with bootTime := bootTime } with booted
  obtain ⟨sameTemp, sameReason⟩ := loadAudioSettings_record booting
  obtain ⟨-, -, -, sameFlash⟩ := loadAudioSettings_spec booting
  cases read : reading.valid with
  | none =>
      rw [read] at valid
      cases valid
  | some temp =>
      refine ⟨latched.trans (safe.persisted.trans held.latched), ?_, ?_⟩
      · simp only [EchoMic.setup, setupTemperature, read]
      · simp only [EchoMic.setup, setupTemperature, read, ← booted]
        refine ⟨sameTemp.trans ?_, sameReason.trans ?_, ?_, ?_⟩
        · exact congrArg (Option.getD · 0) held.recorded.flashTemp
        · exact congrArg (Option.getD · "") held.recorded.flashReason
        · exact (congrArg AudioPrefs.ohTripC sameFlash).trans held.recorded.flashTemp
        · exact (congrArg AudioPrefs.ohReason sameFlash).trans held.recorded.flashReason

end Held

/-! ## Every run -/

/-- Whatever trip is tracked is held, and the latch flags are consistent. -/
structure TrackedSafe (tracked : TrackedDevice) : Prop where
  safe : LatchSafe tracked.device
  held : ∀ trip ∈ tracked.trip, TripHeld trip tracked.device

/-- A step without a trip, behind which the latch is set, keeps the record. -/
theorem tripHeld_step {toFloat : String → Option Rat} {device next : Device}
    {event : DeviceEvent} {trip : TripRecord} (safe : LatchSafe device)
    (held : TripHeld trip device) (answers : event.readsInvalid = false)
    (noTrip : tripOf device event = none) (latched : next.overheatLatched = true)
    (stepped : deviceStep toFloat device event = some next) : TripHeld trip next := by
  cases event <;> cases stepped
  case checkTemperature reading millis => exact held.checkTemperature noTrip answers
  case thermalClear =>
    rw [httpThermalClear, if_pos held.latched] at latched
    cases latched
  case serverStart =>
    rw [httpActionServerStart, if_pos held.latched]
    exact held
  case serverStop => exact held.congr rfl rfl rfl rfl rfl
  case set key value clientConnected => exact held.httpSet toFloat clientConnected key value
  case play => exact held.loopPlay
  case streamEnds => exact held.congr rfl rfl rfl rfl rfl
  case restartI2S clientConnected => exact held.restartI2S clientConnected
  case factoryReset reading bootTime =>
    rw [(setup_spec _ reading bootTime).1] at latched
    cases latched
  case reboot reading bootTime => exact held.setup safe answers bootTime

theorem trackedSafe_step {toFloat : String → Option Rat} {tracked next : TrackedDevice}
    {event : DeviceEvent} (safe : TrackedSafe tracked) (answers : SensorAnswers tracked event)
    (stepped : trackedStep toFloat tracked event = some next) : TrackedSafe next := by
  obtain ⟨device, deviceStepped, rfl⟩ := Option.map_eq_some_iff.mp stepped
  refine ⟨latchSafe_step safe.safe deviceStepped, fun trip member => ?_⟩
  simp only [Option.mem_def] at member
  split at member
  · rename_i tripped
    cases member
    cases event with
    | checkTemperature reading millis =>
        cases deviceStepped
        exact tripHeld_of_tripOf tripped
    | _ => cases tripped
  · rename_i noTrip
    split at member
    · rename_i latched
      have held := safe.held trip member
      exact tripHeld_step safe.safe held (answers held.latched) noTrip latched deviceStepped
    · cases member

/-- While the sensor answers, the record of the most recent trip outlives
every run of readings, requests and reboots that leaves the latch set. -/
theorem recordKept_of_sensorAnswers (toFloat : String → Option Rat) (flash : AudioPrefs)
    (reading : SensorReading) (bootTime : UInt32) (events : List DeviceEvent)
    (last : TrackedDevice)
    (answers : Guarded (trackedStep toFloat) SensorAnswers
      (TrackedDevice.boot flash reading bootTime) events)
    (ran : run (trackedStep toFloat) (TrackedDevice.boot flash reading bootTime) events =
      some last) :
    RecordKept last := by
  have initially : TrackedSafe (TrackedDevice.boot flash reading bootTime) :=
    ⟨(setup_spec flash reading bootTime).2, fun _ impossible => by cases impossible⟩
  have safe : TrackedSafe last :=
    invariant_of_guarded (fun _ _ _ => trackedSafe_step) initially answers ran
  exact fun trip member => (safe.held trip member).recorded

/-- A trip at 85 degrees, a request and a reboot. -/
def tripAndReboot : List DeviceEvent :=
  [.checkTemperature (.celsius 85) 60000, .set "led_mode" (some "2") false,
    .reboot (.celsius 60) 0]

theorem recordKept_tripAndReboot :
    ∃ last, run (trackedStep fun _ => none)
        (TrackedDevice.boot AudioPrefs.empty (.celsius 40) 0) tripAndReboot = some last ∧
      last.trip = some ⟨85, 80⟩ ∧ RecordKept last := by
  refine ⟨_, rfl, rfl, ?_⟩
  exact recordKept_of_sensorAnswers (fun _ => none) AudioPrefs.empty (.celsius 40) 0
    tripAndReboot _ (by decide) rfl

/-- A reading that fails behind a trip at 85 degrees. -/
theorem record_lost_to_sensor_fault :
    ∃ last, run (trackedStep fun _ => none)
        (TrackedDevice.boot AudioPrefs.empty (.celsius 40) 0)
        [.checkTemperature (.celsius 85) 60000, .checkTemperature .nan 120000] = some last ∧
      last.device.overheatLatched = true ∧ ¬ RecordKept last := by
  refine ⟨_, rfl, rfl, fun kept => ?_⟩
  have temp := (kept ⟨85, 80⟩ rfl).temp
  exact absurd temp (by decide)

end EchoMic
