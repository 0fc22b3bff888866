import EchoMic.ByteSearch

/-!
# Settings of the device and their flash copies

The global variables that `/api/set` changes, the `audio` namespace they are
saved in, and the functions that load, save, reset and set them.  Floats are
rationals, the machine integers have their own widths, and every function
that runs on Core 0 is one step on the whole device.
-/

namespace EchoMic

open ByteSearch

def defaultSampleRate : UInt32 := 16000
def defaultGainFactor : Rat := 3
def defaultBufferSize : UInt16 := 1024
def defaultWifiTxDbm : Rat := 39 / 2
def defaultHpfEnabled : Bool := true
def defaultHpfCutoffHz : UInt16 := 300
def defaultOverheatProtection : Bool := true
def defaultOverheatLimitC : UInt32 := 80
def overheatMinLimitC : UInt32 := 30
def overheatMaxLimitC : UInt32 := 95
def overheatLimitStepC : UInt32 := 5

/-- The `audio` namespace of the flash.  A key that was never put is `none`. -/
structure AudioPrefs where
  sampleRate : Option UInt32
  gainFactor : Option Rat
  bufferSize : Option UInt16
  shiftBits : Option UInt8
  autoRecovery : Option Bool
  schedReset : Option Bool
  resetHours : Option UInt32
  minRate : Option UInt32
  checkInterval : Option UInt32
  thrAuto : Option Bool
  cpuFreq : Option UInt8
  wifiTxDbm : Option Rat
  hpEnable : Option Bool
  hpCutoff : Option UInt32
  agcEnable : Option Bool
  ledMode : Option UInt8
  ohEnable : Option Bool
  ohThresh : Option UInt32
  ohReason : Option String
  ohStamp : Option String
  ohTripC : Option Rat
  ohLatched : Option Bool
  deriving DecidableEq

/-- The namespace after `clear`. -/
def AudioPrefs.empty : AudioPrefs where
  sampleRate := none
  gainFactor := none
  bufferSize := none
  shiftBits := none
  autoRecovery := none
  schedReset := none
  resetHours := none
  minRate := none
  checkInterval := none
  thrAuto := none
  cpuFreq := none
  wifiTxDbm := none
  hpEnable := none
  hpCutoff := none
  agcEnable := none
  ledMode := none
  ohEnable := none
  ohThresh := none
  ohReason := none
  ohStamp := none
  ohTripC := none
  ohLatched := none

/-- The global variables of the settings and of the thermal protection, and
the flash. -/
structure Device where
  currentSampleRate : UInt32
  currentGainFactor : Rat
  currentBufferSize : UInt16
  i2sShiftBits : UInt8
  autoRecoveryEnabled : Bool
  scheduledResetEnabled : Bool
  resetIntervalHours : UInt32
  minAcceptableRate : UInt32
  performanceCheckInterval : UInt32
  autoThresholdEnabled : Bool
  cpuFrequencyMhz : UInt8
  wifiTxPowerDbm : Rat
  highpassEnabled : Bool
  highpassCutoffHz : UInt16
  agcEnabled : Bool
  agcMultiplier : Rat
  ledMode : UInt8
  overheatProtectionEnabled : Bool
  overheatShutdownC : Rat
  overheatLastReason : String
  overheatLastTimestamp : String
  overheatTripTemp : Rat
  overheatLatched : Bool
  overheatLockoutActive : Bool
  overheatTriggeredAt : UInt32
  overheatSensorFault : Bool
  lastTemperatureC : Rat
  lastTemperatureValid : Bool
  maxTemperature : Rat
  bootTime : UInt32
  rtspServerEnabled : Bool
  isStreaming : Bool
  flash : AudioPrefs
  deriving DecidableEq

/-- The initial values of the globals, with what the flash holds. -/
def Device.powerOn (flash : AudioPrefs) : Device where
  currentSampleRate := defaultSampleRate
  currentGainFactor := defaultGainFactor
  currentBufferSize := defaultBufferSize
  i2sShiftBits := 0
  autoRecoveryEnabled := false
  scheduledResetEnabled := false
  resetIntervalHours := 24
  minAcceptableRate := 50
  performanceCheckInterval := 15
  autoThresholdEnabled := true
  cpuFrequencyMhz := 160
  wifiTxPowerDbm := defaultWifiTxDbm
  highpassEnabled := defaultHpfEnabled
  highpassCutoffHz := defaultHpfCutoffHz
  agcEnabled := false
  agcMultiplier := 1
  ledMode := 1
  overheatProtectionEnabled := defaultOverheatProtection
  overheatShutdownC := defaultOverheatLimitC.toNat
  overheatLastReason := ""
  overheatLastTimestamp := ""
  overheatTripTemp := 0
  overheatLatched := false
  overheatLockoutActive := false
  overheatTriggeredAt := 0
  overheatSensorFault := false
  lastTemperatureC := 0
  lastTemperatureValid := false
  maxTemperature := 0
  bootTime := 0
  rtspServerEnabled := true
  isStreaming := false
  flash := flash

/-- Half of the expected packet rate, and at least five. -/
def computeRecommendedMinRate (device : Device) : UInt32 :=
  let buf : UInt32 := (max 1 device.currentBufferSize).toUInt32
  let expectedPktPerSec : Rat := (device.currentSampleRate.toNat : Rat) / buf.toNat
  let recommended := UInt32.ofNat (expectedPktPerSec * (1 / 2) + 1 / 2).floor.toNat
  if recommended < 5 then 5 else recommended

def clampOverheatLimit (ohLimit : UInt32) : UInt32 :=
  let ohLimit := if ohLimit < overheatMinLimitC then overheatMinLimitC else ohLimit
  if ohLimit > overheatMaxLimitC then overheatMaxLimitC else ohLimit

/-- Round a limit down to the steps above the smallest one. -/
def snapOverheatLimit (ohLimit : UInt32) : UInt32 :=
  overheatMinLimitC +
    (ohLimit - overheatMinLimitC) / overheatLimitStepC * overheatLimitStepC

/-- Follow the recommended threshold in automatic mode. -/
def refreshMinAcceptableRate (device : Device) : Device :=
  if device.autoThresholdEnabled then
    { device with minAcceptableRate := computeRecommendedMinRate device }
  else device

theorem refreshMinAcceptableRate_eq (device : Device) :
    ∃ minAcceptableRate, refreshMinAcceptableRate device =
      { device with minAcceptableRate := minAcceptableRate } := by
  unfold refreshMinAcceptableRate
  split
  · exact ⟨_, rfl⟩
  · exact ⟨device.minAcceptableRate, rfl⟩

/-- The settings as the flash has them, with the defaults of missing keys. -/
def readAudioPrefs (device : Device) : Device :=
  let prefs := device.flash
  let ledMode := prefs.ledMode.getD 1
  { device with
    currentSampleRate := prefs.sampleRate.getD defaultSampleRate
    currentGainFactor := prefs.gainFactor.getD defaultGainFactor
    currentBufferSize := prefs.bufferSize.getD defaultBufferSize
    i2sShiftBits := 0
    autoRecoveryEnabled := prefs.autoRecovery.getD false
    scheduledResetEnabled := prefs.schedReset.getD false
    resetIntervalHours := prefs.resetHours.getD 24
    minAcceptableRate := prefs.minRate.getD 50
    performanceCheckInterval := prefs.checkInterval.getD 15
    autoThresholdEnabled := prefs.thrAuto.getD true
    cpuFrequencyMhz := prefs.cpuFreq.getD 160
    wifiTxPowerDbm := prefs.wifiTxDbm.getD defaultWifiTxDbm
    highpassEnabled := prefs.hpEnable.getD defaultHpfEnabled
    highpassCutoffHz := (prefs.hpCutoff.getD defaultHpfCutoffHz.toUInt32).toUInt16
    agcEnabled := prefs.agcEnable.getD false
    ledMode := if ledMode > 2 then 1 else ledMode
    overheatProtectionEnabled := prefs.ohEnable.getD defaultOverheatProtection
    overheatShutdownC :=
      (snapOverheatLimit
        (clampOverheatLimit (prefs.ohThresh.getD defaultOverheatLimitC))).toNat
    overheatLastReason := prefs.ohReason.getD ""
    overheatLastTimestamp := prefs.ohStamp.getD ""
    overheatTripTemp := prefs.ohTripC.getD 0
    overheatLatched := prefs.ohLatched.getD false }

def loadAudioSettings (device : Device) : Device :=
  let device := refreshMinAcceptableRate (readAudioPrefs device)
  if device.overheatLatched then { device with rtspServerEnabled := false } else device

def saveAudioSettings (device : Device) : Device :=
  let ohLimit :=
    clampOverheatLimit (UInt32.ofNat (device.overheatShutdownC + 1 / 2).floor.toNat)
  { device with
    flash :=
      { sampleRate := some device.currentSampleRate
        gainFactor := some device.currentGainFactor
        bufferSize := some device.currentBufferSize
        shiftBits := some device.i2sShiftBits
        autoRecovery := some device.autoRecoveryEnabled
        schedReset := some device.scheduledResetEnabled
        resetHours := some device.resetIntervalHours
        minRate := some device.minAcceptableRate
        checkInterval := some device.performanceCheckInterval
        thrAuto := some device.autoThresholdEnabled
        cpuFreq := some device.cpuFrequencyMhz
        wifiTxDbm := some device.wifiTxPowerDbm
        hpEnable := some device.highpassEnabled
        hpCutoff := some device.highpassCutoffHz.toUInt32
        agcEnable := some device.agcEnabled
        ledMode := some device.ledMode
        ohEnable := some device.overheatProtectionEnabled
        ohThresh := some ohLimit
        ohReason := some device.overheatLastReason
        ohStamp := some device.overheatLastTimestamp
        ohTripC := some device.overheatTripTemp
        ohLatched := some device.overheatLatched } }

/-- The factory defaults, saved at once. -/
def resetToDefaultSettings (device : Device) : Device :=
  let device := { device with flash := AudioPrefs.empty }
  let device :=
    { device with
      currentSampleRate := defaultSampleRate
      currentGainFactor := defaultGainFactor
      currentBufferSize := defaultBufferSize
      i2sShiftBits := 0
      autoRecoveryEnabled := false
      autoThresholdEnabled := true
      scheduledResetEnabled := false
      resetIntervalHours := 24 }
  let device :=
    { device with
      minAcceptableRate := computeRecommendedMinRate device
      performanceCheckInterval := 15
      cpuFrequencyMhz := 160
      wifiTxPowerDbm := defaultWifiTxDbm
      highpassEnabled := defaultHpfEnabled
      highpassCutoffHz := defaultHpfCutoffHz
      agcEnabled := false
      agcMultiplier := 1
      ledMode := 1
      overheatProtectionEnabled := defaultOverheatProtection
      overheatShutdownC := defaultOverheatLimitC.toNat
      overheatLockoutActive := false
      overheatTripTemp := 0
      overheatTriggeredAt := 0
      overheatLastReason := ""
      overheatLastTimestamp := ""
      overheatSensorFault := false
      overheatLatched := false
      lastTemperatureC := 0
      lastTemperatureValid := false
      isStreaming := false }
  saveAudioSettings device

/-- `restartI2S` as one step of Core 0: the stream is stopped, and resumed
when the client is still connected. -/
def restartI2S (clientConnected : Bool) (device : Device) : Device :=
  let wasStreaming := device.isStreaming
  let device := { device with isStreaming := false }
  if wasStreaming && clientConnected then { device with isStreaming := true }
  else device

/-! ## `/api/set` -/

inductive SettingKey where
  | gain
  | rate
  | buffer
  | wifi_tx
  | auto_recovery
  | thr_mode
  | min_rate
  | check_interval
  | sched_reset
  | reset_hours
  | cpu_freq
  | hp_enable
  | hp_cutoff
  | agc_enable
  | led_mode
  | oh_enable
  | oh_limit
  deriving DecidableEq

/-- The key of a request.  Keys of the WireGuard manager and unknown keys
change nothing here. -/
def SettingKey.ofText : String → Option SettingKey
  | "gain" => some .gain
  | "rate" => some .rate
  | "buffer" => some .buffer
  | "wifi_tx" => some .wifi_tx
  | "auto_recovery" => some .auto_recovery
  | "thr_mode" => some .thr_mode
  | "min_rate" => some .min_rate
  | "check_interval" => some .check_interval
  | "sched_reset" => some .sched_reset
  | "reset_hours" => some .reset_hours
  | "cpu_freq" => some .cpu_freq
  | "hp_enable" => some .hp_enable
  | "hp_cutoff" => some .hp_cutoff
  | "agc_enable" => some .agc_enable
  | "led_mode" => some .led_mode
  | "oh_enable" => some .oh_enable
  | "oh_limit" => some .oh_limit
  | _ => none

/-- `String::toInt`. -/
def toInt (text : String) : Int :=
  atoi (text.toList.flatMap String.utf8EncodeChar)

def argToUInt (value : Option String) : Option UInt32 :=
  value.map fun text => UInt32.ofInt (toInt text)

def argToUShort (value : Option String) : Option UInt16 :=
  value.map fun text => UInt16.ofInt (toInt text)

/-- A request for a number: `assign` it when it lies in the range. -/
def setUInt (value : Option String) (low high : UInt32)
    (assign : UInt32 → Device → Device) (device : Device) : Device :=
  match argToUInt value with
  | none => device
  | some v => if v ≥ low ∧ v ≤ high then assign v device else device

def setUShort (value : Option String) (low high : UInt16)
    (assign : UInt16 → Device → Device) (device : Device) : Device :=
  match argToUShort value with
  | none => device
  | some v => if v ≥ low ∧ v ≤ high then assign v device else device

/-- A request for a float.  `toFloat` reads the text, with `none` for what is
no number or not finite and so fails every comparison. -/
def setFloat (toFloat : String → Option Rat) (value : Option String)
    (low high : Rat) (assign : Rat → Device → Device) (device : Device) : Device :=
  match value.bind toFloat with
  | none => device
  | some v => if v ≥ low ∧ v ≤ high then assign v device else device

/-- A request for a switch. -/
def setSwitch (value : Option String) (assign : Bool → Device → Device)
    (device : Device) : Device :=
  if value = some "on" then assign true device
  else if value = some "off" then assign false device
  else device

/-! ### What a request leaves

A request either keeps the device as it is or assigns a value in the range,
so a property of both holds afterwards. -/

section Requests

variable {property : Device → Prop} {device : Device} (value : Option String)

theorem property_setUInt {low high : UInt32} {assign : UInt32 → Device → Device}
    (same : property device)
    (assigned : ∀ v, low ≤ v → v ≤ high → property (assign v device)) :
    property (setUInt value low high assign device) := by
  unfold setUInt
  split
  · exact same
  · split
    · rename_i inRange
      exact assigned _ inRange.1 inRange.2
    · exact same

theorem property_setUShort {low high : UInt16} {assign : UInt16 → Device → Device}
    (same : property device)
    (assigned : ∀ v, low ≤ v → v ≤ high → property (assign v device)) :
    property (setUShort value low high assign device) := by
  unfold setUShort
  split
  · exact same
  · split
    · rename_i inRange
      exact assigned _ inRange.1 inRange.2
    · exact same

theorem property_setFloat (toFloat : String → Option Rat) {low high : Rat}
    {assign : Rat → Device → Device} (same : property device)
    (assigned : ∀ v, low ≤ v → v ≤ high → property (assign v device)) :
    property (setFloat toFloat value low high assign device) := by
  unfold setFloat
  split
  · exact same
  · split
    · rename_i inRange
      exact assigned _ inRange.1 inRange.2
    · exact same

theorem property_setSwitch {assign : Bool → Device → Device} (same : property device)
    (assigned : ∀ v, property (assign v device)) :
    property (setSwitch value assign device) := by
  unfold setSwitch
  split
  · exact assigned true
  · split
    · exact assigned false
    · exact same

end Requests

/-- The nearest supported transmission power, the lower one of two. -/
def snapWifiTxDbm (dbm : Rat) : Rat :=
  [2, 5, 7, 17 / 2, 11, 13, 15, 17, 37 / 2, 19, 39 / 2].foldl
    (fun best candidate =>
      if (dbm - candidate).abs < (dbm - best).abs then candidate else best) (-1)

/-- The assignments of one accepted request, key by key. -/
def applySetting (toFloat : String → Option Rat) (clientConnected : Bool)
    (value : Option String) : SettingKey → Device → Device
  | .gain => setFloat toFloat value (1 / 10) 100 fun v device =>
      restartI2S clientConnected
        (saveAudioSettings { device with currentGainFactor := v })
  | .rate => setUInt value 8000 96000 fun v device =>
      restartI2S clientConnected
        (saveAudioSettings
          (refreshMinAcceptableRate { device with currentSampleRate := v }))
  | .buffer => setUShort value 256 8192 fun v device =>
      restartI2S clientConnected
        (saveAudioSettings
          (refreshMinAcceptableRate { device with currentBufferSize := v }))
  | .wifi_tx => setFloat toFloat value (-1) (39 / 2) fun v device =>
      saveAudioSettings { device with wifiTxPowerDbm := snapWifiTxDbm v }
  | .auto_recovery => setSwitch value fun v device =>
      saveAudioSettings { device with autoRecoveryEnabled := v }
  | .thr_mode => fun device =>
      if value = some "auto" then
        saveAudioSettings
          (refreshMinAcceptableRate { device with autoThresholdEnabled := true })
      else if value = some "manual" then
        saveAudioSettings { device with autoThresholdEnabled := false }
      else device
  | .min_rate => setUInt value 5 200 fun v device =>
      saveAudioSettings { device with minAcceptableRate := v }
  | .check_interval => setUInt value 1 60 fun v device =>
      saveAudioSettings { device with performanceCheckInterval := v }
  | .sched_reset => setSwitch value fun v device =>
      saveAudioSettings { device with scheduledResetEnabled := v }
  | .reset_hours => setUInt value 1 168 fun v device =>
      saveAudioSettings { device with resetIntervalHours := v }
  | .cpu_freq => setUInt value 40 240 fun v device =>
      saveAudioSettings { device with cpuFrequencyMhz := v.toUInt8 }
  | .hp_enable => setSwitch value fun v device =>
      saveAudioSettings { device with highpassEnabled := v }
  | .hp_cutoff => setUInt value 10 10000 fun v device =>
      saveAudioSettings { device with highpassCutoffHz := v.toUInt16 }
  | .agc_enable => setSwitch value fun v device =>
      saveAudioSettings
        { device with
          agcEnabled := v
          agcMultiplier := if v then device.agcMultiplier else 1 }
  | .led_mode => setUInt value 0 2 fun v device =>
      saveAudioSettings { device with ledMode := v.toUInt8 }
  | .oh_enable => setSwitch value fun v device =>
      saveAudioSettings
        { device with
          overheatProtectionEnabled := v
          overheatLockoutActive := if v then device.overheatLockoutActive else false }
  | .oh_limit => setUInt value overheatMinLimitC overheatMaxLimitC fun v device =>
      saveAudioSettings
        { device with
          overheatShutdownC := (snapOverheatLimit v).toNat
          overheatLockoutActive := false }

def httpSet (toFloat : String → Option Rat) (clientConnected : Bool) (key : String)
    (value : Option String) (device : Device) : Device :=
  match SettingKey.ofText key with
  | none => device
  | some key => applySetting toFloat clientConnected value key device

end EchoMic
