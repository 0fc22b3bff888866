import EchoMic.SavedSettings
import EchoMic.WireGuardManager

/-!
# The factory reset

The defaults are written in the declarations, in the fall-backs of the
loaders, in `resetToDefaultSettings` and in `wg_clear`.  This file proves
that all four agree: a device after a factory reset, before and after its
settings are loaded again, has the configuration of a device with an empty
flash.
-/

namespace EchoMic

open WireGuardState

/-- The two parts of the firmware that own a namespace of the flash. -/
structure Firmware where
  device : Device
  wg : WireGuardState
  deriving DecidableEq

namespace Firmware

/-- The initial values of all variables, with what the flash holds. -/
def powerOn (flash : AudioPrefs) (prefs : WgPrefs) : Firmware where
  device := Device.powerOn flash
  wg := WireGuardState.powerOn prefs

/-- `loadAudioSettings` and `wg_load`. -/
def load (firmware : Firmware) : Firmware where
  device := loadAudioSettings firmware.device
  wg := wgLoad firmware.wg

/-- `resetToDefaultSettings` calls `wg_clear` between the flash and the
variables, and the manager shares neither of them. -/
def resetToDefaultSettings (outside : WgOutside) (firmware : Firmware) : Firmware where
  device := EchoMic.resetToDefaultSettings firmware.device
  wg := wgClear outside firmware.wg

end Firmware

/-- The settings and the state of the thermal protection: everything but the
flash, the highest temperature, the time of the boot, and the server flag
that `setup` derives from the latch. -/
def Device.configuration (device : Device) : Device :=
  { device with
    flash := AudioPrefs.empty
    maxTemperature := 0
    bootTime := 0
    rtspServerEnabled := true }

/-- The configuration and the state of the tunnel: everything but the flash,
the variables of the resolving task and the printed lines. -/
def WireGuardState.configuration (wg : WireGuardState) : WireGuardState :=
  { wg with
    prefs := WgPrefs.empty
    dnsTaskHandle := false
    resolvedEndpointIP := ""
    dnsDone := false
    dnsFailed := false
    dnsGeneration := 0
    printed := [] }

def Firmware.configuration (firmware : Firmware) : Firmware where
  device := firmware.device.configuration
  wg := firmware.wg.configuration

/-- A device whose flash is empty, after its settings are loaded. -/
def Firmware.blank : Firmware :=
  (Firmware.powerOn AudioPrefs.empty WgPrefs.empty).load

/-! ## The device -/

/-- The reset assigns what an empty flash is loaded as. -/
theorem configuration_resetToDefaultSettings (device : Device) :
    (resetToDefaultSettings device).configuration =
      (loadAudioSettings (Device.powerOn AudioPrefs.empty)).configuration :=
  rfl

/-- The limit that the reset saves is rounded and clamped to itself. -/
theorem ohThresh_resetToDefaultSettings (device : Device) :
    (resetToDefaultSettings device).flash.ohThresh = some defaultOverheatLimitC := by
  have saved : (resetToDefaultSettings device).flash.ohThresh =
      some (clampOverheatLimit
        (UInt32.ofNat ((defaultOverheatLimitC.toNat : Rat) + 1 / 2).floor.toNat)) := rfl
  rw [saved, round_natCast]
  rfl

/-- The defaults are a fixed point of the loader. -/
theorem loadAudioSettings_resetToDefaultSettings (device : Device) :
    loadAudioSettings (resetToDefaultSettings device) = resetToDefaultSettings device := by
  have limit : (readAudioPrefs (resetToDefaultSettings device)).overheatShutdownC =
      (resetToDefaultSettings device).overheatShutdownC := by
    simp only [readAudioPrefs, ohThresh_resetToDefaultSettings, Option.getD_some]
    rfl
  have read : readAudioPrefs (resetToDefaultSettings device) =
      { resetToDefaultSettings device with
        overheatShutdownC :=
          (readAudioPrefs (resetToDefaultSettings device)).overheatShutdownC } := rfl
  rw [limit] at read
  unfold loadAudioSettings
  rw [read]
  rfl

/-- A boot with the flash of the reset finds the defaults in it. -/
theorem configuration_loadAudioSettings_reset (device : Device) :
    (loadAudioSettings (Device.powerOn (resetToDefaultSettings device).flash)).configuration =
      (resetToDefaultSettings device).configuration := by
  have limit :
      (readAudioPrefs (Device.powerOn (resetToDefaultSettings device).flash)).overheatShutdownC =
        (resetToDefaultSettings device).overheatShutdownC := by
    simp only [readAudioPrefs, Device.powerOn, ohThresh_resetToDefaultSettings,
      Option.getD_some]
    rfl
  have read : readAudioPrefs (Device.powerOn (resetToDefaultSettings device).flash) =
      { readAudioPrefs (Device.powerOn (resetToDefaultSettings device).flash) with
        overheatShutdownC :=
          (readAudioPrefs
            (Device.powerOn (resetToDefaultSettings device).flash)).overheatShutdownC } := rfl
  rw [limit] at read
  unfold loadAudioSettings
  rw [read]
  rfl

/-! ## The manager -/

theorem wgClear_spec (outside : WgOutside) (wg : WireGuardState) :
    (wgClear outside wg).tunnel = none ∧ (wgClear outside wg).prefs = WgPrefs.empty := by
  have cancelled := keepsTunnel_cancelIfResolving outside "clearing WG config"
    { wg with prefs := WgPrefs.empty }
  obtain ⟨ended, -, -⟩ := endTunnel_spec
    (cancelIfResolving outside "clearing WG config" { wg with prefs := WgPrefs.empty })
  exact ⟨ended.tunnel, ended.prefs.trans cancelled.prefs⟩

/-- `wg_clear` assigns what an empty namespace is loaded as. -/
theorem configuration_wgClear (outside : WgOutside) (wg : WireGuardState) :
    (wgClear outside wg).configuration =
      (wgLoad (WireGuardState.powerOn WgPrefs.empty)).configuration := by
  have read : (wgClear outside wg).configuration =
      { (wgClear outside wg).configuration with tunnel := (wgClear outside wg).tunnel } := rfl
  rw [read, (wgClear_spec outside wg).1]
  rfl

/-- The loader finds nothing in the cleared namespace. -/
theorem configuration_wgLoad_wgClear (outside : WgOutside) (wg : WireGuardState) :
    (wgLoad (wgClear outside wg)).configuration = (wgClear outside wg).configuration := by
  have empty : (wgClear outside wg).prefs.config = WgConfig.cleared := by
    rw [(wgClear_spec outside wg).2]
    rfl
  simp only [wgLoad, empty]
  rfl

theorem configuration_wgLoad_prefs (outside : WgOutside) (wg : WireGuardState) :
    (wgLoad (WireGuardState.powerOn (wgClear outside wg).prefs)).configuration =
      (wgLoad (WireGuardState.powerOn WgPrefs.empty)).configuration := by
  rw [(wgClear_spec outside wg).2]

/-! ## The whole firmware -/

/-- After a factory reset of any device the tunnel is not initialized, and
the configuration is that of a blank device: at once, when the settings are
loaded again, and when the next boot loads them. -/
theorem resetToDefaultSettings_eq_blank (outside : WgOutside) (firmware : Firmware) :
    let reset := firmware.resetToDefaultSettings outside
    reset.configuration = Firmware.blank.configuration ∧
      reset.wg.tunnel = none ∧
      reset.load.configuration = Firmware.blank.configuration ∧
      (Firmware.powerOn reset.device.flash reset.wg.prefs).load.configuration =
        Firmware.blank.configuration := by
  have device := configuration_resetToDefaultSettings firmware.device
  have wg := configuration_wgClear outside firmware.wg
  refine ⟨?_, (wgClear_spec outside firmware.wg).1, ?_, ?_⟩
  · exact congrArg₂ Firmware.mk device wg
  · refine congrArg₂ Firmware.mk ?_ ?_
    · have loaded := loadAudioSettings_resetToDefaultSettings firmware.device
      exact (congrArg Device.configuration loaded).trans device
    · exact (configuration_wgLoad_wgClear outside firmware.wg).trans wg
  · refine congrArg₂ Firmware.mk ?_ ?_
    · exact (configuration_loadAudioSettings_reset firmware.device).trans device
    · exact configuration_wgLoad_prefs outside firmware.wg

end EchoMic
