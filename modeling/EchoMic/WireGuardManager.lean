import EchoMic.DeviceSettings
import EchoMic.EndpointResolution
import EchoMic.Splitting

/-!
# The WireGuard manager

The functions of the manager as whole steps of Core 0, with the texts they
print, the `wg` namespace they save to and the interface they begin and end.
The resolving task writes its results between any two accesses of Core 0 to
them.  This file proves that the interface, the reported state, the backoff
and the saved configuration fit together in every reachable state.
-/

namespace EchoMic

open GuardedRuns
open Splitting

/-! ## Addresses -/

structure IPAddress where
  first : UInt8
  second : UInt8
  third : UInt8
  fourth : UInt8
  deriving DecidableEq

def IPAddress.toString (ip : IPAddress) : String :=
  s!"{ip.first.toNat}.{ip.second.toNat}.{ip.third.toNat}.{ip.fourth.toNat}"

/-- The network mask of a prefix between 1 and 32. -/
def subnetMask (bits : Nat) : IPAddress :=
  let m : UInt32 := if bits = 32 then 0xFFFFFFFF else ~~~((1 <<< UInt32.ofNat (32 - bits)) - 1)
  ⟨(m >>> 24).toUInt8, (m >>> 16).toUInt8, (m >>> 8).toUInt8, m.toUInt8⟩

/-- `fromString` is `IPAddress::fromString` of the platform. -/
def parseTunnelAddress (fromString : String → Option IPAddress) (cidr : String) :
    Option (IPAddress × IPAddress) :=
  match splitFirst '/' cidr.toList with
  | none => none
  | some (ipStr, afterSlash) =>
      let bits := toInt (String.ofList afterSlash)
      if bits < 1 ∨ bits > 32 then none
      else (fromString (String.ofList ipStr)).map fun ip => (ip, subnetMask bits.toNat)

/-! ## Data -/

structure WgConfig where
  enabled : Bool
  privateKey : String
  serverPublicKey : String
  endpointHost : String
  endpointPort : UInt16
  tunnelAddress : String
  keepalive : UInt16
  deriving DecidableEq

/-- The configuration that `wg_clear` leaves. -/
def WgConfig.cleared : WgConfig where
  enabled := false
  privateKey := ""
  serverPublicKey := ""
  endpointHost := ""
  endpointPort := 51820
  tunnelAddress := ""
  keepalive := 25

/-- The `wg` namespace of the flash. -/
structure WgPrefs where
  en : Option Bool
  priv : Option String
  srvpub : Option String
  endhost : Option String
  endport : Option UInt16
  tunaddr : Option String
  keepalive : Option UInt16
  deriving DecidableEq

def WgPrefs.empty : WgPrefs where
  en := none
  priv := none
  srvpub := none
  endhost := none
  endport := none
  tunaddr := none
  keepalive := none

/-- The arguments of `WireGuard::begin`, apart from the gateway 0.0.0.0. -/
structure TunnelArguments where
  localIP : IPAddress
  subnet : IPAddress
  privateKey : String
  remotePeerAddress : String
  remotePeerPublicKey : String
  remotePeerPort : UInt16
  persistentKeepalive : UInt16
  deriving DecidableEq

/-- What the manager prints. -/
inductive WgLine where
  | configLoaded (enabled : Bool)
  | invalidTunnelAddress (addr : String)
  | startingTunnel (host resolvedIP : String) (port : UInt16)
  | tunnelIP (ip : IPAddress)
  | interfaceCreated
  | interfaceFailed
  | cancelled (reason : String)
  | resolutionFailed
  | resolving (host : String)
  | dnsTaskFailed
  | tunnelStopped
  | tunnelUp
  | tunnelDown
  | reconnecting
  | enabledSet (en : Bool)
  | configCleared
  deriving DecidableEq

def WgLine.text : WgLine → String
  | .configLoaded enabled =>
      if enabled then "WG: config loaded (enabled)" else "WG: config loaded (disabled)"
  | .invalidTunnelAddress addr => "WG: invalid tunnel address: " ++ addr
  | .startingTunnel host resolvedIP port =>
      "WG: starting tunnel to " ++ host ++ " (" ++ resolvedIP ++ "):" ++
        toString port.toNat
  | .tunnelIP ip => "WG: tunnel IP " ++ ip.toString
  | .interfaceCreated => "WG: tunnel interface created, connecting..."
  | .interfaceFailed => "WG: failed to create tunnel interface"
  | .cancelled reason => "WG: " ++ reason ++ " — DNS cancelled"
  | .resolutionFailed => "WG: endpoint resolution failed, backing off"
  | .resolving host => "WG: resolving endpoint " ++ host ++ " ..."
  | .dnsTaskFailed => "WG: failed to create DNS task"
  | .tunnelStopped => "WG: tunnel stopped"
  | .tunnelUp => "WG: tunnel UP"
  | .tunnelDown => "WG: tunnel DOWN, will retry"
  | .reconnecting => "WG: reconnecting..."
  | .enabledSet en => "WG: " ++ (if en then "enabled" else "disabled")
  | .configCleared => "WG: config cleared"

/-- The variables of the manager, its namespace of the flash, the interface
while it is initialized, and the lines that were printed. -/
structure WireGuardState where
  config : WgConfig
  prefs : WgPrefs
  tunnel : Option TunnelArguments
  state : WgState
  lastAttemptMs : UInt32
  backoffMs : UInt32
  wasUp : Bool
  dnsTaskHandle : Bool
  resolvedEndpointIP : String
  dnsDone : Bool
  dnsFailed : Bool
  dnsGeneration : UInt8
  printed : List WgLine
  deriving DecidableEq

/-- What the resolving task has written since the last access of Core 0: it
ends with clearing its handle, and never takes back a result. -/
structure DnsUpdate where
  resolved : Option String
  done : Bool
  failed : Option Bool
  ended : Bool
  deriving DecidableEq

/-- The accesses of Core 0 to the variables of the resolving task. -/
inductive DnsAccess where
  | testHandle
  | cancel
  | stopCancel
  | tickDone
  | tickFailed
  | tickHandle
  | beginHandle
  | createdHandle
  deriving DecidableEq

/-- What the outside answers to an operation: the clock, WiFi, the time since
boot, whether the task is created, whether the tunnel begins, whether the
peer is up, and what the resolving task does meanwhile. -/
structure WgOutside where
  now : Int
  wifiConnected : Bool
  millis : Nat
  created : Bool
  begins : Bool
  peerUp : Bool
  dns : DnsAccess → DnsUpdate

namespace WireGuardState

def dnsRuns (update : DnsUpdate) (wg : WireGuardState) : WireGuardState :=
  { wg with
    resolvedEndpointIP := update.resolved.getD wg.resolvedEndpointIP
    dnsDone := wg.dnsDone || update.done
    dnsFailed := update.failed.getD wg.dnsFailed
    dnsTaskHandle := wg.dnsTaskHandle && !update.ended }

def print (line : WgLine) (wg : WireGuardState) : WireGuardState :=
  { wg with printed := wg.printed ++ [line] }

/-- `if (s_backoffMs < 30000) s_backoffMs += 5000`. -/
def raiseBackoff (wg : WireGuardState) : WireGuardState :=
  { wg with backoffMs := if wg.backoffMs < 30000 then wg.backoffMs + 5000 else wg.backoffMs }

end WireGuardState

/-- `millis()` on the target. -/
def WgOutside.millis32 (outside : WgOutside) : UInt32 :=
  UInt32.ofNat outside.millis

open WireGuardState

/-! ## Loading and saving -/

def WgPrefs.config (prefs : WgPrefs) : WgConfig where
  enabled := prefs.en.getD false
  privateKey := prefs.priv.getD ""
  serverPublicKey := prefs.srvpub.getD ""
  endpointHost := prefs.endhost.getD ""
  endpointPort := prefs.endport.getD 51820
  tunnelAddress := prefs.tunaddr.getD ""
  keepalive := prefs.keepalive.getD 25

/-- The initial values of the variables, with what the flash holds. -/
def WireGuardState.powerOn (prefs : WgPrefs) : WireGuardState where
  config := WgConfig.cleared
  prefs := prefs
  tunnel := none
  state := .disabled
  lastAttemptMs := 0
  backoffMs := 5000
  wasUp := false
  dnsTaskHandle := false
  resolvedEndpointIP := ""
  dnsDone := false
  dnsFailed := false
  dnsGeneration := 0
  printed := []

def wgLoad (wg : WireGuardState) : WireGuardState :=
  let wg := { wg with config := wg.prefs.config }
  print (.configLoaded wg.config.enabled)
    { wg with state := if wg.config.enabled then .waitTime else .disabled }

def wgSave (wg : WireGuardState) : WireGuardState :=
  { wg with
    prefs :=
      { en := some wg.config.enabled
        priv := some wg.config.privateKey
        srvpub := some wg.config.serverPublicKey
        endhost := some wg.config.endpointHost
        endport := some wg.config.endpointPort
        tunaddr := some wg.config.tunnelAddress
        keepalive := some wg.config.keepalive } }

/-! ## Cancelling and stopping -/

def cancelDNS (update : DnsUpdate) (reason : String) (wg : WireGuardState) : WireGuardState :=
  let wg := wg.dnsRuns update
  if wg.dnsTaskHandle then
    print (.cancelled reason) { wg with dnsGeneration := wg.dnsGeneration + 1 }
  else
    { wg with
      dnsDone := false
      dnsFailed := false
      resolvedEndpointIP := "" }

/-- `if (s_dnsTaskHandle != NULL) _cancelDNS(reason)`. -/
def cancelIfResolving (outside : WgOutside) (reason : String) (wg : WireGuardState) :
    WireGuardState :=
  let wg := wg.dnsRuns (outside.dns .testHandle)
  if wg.dnsTaskHandle then cancelDNS (outside.dns .cancel) reason wg else wg

def endTunnel (wg : WireGuardState) : WireGuardState :=
  if wg.tunnel.isSome then print .tunnelStopped { wg with tunnel := none } else wg

def wgStop (outside : WgOutside) (wg : WireGuardState) : WireGuardState :=
  let wg := endTunnel (cancelDNS (outside.dns .stopCancel) "stop" wg)
  { wg with
    state := if wg.config.enabled then .waitTime else .disabled
    wasUp := false }

/-- `if (s_wg.is_initialized()) wg_stop()`. -/
def stopIfInitialized (outside : WgOutside) (wg : WireGuardState) : WireGuardState :=
  if wg.tunnel.isSome then wgStop outside wg else wg

/-! ## Starting the tunnel -/

section Address

variable (fromString : String → Option IPAddress)

def startTunnelWithIP (outside : WgOutside) (resolvedIP : String) (wg : WireGuardState) :
    WireGuardState :=
  match parseTunnelAddress fromString wg.config.tunnelAddress with
  | none => print (.invalidTunnelAddress wg.config.tunnelAddress) wg
  | some (ip, mask) =>
      let wg := print (.tunnelIP ip)
        (print (.startingTunnel wg.config.endpointHost resolvedIP wg.config.endpointPort) wg)
      if outside.begins then
        print .interfaceCreated
          { wg with
            tunnel := some
              { localIP := ip
                subnet := mask
                privateKey := wg.config.privateKey
                remotePeerAddress := resolvedIP
                remotePeerPublicKey := wg.config.serverPublicKey
                remotePeerPort := wg.config.endpointPort
                persistentKeepalive := wg.config.keepalive }
            lastAttemptMs := outside.millis32 }
      else
        print .interfaceFailed (raiseBackoff { wg with lastAttemptMs := outside.millis32 })

/-- The part of `wg_begin` that takes a finished resolution. -/
def takeResolution (outside : WgOutside) (wg : WireGuardState) : WireGuardState :=
  let failed := wg.dnsFailed
  let ip := wg.resolvedEndpointIP
  let wg :=
    { wg with
      dnsDone := false
      dnsFailed := false
      resolvedEndpointIP := "" }
  if failed || ip = "" then
    print .resolutionFailed (raiseBackoff { wg with lastAttemptMs := outside.millis32 })
  else startTunnelWithIP fromString outside ip wg

/-- The part of `wg_begin` that creates the resolving task. -/
def startResolution (outside : WgOutside) (wg : WireGuardState) : WireGuardState :=
  let wg := print (.resolving wg.config.endpointHost) wg
  let wg :=
    { wg with
      dnsGeneration := wg.dnsGeneration + 1
      dnsTaskHandle := outside.created }
  let wg := wg.dnsRuns (outside.dns .createdHandle)
  let wg :=
    if wg.dnsTaskHandle then wg
    else print .dnsTaskFailed { wg with lastAttemptMs := outside.millis32 }
  { wg with state := .connecting }

def wgBegin (outside : WgOutside) (wg : WireGuardState) : WireGuardState :=
  if wg.tunnel.isSome then wg
  else if wg.config.privateKey = "" ∨ wg.config.serverPublicKey = "" then wg
  else if wg.config.endpointHost = "" then wg
  else if wg.config.tunnelAddress = "" then wg
  else
    let wg := wg.dnsRuns (outside.dns .beginHandle)
    if wg.dnsTaskHandle then wg
    else if wg.dnsDone then takeResolution fromString outside wg
    else startResolution outside wg

/-! ## The tick -/

/-- The part of `wg_tick` without an interface. -/
def awaitTunnel (outside : WgOutside) (wg : WireGuardState) : WireGuardState :=
  let tested := wg.dnsRuns (outside.dns .tickDone)
  let wg := tested.dnsRuns (outside.dns .tickFailed)
  if tested.dnsDone && !wg.dnsFailed then wgBegin fromString outside wg
  else
    let wg := wg.dnsRuns (outside.dns .tickHandle)
    if wg.dnsTaskHandle then { wg with state := .connecting }
    else if outside.millis32 - wg.lastAttemptMs < wg.backoffMs then wg
    else wgBegin fromString outside wg

/-- The part of `wg_tick` that monitors the peer. -/
def watchPeer (outside : WgOutside) (wg : WireGuardState) : WireGuardState :=
  if outside.peerUp then
    let wg :=
      if wg.wasUp then wg
      else
        print .tunnelUp
          { wg with
            wasUp := true
            backoffMs := 5000 }
    { wg with state := .up }
  else
    let wg := if wg.wasUp then print .tunnelDown { wg with wasUp := false } else wg
    let wg := { wg with state := .connecting }
    if outside.millis32 - wg.lastAttemptMs > 30000 then
      let wg := wgStop outside (print .reconnecting wg)
      raiseBackoff { wg with lastAttemptMs := outside.millis32 }
    else wg

def wgTick (outside : WgOutside) (wg : WireGuardState) : WireGuardState :=
  if !wg.config.enabled then
    let wg :=
      if wg.state ≠ .disabled then
        stopIfInitialized outside (cancelIfResolving outside "disable" wg)
      else wg
    { wg with state := .disabled }
  else if outside.now < 100000 then
    if wg.state = .waitTime then wg
    else
      stopIfInitialized outside
        (cancelIfResolving outside "waiting_time" { wg with state := .waitTime })
  else if !outside.wifiConnected then
    let wg := stopIfInitialized outside (cancelIfResolving outside "waiting_wifi" wg)
    { wg with state := .waitWifi }
  else if wg.tunnel.isNone then awaitTunnel fromString outside wg
  else watchPeer outside wg

end Address

/-! ## The setters -/

def wgSetEnabled (en : Bool) (outside : WgOutside) (wg : WireGuardState) : WireGuardState :=
  let wg := wgSave { wg with config := { wg.config with enabled := en } }
  let wg :=
    if !en then wgStop outside (cancelIfResolving outside "enabled toggle off" wg)
    else
      { cancelDNS (outside.dns .cancel) "enabled toggle on" wg with
        state := .waitTime
        lastAttemptMs := 0 }
  print (.enabledSet en) wg

/-- Save a changed configuration, cancel the resolution and stop the tunnel. -/
def changeConfig (reason : String) (config : WgConfig) (outside : WgOutside)
    (wg : WireGuardState) : WireGuardState :=
  stopIfInitialized outside
    (cancelDNS (outside.dns .cancel) reason (wgSave { wg with config := config }))

def wgSetPrivateKey (key : String) (outside : WgOutside) (wg : WireGuardState) :
    WireGuardState :=
  changeConfig "private key changed" { wg.config with privateKey := key } outside wg

def wgSetServerPublicKey (key : String) (outside : WgOutside) (wg : WireGuardState) :
    WireGuardState :=
  changeConfig "server public key changed" { wg.config with serverPublicKey := key } outside wg

def wgSetEndpoint (host : String) (port : UInt16) (outside : WgOutside)
    (wg : WireGuardState) : WireGuardState :=
  changeConfig "endpoint changed"
    { wg.config with
      endpointHost := host
      endpointPort := port } outside wg

def wgSetTunnelAddress (addr : String) (outside : WgOutside) (wg : WireGuardState) :
    WireGuardState :=
  changeConfig "tunnel address changed" { wg.config with tunnelAddress := addr } outside wg

def wgSetKeepalive (seconds : UInt16) (outside : WgOutside) (wg : WireGuardState) :
    WireGuardState :=
  changeConfig "keepalive changed" { wg.config with keepalive := seconds } outside wg

def wgClear (outside : WgOutside) (wg : WireGuardState) : WireGuardState :=
  let wg := { wg with prefs := WgPrefs.empty }
  let wg := endTunnel (cancelIfResolving outside "clearing WG config" wg)
  print .configCleared
    { wg with
      config := WgConfig.cleared
      state := .disabled
      wasUp := false
      lastAttemptMs := 0
      backoffMs := 5000 }

/-! ## Runs -/

inductive WgCall where
  | tick
  | stop
  | setEnabled (en : Bool)
  | setPrivateKey (key : String)
  | setServerPublicKey (key : String)
  | setEndpoint (host : String) (port : UInt16)
  | setTunnelAddress (addr : String)
  | setKeepalive (seconds : UInt16)
  | clear
  deriving DecidableEq

def wgCall (fromString : String → Option IPAddress) (outside : WgOutside)
    (wg : WireGuardState) : WgCall → WireGuardState
  | .tick => wgTick fromString outside wg
  | .stop => wgStop outside wg
  | .setEnabled en => wgSetEnabled en outside wg
  | .setPrivateKey key => wgSetPrivateKey key outside wg
  | .setServerPublicKey key => wgSetServerPublicKey key outside wg
  | .setEndpoint host port => wgSetEndpoint host port outside wg
  | .setTunnelAddress addr => wgSetTunnelAddress addr outside wg
  | .setKeepalive seconds => wgSetKeepalive seconds outside wg
  | .clear => wgClear outside wg

/-- One call.  The lines of the call before are out of the way. -/
def wireGuardStep (fromString : String → Option IPAddress) (wg : WireGuardState)
    (event : WgOutside × WgCall) : Option WireGuardState :=
  some (wgCall fromString event.1 { wg with printed := [] } event.2)

/-! ## Coherence -/

/-- The interface was begun with the current configuration. -/
structure BegunWith (fromString : String → Option IPAddress) (config : WgConfig)
    (tunnel : TunnelArguments) : Prop where
  privateKey : tunnel.privateKey = config.privateKey
  serverPublicKey : tunnel.remotePeerPublicKey = config.serverPublicKey
  port : tunnel.remotePeerPort = config.endpointPort
  address : parseTunnelAddress fromString config.tunnelAddress =
    some (tunnel.localIP, tunnel.subnet)
  keepalive : tunnel.persistentKeepalive = config.keepalive

/-- A multiple of five seconds, up to thirty. -/
def BackoffStep (backoffMs : UInt32) : Prop :=
  backoffMs.toNat % 5000 = 0 ∧ 5000 ≤ backoffMs.toNat ∧ backoffMs.toNat ≤ 30000

structure WgCoherent (fromString : String → Option IPAddress) (wg : WireGuardState) :
    Prop where
  enabled : wg.tunnel.isSome = true → wg.config.enabled = true
  begun : ∀ tunnel, wg.tunnel = some tunnel → BegunWith fromString wg.config tunnel
  up : wg.state = .up → wg.tunnel.isSome = true
  wasUp : wg.wasUp = true → wg.tunnel.isSome = true
  backoff : BackoffStep wg.backoffMs
  persisted : wg.prefs.config = wg.config

theorem backoffStep_initial : BackoffStep 5000 :=
  ⟨by decide, by decide, by decide⟩

theorem backoffStep_raise {backoffMs : UInt32} (step : BackoffStep backoffMs) :
    BackoffStep (if backoffMs < 30000 then backoffMs + 5000 else backoffMs) := by
  obtain ⟨multiple, low, high⟩ := step
  split
  · rename_i below
    have belowNat : backoffMs.toNat < 30000 := UInt32.lt_iff_toNat_lt.mp below
    have sum : (backoffMs + 5000).toNat = backoffMs.toNat + 5000 := by
      rw [UInt32.toNat_add]
      exact Nat.mod_eq_of_lt (by simp; omega)
    refine ⟨?_, ?_, ?_⟩ <;> rw [sum] <;> omega
  · exact ⟨multiple, low, high⟩

/-- Every configuration is loaded as it was saved. -/
theorem config_wgSave (wg : WireGuardState) :
    (wgSave wg).prefs.config = (wgSave wg).config :=
  rfl

theorem config_empty : WgPrefs.empty.config = WgConfig.cleared :=
  rfl

/-- An operation on the resolution that leaves the tunnel alone. -/
structure KeepsTunnel (wg next : WireGuardState) : Prop where
  config : next.config = wg.config
  prefs : next.prefs = wg.prefs
  tunnel : next.tunnel = wg.tunnel
  state : next.state = wg.state
  backoffMs : next.backoffMs = wg.backoffMs
  wasUp : next.wasUp = wg.wasUp
  lastAttemptMs : next.lastAttemptMs = wg.lastAttemptMs

theorem KeepsTunnel.trans {wg middle next : WireGuardState} (first : KeepsTunnel wg middle)
    (second : KeepsTunnel middle next) : KeepsTunnel wg next where
  config := second.config.trans first.config
  prefs := second.prefs.trans first.prefs
  tunnel := second.tunnel.trans first.tunnel
  state := second.state.trans first.state
  backoffMs := second.backoffMs.trans first.backoffMs
  wasUp := second.wasUp.trans first.wasUp
  lastAttemptMs := second.lastAttemptMs.trans first.lastAttemptMs

theorem keepsTunnel_dnsRuns (update : DnsUpdate) (wg : WireGuardState) :
    KeepsTunnel wg (wg.dnsRuns update) :=
  ⟨rfl, rfl, rfl, rfl, rfl, rfl, rfl⟩

theorem keepsTunnel_print (line : WgLine) (wg : WireGuardState) :
    KeepsTunnel wg (wg.print line) :=
  ⟨rfl, rfl, rfl, rfl, rfl, rfl, rfl⟩

theorem keepsTunnel_cancelDNS (update : DnsUpdate) (reason : String) (wg : WireGuardState) :
    KeepsTunnel wg (cancelDNS update reason wg) := by
  simp only [cancelDNS]
  split
  · exact (keepsTunnel_dnsRuns update wg).trans ⟨rfl, rfl, rfl, rfl, rfl, rfl, rfl⟩
  · exact (keepsTunnel_dnsRuns update wg).trans ⟨rfl, rfl, rfl, rfl, rfl, rfl, rfl⟩

theorem keepsTunnel_cancelIfResolving (outside : WgOutside) (reason : String)
    (wg : WireGuardState) : KeepsTunnel wg (cancelIfResolving outside reason wg) := by
  simp only [cancelIfResolving]
  split
  · exact (keepsTunnel_dnsRuns _ wg).trans (keepsTunnel_cancelDNS _ _ _)
  · exact keepsTunnel_dnsRuns _ wg

/-- What a stop leaves of the manager. -/
structure TunnelEnded (wg next : WireGuardState) : Prop where
  config : next.config = wg.config
  prefs : next.prefs = wg.prefs
  tunnel : next.tunnel = none
  backoffMs : next.backoffMs = wg.backoffMs
  lastAttemptMs : next.lastAttemptMs = wg.lastAttemptMs

theorem endTunnel_spec (wg : WireGuardState) :
    TunnelEnded wg (endTunnel wg) ∧ (endTunnel wg).state = wg.state ∧
      (endTunnel wg).wasUp = wg.wasUp := by
  unfold endTunnel
  split
  · exact ⟨⟨rfl, rfl, rfl, rfl, rfl⟩, rfl, rfl⟩
  · rename_i none
    exact ⟨⟨rfl, rfl, by simpa using none, rfl, rfl⟩, rfl, rfl⟩

theorem wgStop_spec (outside : WgOutside) (wg : WireGuardState) :
    TunnelEnded wg (wgStop outside wg) ∧ (wgStop outside wg).state ≠ .up ∧
      (wgStop outside wg).wasUp = false := by
  have cancelled := keepsTunnel_cancelDNS (outside.dns .stopCancel) "stop" wg
  obtain ⟨ended, -, -⟩ := endTunnel_spec (cancelDNS (outside.dns .stopCancel) "stop" wg)
  refine ⟨⟨ended.config.trans cancelled.config, ended.prefs.trans cancelled.prefs,
    ended.tunnel, ended.backoffMs.trans cancelled.backoffMs,
    ended.lastAttemptMs.trans cancelled.lastAttemptMs⟩, ?_, rfl⟩
  simp only [wgStop]
  split <;> nofun

/-- A setter leaves the new configuration, in memory and in the flash. -/
theorem changeConfig_spec (reason : String) (config : WgConfig) (outside : WgOutside)
    (wg : WireGuardState) :
    (changeConfig reason config outside wg).config = config ∧
      (changeConfig reason config outside wg).prefs.config = config := by
  have cancelled := keepsTunnel_cancelDNS (outside.dns .cancel) reason
    (wgSave { wg with config := config })
  unfold changeConfig stopIfInitialized
  split
  · obtain ⟨ended, -, -⟩ := wgStop_spec outside
      (cancelDNS (outside.dns .cancel) reason (wgSave { wg with config := config }))
    exact ⟨ended.config.trans cancelled.config,
      congrArg WgPrefs.config (ended.prefs.trans cancelled.prefs)⟩
  · exact ⟨cancelled.config, congrArg WgPrefs.config cancelled.prefs⟩

section Coherence

variable {fromString : String → Option IPAddress} {wg next : WireGuardState}

theorem WgCoherent.keepsTunnel (coherent : WgCoherent fromString wg)
    (kept : KeepsTunnel wg next) : WgCoherent fromString next where
  enabled := by
    rw [kept.tunnel, kept.config]
    exact coherent.enabled
  begun := by
    rw [kept.tunnel, kept.config]
    exact coherent.begun
  up := by
    rw [kept.tunnel, kept.state]
    exact coherent.up
  wasUp := by
    rw [kept.tunnel, kept.wasUp]
    exact coherent.wasUp
  backoff := by
    rw [kept.backoffMs]
    exact coherent.backoff
  persisted := by
    rw [kept.prefs, kept.config]
    exact coherent.persisted

/-- Without an interface, only the reported state, the backoff and the saved
configuration matter. -/
theorem wgCoherent_of_noTunnel (noTunnel : wg.tunnel = none) (notUp : wg.state ≠ .up)
    (wasNotUp : wg.wasUp = false) (backoff : BackoffStep wg.backoffMs)
    (persisted : wg.prefs.config = wg.config) : WgCoherent fromString wg where
  enabled := by
    rw [noTunnel]
    nofun
  begun := by
    rw [noTunnel]
    nofun
  up := fun up => absurd up notUp
  wasUp := by
    rw [wasNotUp]
    nofun
  backoff := backoff
  persisted := persisted

/-- A configuration that has been saved is coherent once the tunnel is
stopped. -/
theorem wgCoherent_wgStop (outside : WgOutside) (backoff : BackoffStep wg.backoffMs)
    (persisted : wg.prefs.config = wg.config) :
    WgCoherent fromString (wgStop outside wg) := by
  obtain ⟨ended, notUp, wasNotUp⟩ := wgStop_spec outside wg
  apply wgCoherent_of_noTunnel ended.tunnel notUp wasNotUp
  · rw [ended.backoffMs]
    exact backoff
  · rw [ended.prefs, ended.config]
    exact persisted

theorem WgCoherent.stopIfInitialized (coherent : WgCoherent fromString wg)
    (outside : WgOutside) : WgCoherent fromString (stopIfInitialized outside wg) := by
  unfold EchoMic.stopIfInitialized
  split
  · exact wgCoherent_wgStop outside coherent.backoff coherent.persisted
  · exact coherent

/-- Every state but `up` may be reported whether or not there is a tunnel. -/
theorem WgCoherent.withState (coherent : WgCoherent fromString wg) {state : WgState}
    (notUp : state ≠ .up) : WgCoherent fromString { wg with state := state } where
  enabled := coherent.enabled
  begun := coherent.begun
  up := fun up => absurd up notUp
  wasUp := coherent.wasUp
  backoff := coherent.backoff
  persisted := coherent.persisted

/-- A failed attempt is noted in the backoff and in the time. -/
theorem WgCoherent.raiseBackoff (coherent : WgCoherent fromString wg)
    (lastAttemptMs : UInt32) :
    WgCoherent fromString (raiseBackoff { wg with lastAttemptMs := lastAttemptMs }) where
  enabled := coherent.enabled
  begun := coherent.begun
  up := coherent.up
  wasUp := coherent.wasUp
  backoff := backoffStep_raise coherent.backoff
  persisted := coherent.persisted

theorem wgCoherent_startTunnelWithIP (coherent : WgCoherent fromString wg)
    (enabled : wg.config.enabled = true) (outside : WgOutside) (resolvedIP : String) :
    WgCoherent fromString (startTunnelWithIP fromString outside resolvedIP wg) := by
  cases address : parseTunnelAddress fromString wg.config.tunnelAddress with
  | none =>
      simp only [startTunnelWithIP, address]
      exact coherent.keepsTunnel (keepsTunnel_print _ wg)
  | some parsed =>
      obtain ⟨ip, mask⟩ := parsed
      simp only [startTunnelWithIP, address]
      split
      · refine ⟨fun _ => enabled, ?_, fun _ => rfl, fun _ => rfl, coherent.backoff,
          coherent.persisted⟩
        rintro tunnel begun
        cases begun
        exact ⟨rfl, rfl, rfl, address, rfl⟩
      · have printed : WgCoherent fromString
            (print (.tunnelIP ip)
              (print (.startingTunnel wg.config.endpointHost resolvedIP wg.config.endpointPort)
                wg)) :=
          coherent.keepsTunnel ((keepsTunnel_print _ wg).trans (keepsTunnel_print _ _))
        exact (printed.raiseBackoff outside.millis32).keepsTunnel (keepsTunnel_print _ _)

theorem wgCoherent_takeResolution (coherent : WgCoherent fromString wg)
    (enabled : wg.config.enabled = true) (outside : WgOutside) :
    WgCoherent fromString (takeResolution fromString outside wg) := by
  have cleared : WgCoherent fromString
      { wg with
        dnsDone := false
        dnsFailed := false
        resolvedEndpointIP := "" } :=
    coherent.keepsTunnel ⟨rfl, rfl, rfl, rfl, rfl, rfl, rfl⟩
  simp only [takeResolution]
  split
  · exact (cleared.raiseBackoff outside.millis32).keepsTunnel (keepsTunnel_print _ _)
  · exact wgCoherent_startTunnelWithIP cleared enabled outside _

/-- The resolution runs without an interface. -/
theorem wgCoherent_startResolution (coherent : WgCoherent fromString wg)
    (noTunnel : wg.tunnel = none) (outside : WgOutside) :
    WgCoherent fromString (startResolution outside wg) := by
  have wasNotUp : wg.wasUp = false := by
    refine Bool.of_not_eq_true fun was => ?_
    have impossible := coherent.wasUp was
    rw [noTunnel] at impossible
    cases impossible
  simp only [startResolution]
  split
  · exact wgCoherent_of_noTunnel noTunnel nofun wasNotUp coherent.backoff coherent.persisted
  · exact wgCoherent_of_noTunnel noTunnel nofun wasNotUp coherent.backoff coherent.persisted

theorem wgCoherent_wgBegin (coherent : WgCoherent fromString wg)
    (enabled : wg.config.enabled = true) (outside : WgOutside) :
    WgCoherent fromString (wgBegin fromString outside wg) := by
  have updated := coherent.keepsTunnel (keepsTunnel_dnsRuns (outside.dns .beginHandle) wg)
  unfold wgBegin
  split
  · exact coherent
  rename_i noTunnel
  simp only
  (repeat' split) <;> first
    | exact coherent
    | exact updated
    | exact wgCoherent_takeResolution updated enabled outside
    | exact wgCoherent_startResolution updated (by simpa [dnsRuns] using noTunnel) outside

theorem wgCoherent_awaitTunnel (coherent : WgCoherent fromString wg)
    (enabled : wg.config.enabled = true) (outside : WgOutside) :
    WgCoherent fromString (awaitTunnel fromString outside wg) := by
  have tested := coherent.keepsTunnel
    ((keepsTunnel_dnsRuns (outside.dns .tickDone) wg).trans
      (keepsTunnel_dnsRuns (outside.dns .tickFailed) _))
  have handled := tested.keepsTunnel (keepsTunnel_dnsRuns (outside.dns .tickHandle) _)
  simp only [awaitTunnel]
  (repeat' split)
  · exact wgCoherent_wgBegin tested enabled outside
  · exact handled.withState nofun
  · exact handled
  · exact wgCoherent_wgBegin handled enabled outside

theorem wgCoherent_watchPeer (coherent : WgCoherent fromString wg)
    (hasTunnel : wg.tunnel.isSome = true) (outside : WgOutside) :
    WgCoherent fromString (watchPeer outside wg) := by
  simp only [watchPeer]
  split
  · -- The peer is up.
    split
    · exact ⟨coherent.enabled, coherent.begun, fun _ => hasTunnel, coherent.wasUp,
        coherent.backoff, coherent.persisted⟩
    · exact ⟨coherent.enabled, coherent.begun, fun _ => hasTunnel, fun _ => hasTunnel,
        backoffStep_initial, coherent.persisted⟩
  · have down (wasUp : Bool) (printed : List WgLine) : WgCoherent fromString
        { wg with
          state := .connecting
          wasUp := wasUp
          printed := printed } :=
      ⟨coherent.enabled, coherent.begun, nofun, fun _ => hasTunnel, coherent.backoff,
        coherent.persisted⟩
    have reconnects (stopping : WireGuardState) (backoff : BackoffStep stopping.backoffMs)
        (persisted : stopping.prefs.config = stopping.config) (lastAttemptMs : UInt32) :
        WgCoherent fromString
          (EchoMic.WireGuardState.raiseBackoff
            { wgStop outside stopping with lastAttemptMs := lastAttemptMs }) :=
      (wgCoherent_wgStop outside backoff persisted).raiseBackoff lastAttemptMs
    split
    · split
      · apply reconnects
        · exact coherent.backoff
        · exact coherent.persisted
      · exact down false _
    · split
      · apply reconnects
        · exact coherent.backoff
        · exact coherent.persisted
      · exact down wg.wasUp _

/-- Leaving the working states needs the tunnel stopped. -/
theorem wgCoherent_stopped (coherent : WgCoherent fromString wg) (outside : WgOutside)
    (reason : String) {state : WgState} (notUp : state ≠ .up) :
    WgCoherent fromString
      { stopIfInitialized outside (cancelIfResolving outside reason wg) with
        state := state } := by
  have stopped := (coherent.keepsTunnel
    (keepsTunnel_cancelIfResolving outside reason wg)).stopIfInitialized outside
  exact stopped.withState notUp

theorem wgCoherent_wgTick (coherent : WgCoherent fromString wg) (outside : WgOutside) :
    WgCoherent fromString (wgTick fromString outside wg) := by
  unfold wgTick
  split
  · -- Disabled.
    simp only
    split
    · exact wgCoherent_stopped coherent outside "disable" nofun
    · exact coherent.withState nofun
  rename_i enabled
  have enabled : wg.config.enabled = true := by simpa using enabled
  (repeat' split)
  · exact coherent
  · have waiting : WgCoherent fromString { wg with state := .waitTime } :=
      coherent.withState nofun
    exact (waiting.keepsTunnel
      (keepsTunnel_cancelIfResolving outside "waiting_time" _)).stopIfInitialized outside
  · exact wgCoherent_stopped coherent outside "waiting_wifi" nofun
  · exact wgCoherent_awaitTunnel coherent enabled outside
  · refine wgCoherent_watchPeer coherent ?_ outside
    cases tunnel : wg.tunnel with
    | none => simp_all
    | some tunnel => rfl

/-! ### The setters -/

/-- A cancelled resolution leaves the configuration as it was saved. -/
theorem persisted_of_saved (kept : KeepsTunnel (wgSave wg) next) :
    next.prefs.config = next.config := by
  rw [kept.prefs, kept.config]
  exact config_wgSave wg

theorem wgCoherent_changeConfig (coherent : WgCoherent fromString wg) (outside : WgOutside)
    (reason : String) (config : WgConfig) :
    WgCoherent fromString (changeConfig reason config outside wg) := by
  have cancelled := keepsTunnel_cancelDNS (outside.dns .cancel) reason
    (wgSave { wg with config := config })
  unfold changeConfig stopIfInitialized
  generalize cancelDNS (outside.dns .cancel) reason
    (wgSave { wg with config := config }) = saved at cancelled ⊢
  have backoff : BackoffStep saved.backoffMs := by
    rw [cancelled.backoffMs]
    exact coherent.backoff
  have persisted := persisted_of_saved cancelled
  split
  · exact wgCoherent_wgStop outside backoff persisted
  · rename_i noTunnel
    have before : ¬ wg.tunnel.isSome = true := by
      rw [cancelled.tunnel] at noTunnel
      exact noTunnel
    apply wgCoherent_of_noTunnel (by simpa using noTunnel) _ _ backoff persisted
    · rw [cancelled.state]
      exact fun up => before (coherent.up up)
    · rw [cancelled.wasUp]
      exact Bool.of_not_eq_true fun was => before (coherent.wasUp was)

theorem wgCoherent_wgSetEnabled (coherent : WgCoherent fromString wg)
    (outside : WgOutside) (en : Bool) :
    WgCoherent fromString (wgSetEnabled en outside wg) := by
  simp only [wgSetEnabled]
  cases en with
  | false =>
      have cancelled := keepsTunnel_cancelIfResolving outside "enabled toggle off"
        (wgSave { wg with config := { wg.config with enabled := false } })
      have backoff : BackoffStep
          (cancelIfResolving outside "enabled toggle off"
            (wgSave { wg with config := { wg.config with enabled := false } })).backoffMs := by
        rw [cancelled.backoffMs]
        exact coherent.backoff
      exact (wgCoherent_wgStop outside backoff (persisted_of_saved cancelled)).keepsTunnel
        (keepsTunnel_print _ _)
  | true =>
      have saved : WgCoherent fromString
          (wgSave { wg with config := { wg.config with enabled := true } }) := by
        refine ⟨fun _ => rfl, fun tunnel begun => ?_, coherent.up, coherent.wasUp,
          coherent.backoff, rfl⟩
        obtain ⟨privateKey, serverPublicKey, port, address, keepalive⟩ :=
          coherent.begun tunnel begun
        exact ⟨privateKey, serverPublicKey, port, address, keepalive⟩
      have cancelled := saved.keepsTunnel
        (keepsTunnel_cancelDNS (outside.dns .cancel) "enabled toggle on" _)
      exact ⟨cancelled.enabled, cancelled.begun, nofun, cancelled.wasUp, cancelled.backoff,
        cancelled.persisted⟩

/-- The cleared configuration is what the cleared namespace is loaded as. -/
theorem wgCoherent_wgClear (outside : WgOutside) (wg : WireGuardState) :
    WgCoherent fromString (wgClear outside wg) := by
  have cancelled := keepsTunnel_cancelIfResolving outside "clearing WG config"
    { wg with prefs := WgPrefs.empty }
  obtain ⟨ended, -, -⟩ := endTunnel_spec
    (cancelIfResolving outside "clearing WG config" { wg with prefs := WgPrefs.empty })
  refine wgCoherent_of_noTunnel ended.tunnel nofun rfl backoffStep_initial ?_
  exact (congrArg WgPrefs.config (ended.prefs.trans cancelled.prefs)).trans config_empty

theorem wgCoherent_wgCall (coherent : WgCoherent fromString wg) (outside : WgOutside)
    (call : WgCall) : WgCoherent fromString (wgCall fromString outside wg call) := by
  cases call with
  | tick => exact wgCoherent_wgTick coherent outside
  | stop => exact wgCoherent_wgStop outside coherent.backoff coherent.persisted
  | setEnabled en => exact wgCoherent_wgSetEnabled coherent outside en
  | setPrivateKey key => exact wgCoherent_changeConfig coherent outside _ _
  | setServerPublicKey key => exact wgCoherent_changeConfig coherent outside _ _
  | setEndpoint host port => exact wgCoherent_changeConfig coherent outside _ _
  | setTunnelAddress addr => exact wgCoherent_changeConfig coherent outside _ _
  | setKeepalive seconds => exact wgCoherent_changeConfig coherent outside _ _
  | clear => exact wgCoherent_wgClear outside wg

theorem wgCoherent_wgLoad (prefs : WgPrefs) :
    WgCoherent fromString (wgLoad (powerOn prefs)) := by
  refine wgCoherent_of_noTunnel rfl ?_ rfl backoffStep_initial rfl
  simp only [wgLoad, print]
  split <;> nofun

end Coherence

/-- The manager is coherent in every state that is reached from `wg_load` by
any sequence of calls. -/
theorem wgCoherent_of_run (fromString : String → Option IPAddress) (prefs : WgPrefs)
    (calls : List (WgOutside × WgCall)) (last : WireGuardState)
    (ran : run (wireGuardStep fromString) (wgLoad (powerOn prefs)) calls = some last) :
    WgCoherent fromString last := by
  refine invariant_of_run (fun wg event next coherent stepped => ?_)
    (wgCoherent_wgLoad prefs) ran
  cases stepped
  have cleared : WgCoherent fromString { wg with printed := [] } :=
    coherent.keepsTunnel ⟨rfl, rfl, rfl, rfl, rfl, rfl, rfl⟩
  exact wgCoherent_wgCall cleared event.1 event.2

def DnsUpdate.idle : DnsUpdate where
  resolved := none
  done := false
  failed := none
  ended := false

/-- The resolving task has answered and ended. -/
def DnsUpdate.answered (ip : String) : DnsUpdate where
  resolved := some ip
  done := true
  failed := some false
  ended := true

/-- The clock is set, WiFi is connected and everything that is tried
succeeds. -/
def WgOutside.working (millis : Nat) (update : DnsUpdate) : WgOutside where
  now := 1700000000
  wifiConnected := true
  millis := millis
  created := true
  begins := true
  peerUp := true
  dns := fun access => if access = .tickDone then update else DnsUpdate.idle

def storedPrefs (tunaddr : String) : WgPrefs where
  en := some true
  priv := some "private"
  srvpub := some "public"
  endhost := some "vpn.example"
  endport := none
  tunaddr := some tunaddr
  keepalive := none

def readTunnelIP (text : String) : Option IPAddress :=
  if text = "10.0.0.2" then some ⟨10, 0, 0, 2⟩ else none

/-- The endpoint is resolved, the tunnel begins and the peer answers. -/
def connecting : List (WgOutside × WgCall) :=
  [(.working 10000 .idle, .tick), (.working 10500 (.answered "192.0.2.1"), .tick),
    (.working 11000 .idle, .tick)]

theorem wgCoherent_connecting :
    ∃ last, run (wireGuardStep readTunnelIP) (wgLoad (powerOn (storedPrefs "10.0.0.2/24")))
        connecting = some last ∧
      last.state = .up ∧ WgCoherent readTunnelIP last :=
  ⟨_, rfl, rfl, wgCoherent_of_run readTunnelIP (storedPrefs "10.0.0.2/24") connecting _ rfl⟩

end EchoMic
