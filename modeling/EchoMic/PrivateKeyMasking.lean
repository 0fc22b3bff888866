import EchoMic.Masking
import EchoMic.ThermalLatch
import EchoMic.WireGuardSettings

/-!
# The private key stays inside the manager

The web interface over the manager: the log ring, the requests that reach the
manager, and the status it reports.  Masking the private key in the
configuration, in the flash, in the arguments of the interface and in the
requests changes no response and no log line of any run.
-/

namespace EchoMic

open Masking
open Splitting
open WireGuardState

/-! ## The log ring -/

def logCap : Nat := 80

structure LogRing where
  logBuffer : Nat → String
  logHead : Nat
  logCount : Nat

def LogRing.empty : LogRing where
  logBuffer := fun _ => ""
  logHead := 0
  logCount := 0

def webuiPushLog (line : String) (logs : LogRing) : LogRing where
  logBuffer := Function.update logs.logBuffer logs.logHead line
  logHead := (logs.logHead + 1) % logCap
  logCount := if logs.logCount < logCap then logs.logCount + 1 else logs.logCount

def httpLogs (logs : LogRing) : String :=
  String.join ((List.range logs.logCount).map fun i =>
    logs.logBuffer ((logs.logHead + logCap - logs.logCount + i) % logCap) ++ "\n")

/-- The lines of an operation, each behind the time stamp it got. -/
def pushLines (stamp : Nat → String) (lines : List WgLine) (logs : LogRing) : LogRing :=
  lines.zipIdx.foldl (fun logs line => webuiPushLog (stamp line.2 ++ line.1.text) logs) logs

/-! ## The status of the manager -/

def jsonEscape (s : String) : String :=
  String.ofList (s.toList.flatMap fun c =>
    if c = '"' ∨ c = '\\' then ['\\', c]
    else if c = '\n' then ['\\', 'n']
    else [c])

/-- `String(value, 2)` of a value that is not negative. -/
def twoDecimals (value : Rat) : String :=
  let hundredths := (value * 100 + 1 / 2).floor.toNat
  toString (hundredths / 100) ++ "." ++ toString (hundredths % 100 / 10) ++
    toString (hundredths % 10)

def fmtBytes (b : Nat) : String :=
  if b < 1024 then toString b ++ " B"
  else if b < 1048576 then oneDecimal ((b : Rat) / 1024) ++ " KB"
  else if b < 1073741824 then oneDecimal ((b : Rat) / 1048576) ++ " MB"
  else twoDecimals ((b : Rat) / 1073741824) ++ " GB"

def wgStateStr : WgState → String
  | .disabled => "disabled"
  | .waitTime => "waiting_time"
  | .waitWifi => "waiting_wifi"
  | .connecting => "connecting"
  | .up => "up"

def wgTunnelIp (wg : WireGuardState) : String :=
  match splitFirst '/' wg.config.tunnelAddress.toList with
  | none => ""
  | some (ip, _) => String.ofList ip

def wgEndpointStr (wg : WireGuardState) : String :=
  wg.config.endpointHost ++ ":" ++ toString wg.config.endpointPort.toNat

/-- What the library, the clock and WiFi answer to a status request. -/
structure PeerStatus where
  lastHandshakeMs : UInt32
  rxBytes : UInt64
  txBytes : UInt64
  millis : UInt32
  localIP : IPAddress
  deriving DecidableEq

def jsonBool (value : Bool) : String :=
  if value then "true" else "false"

def httpWgStatus (peer : PeerStatus) (wg : WireGuardState) : String :=
  let handshake :=
    if peer.lastHandshakeMs > 0 then
      formatUptime ((peer.millis - peer.lastHandshakeMs) / 1000).toNat ++ " ago"
    else "never"
  let tip := wgTunnelIp wg
  let wgUrl := if tip ≠ "" ∧ wg.state = .up then "rtsp://" ++ tip ++ ":8554/" else ""
  "\x7b" ++
    "\"enabled\":" ++ jsonBool wg.config.enabled ++ "," ++
    "\"state\":\"" ++ wgStateStr wg.state ++ "\"," ++
    "\"last_handshake\":\"" ++ handshake ++ "\"," ++
    "\"rx_bytes\":" ++ toString peer.rxBytes.toNat ++ "," ++
    "\"tx_bytes\":" ++ toString peer.txBytes.toNat ++ "," ++
    "\"rx_pretty\":\"" ++ fmtBytes peer.rxBytes.toNat ++ "\"," ++
    "\"tx_pretty\":\"" ++ fmtBytes peer.txBytes.toNat ++ "\"," ++
    "\"tunnel_ip\":\"" ++ wgTunnelIp wg ++ "\"," ++
    "\"tunnel_addr\":\"" ++ wg.config.tunnelAddress ++ "\"," ++
    "\"endpoint\":\"" ++ jsonEscape (wgEndpointStr wg) ++ "\"," ++
    "\"keepalive\":" ++ toString wg.config.keepalive.toNat ++ "," ++
    "\"private_key\":\"" ++ (if wg.config.privateKey ≠ "" then "********" else "") ++ "\"," ++
    "\"server_public_key\":\"" ++ jsonEscape wg.config.serverPublicKey ++ "\"," ++
    "\"lan_url\":\"" ++ "rtsp://" ++ peer.localIP.toString ++ ":8554/" ++ "\"," ++
    "\"wg_url\":\"" ++ wgUrl ++ "\"" ++
    "\x7d"

/-! ## The web interface over the manager -/

/-- The manager, the log ring and the rest of the device.  The key is in a
static variable of the manager, so the rest has no access to it. -/
structure Station (Rest : Type) where
  wg : WireGuardState
  logs : LogRing
  rest : Rest

/-- The start of the firmware: the log is empty and the manager is loaded. -/
def Station.boot {Rest : Type} (stamp : Nat → String) (prefs : WgPrefs) (rest : Rest) :
    Station Rest :=
  let wg := wgLoad (powerOn prefs)
  { wg := { wg with printed := [] }
    logs := pushLines stamp wg.printed LogRing.empty
    rest := rest }

/-- The other keys of `/api/set`, and all other requests and operations. -/
structure Elsewhere (Rest Operation : Type) where
  setting : String → Option String → LogRing × Rest → LogRing × Rest
  operation : Operation → LogRing × Rest → (LogRing × Rest) × Option String
  restart : Rest → Rest

inductive StationEvent (Operation : Type) where
  | set (key : String) (value : Option String) (outside : WgOutside) (stamp : Nat → String)
  | wgStatus (peer : PeerStatus)
  | logs
  | tick (outside : WgOutside) (stamp : Nat → String)
  | clear (outside : WgOutside) (stamp : Nat → String)
  | reboot (stamp : Nat → String)
  | other (operation : Operation)

section Station

variable {Rest Operation : Type}

/-- A call of the manager, whose lines go to the log. -/
def Station.callManager (fromString : String → Option IPAddress) (outside : WgOutside)
    (stamp : Nat → String) (call : WgCall) (station : Station Rest) : Station Rest :=
  let wg := wgCall fromString outside { station.wg with printed := [] } call
  { station with
    wg := { wg with printed := [] }
    logs := pushLines stamp wg.printed station.logs }

/-- `httpSet` logs the request with the private key masked. -/
def Station.logSetting (key : String) (value : Option String) (station : Station Rest) :
    Station Rest :=
  let val := value.getD ""
  if val = "" then station
  else
    let logVal := if key = "wg_priv" then "********" else val
    { station with logs := webuiPushLog ("UI set: " ++ key ++ "=" ++ logVal) station.logs }

def Station.httpSet (elsewhere : Elsewhere Rest Operation)
    (fromString : String → Option IPAddress) (key : String) (value : Option String)
    (outside : WgOutside) (stamp : Nat → String) (station : Station Rest) : Station Rest :=
  let station := station.logSetting key value
  match wgRequest key value with
  | .call call => station.callManager fromString outside stamp call
  | .invalidPort =>
      { station with
        logs := webuiPushLog "UI set: wg_endpoint=invalid port" station.logs }
  | .ignored => station
  | .otherKey =>
      let next := elsewhere.setting key value (station.logs, station.rest)
      { station with
        logs := next.1
        rest := next.2 }

/-- One event; the output is the body of the response, if any, and the log
ring after the event. -/
def stationStep (elsewhere : Elsewhere Rest Operation)
    (fromString : String → Option IPAddress) (station : Station Rest) :
    StationEvent Operation → Station Rest × Option String × LogRing
  | .set key value outside stamp =>
      let station := station.httpSet elsewhere fromString key value outside stamp
      (station, some "\x7b\"ok\":true\x7d", station.logs)
  | .wgStatus peer => (station, some (httpWgStatus peer station.wg), station.logs)
  | .logs => (station, some (httpLogs station.logs), station.logs)
  | .tick outside stamp =>
      let station := station.callManager fromString outside stamp .tick
      (station, none, station.logs)
  | .clear outside stamp =>
      let station := station.callManager fromString outside stamp .clear
      (station, none, station.logs)
  | .reboot stamp =>
      let station := Station.boot stamp station.wg.prefs (elsewhere.restart station.rest)
      (station, none, station.logs)
  | .other operation =>
      let next := elsewhere.operation operation (station.logs, station.rest)
      ({ station with
          logs := next.1.1
          rest := next.1.2 }, next.2, next.1.1)

end Station

/-! ## Masking the key -/

/-- A key that is set, without what it is. -/
def maskKey (key : String) : String :=
  if key = "" then "" else "********"

@[simp]
theorem maskKey_eq_empty_iff (key : String) : maskKey key = "" ↔ key = "" := by
  unfold maskKey
  split <;> simp_all

theorem maskKey_eq_of_ne_empty {first second : String} (firstSet : first ≠ "")
    (secondSet : second ≠ "") : maskKey first = maskKey second := by
  rw [maskKey, maskKey, if_neg firstSet, if_neg secondSet]

def WgConfig.masked (config : WgConfig) : WgConfig :=
  { config with privateKey := maskKey config.privateKey }

def WgPrefs.masked (prefs : WgPrefs) : WgPrefs :=
  { prefs with priv := prefs.priv.map maskKey }

def TunnelArguments.masked (tunnel : TunnelArguments) : TunnelArguments :=
  { tunnel with privateKey := maskKey tunnel.privateKey }

def WireGuardState.masked (wg : WireGuardState) : WireGuardState :=
  { wg with
    config := wg.config.masked
    prefs := wg.prefs.masked
    tunnel := wg.tunnel.map TunnelArguments.masked }

def WgCall.masked : WgCall → WgCall
  | .setPrivateKey key => .setPrivateKey (maskKey key)
  | call => call

theorem config_masked (prefs : WgPrefs) : prefs.masked.config = prefs.config.masked := by
  cases priv : prefs.priv <;> simp [WgPrefs.masked, WgPrefs.config, WgConfig.masked, priv, maskKey]

section Manager

variable (outside : WgOutside) (wg : WireGuardState)

@[simp]
theorem isSome_tunnel_masked : wg.masked.tunnel.isSome = wg.tunnel.isSome := by
  simp [masked]

theorem dnsRuns_masked (update : DnsUpdate) :
    wg.masked.dnsRuns update = (wg.dnsRuns update).masked :=
  rfl

theorem print_masked (line : WgLine) : wg.masked.print line = (wg.print line).masked :=
  rfl

theorem cancelDNS_masked (update : DnsUpdate) (reason : String) :
    cancelDNS update reason wg.masked = (cancelDNS update reason wg).masked := by
  simp only [cancelDNS]
  rw [apply_ite masked]
  rfl

theorem cancelIfResolving_masked (reason : String) :
    cancelIfResolving outside reason wg.masked =
      (cancelIfResolving outside reason wg).masked := by
  simp only [cancelIfResolving]
  rw [apply_ite masked, ← cancelDNS_masked, ← dnsRuns_masked]
  rfl

theorem endTunnel_masked : endTunnel wg.masked = (endTunnel wg).masked := by
  simp only [endTunnel, isSome_tunnel_masked]
  rw [apply_ite masked]
  rfl

theorem wgStop_masked : wgStop outside wg.masked = (wgStop outside wg).masked := by
  simp only [wgStop, cancelDNS_masked, endTunnel_masked]
  rfl

theorem stopIfInitialized_masked :
    stopIfInitialized outside wg.masked = (stopIfInitialized outside wg).masked := by
  simp only [stopIfInitialized, isSome_tunnel_masked, wgStop_masked]
  rw [apply_ite masked]

variable (fromString : String → Option IPAddress)

theorem startTunnelWithIP_masked (resolvedIP : String) :
    startTunnelWithIP fromString outside resolvedIP wg.masked =
      (startTunnelWithIP fromString outside resolvedIP wg).masked := by
  have sameAddress : wg.masked.config.tunnelAddress = wg.config.tunnelAddress := rfl
  simp only [startTunnelWithIP, sameAddress]
  cases parseTunnelAddress fromString wg.config.tunnelAddress with
  | none => rfl
  | some parsed =>
      simp only
      rw [apply_ite masked]
      rfl

theorem takeResolution_masked :
    takeResolution fromString outside wg.masked =
      (takeResolution fromString outside wg).masked := by
  simp only [takeResolution]
  rw [apply_ite masked, ← startTunnelWithIP_masked]
  rfl

theorem startResolution_masked :
    startResolution outside wg.masked = (startResolution outside wg).masked := by
  simp only [startResolution]
  split <;> split <;> first | rfl | simp_all [masked, print, dnsRuns]

theorem wgBegin_masked :
    wgBegin fromString outside wg.masked = (wgBegin fromString outside wg).masked := by
  have samePrivate : wg.masked.config.privateKey = "" ↔ wg.config.privateKey = "" :=
    maskKey_eq_empty_iff _
  simp only [wgBegin, isSome_tunnel_masked, samePrivate, dnsRuns_masked,
    takeResolution_masked, startResolution_masked, apply_ite masked]
  rfl

theorem awaitTunnel_masked :
    awaitTunnel fromString outside wg.masked = (awaitTunnel fromString outside wg).masked := by
  simp only [awaitTunnel, dnsRuns_masked, wgBegin_masked, apply_ite masked]
  rfl

theorem reconnect_masked :
    raiseBackoff
        { wgStop outside (print .reconnecting wg.masked) with
          lastAttemptMs := outside.millis32 } =
      (raiseBackoff
        { wgStop outside (print .reconnecting wg) with
          lastAttemptMs := outside.millis32 }).masked := by
  rw [print_masked, wgStop_masked]
  rfl

theorem watchPeer_masked :
    watchPeer outside wg.masked = (watchPeer outside wg).masked := by
  have sameWasUp : wg.masked.wasUp = wg.wasUp := rfl
  simp only [watchPeer, sameWasUp]
  cases outside.peerUp with
  | true => cases wg.wasUp <;> rfl
  | false =>
      cases wg.wasUp <;> simp only [Bool.false_eq_true, if_false, if_true] <;>
        rw [apply_ite masked, ← reconnect_masked] <;> rfl

theorem wgTick_masked :
    wgTick fromString outside wg.masked = (wgTick fromString outside wg).masked := by
  have sameEnabled : wg.masked.config.enabled = wg.config.enabled := rfl
  have sameState : wg.masked.state = wg.state := rfl
  have isNone : wg.masked.tunnel.isNone = wg.tunnel.isNone := by
    simp [masked]
  simp only [wgTick, sameEnabled, sameState, isNone, cancelIfResolving_masked,
    stopIfInitialized_masked, awaitTunnel_masked, watchPeer_masked, apply_ite masked]
  split
  · split <;> rfl
  · split
    · split
      · rfl
      · exact (congrArg (stopIfInitialized outside)
          (cancelIfResolving_masked outside { wg with state := .waitTime } "waiting_time")).trans
            (stopIfInitialized_masked outside _)
    · rfl

/-! ### The setters -/

theorem changeConfig_masked (reason : String) (config : WgConfig) :
    changeConfig reason config.masked outside wg.masked =
      (changeConfig reason config outside wg).masked := by
  have saved : wgSave { wg.masked with config := config.masked } =
      (wgSave { wg with config := config }).masked := rfl
  rw [changeConfig, saved, cancelDNS_masked, stopIfInitialized_masked]
  rfl

theorem wgSetEnabled_masked (en : Bool) :
    wgSetEnabled en outside wg.masked = (wgSetEnabled en outside wg).masked := by
  have saved : wgSave { wg.masked with config := { wg.masked.config with enabled := en } } =
      (wgSave { wg with config := { wg.config with enabled := en } }).masked := rfl
  simp only [wgSetEnabled, saved, cancelIfResolving_masked, wgStop_masked, cancelDNS_masked]
  cases en <;> rfl

theorem wgClear_masked : wgClear outside wg.masked = (wgClear outside wg).masked := by
  have emptied : { wg.masked with prefs := WgPrefs.empty } =
      WireGuardState.masked { wg with prefs := WgPrefs.empty } := rfl
  simp only [wgClear, emptied, cancelIfResolving_masked, endTunnel_masked]
  rfl

theorem wgLoad_masked (prefs : WgPrefs) :
    wgLoad (powerOn prefs.masked) = (wgLoad (powerOn prefs)).masked := by
  have sameConfig := config_masked prefs
  simp only [wgLoad, powerOn, sameConfig]
  rfl

theorem wgCall_masked (call : WgCall) :
    wgCall fromString outside wg.masked call.masked =
      (wgCall fromString outside wg call).masked := by
  cases call with
  | tick => exact wgTick_masked outside wg fromString
  | stop => exact wgStop_masked outside wg
  | setEnabled en => exact wgSetEnabled_masked outside wg en
  | setPrivateKey key =>
      exact changeConfig_masked outside wg "private key changed"
        { wg.config with privateKey := key }
  | setServerPublicKey key =>
      exact changeConfig_masked outside wg "server public key changed"
        { wg.config with serverPublicKey := key }
  | setEndpoint host port =>
      exact changeConfig_masked outside wg "endpoint changed"
        { wg.config with
          endpointHost := host
          endpointPort := port }
  | setTunnelAddress addr =>
      exact changeConfig_masked outside wg "tunnel address changed"
        { wg.config with tunnelAddress := addr }
  | setKeepalive seconds =>
      exact changeConfig_masked outside wg "keepalive changed"
        { wg.config with keepalive := seconds }
  | clear => exact wgClear_masked outside wg

end Manager

/-! ## Masking a run -/

section Run

variable {Rest Operation : Type}
variable (elsewhere : Elsewhere Rest Operation) (fromString : String → Option IPAddress)

def Station.masked (station : Station Rest) : Station Rest :=
  { station with wg := station.wg.masked }

def StationEvent.masked : StationEvent Operation → StationEvent Operation
  | .set key value outside stamp =>
      .set key (if key = "wg_priv" then value.map maskKey else value) outside stamp
  | event => event

def WgRequest.masked : WgRequest → WgRequest
  | .call wgCall => .call wgCall.masked
  | request => request

theorem wgEndpointRequest_masked (val : String) :
    (wgEndpointRequest val).masked = wgEndpointRequest val := by
  unfold wgEndpointRequest
  cases splitLast ':' val.toList with
  | none => rfl
  | some split =>
      simp only
      (repeat' split) <;> rfl

theorem wgKeepaliveRequest_masked (value : Option String) :
    (wgKeepaliveRequest value).masked = wgKeepaliveRequest value := by
  unfold wgKeepaliveRequest
  cases argToUInt value with
  | none => rfl
  | some v =>
      simp only
      split <;> rfl

theorem wgRequest_wg_priv_masked (value : Option String) :
    wgRequest "wg_priv" (value.map maskKey) = (wgRequest "wg_priv" value).masked := by
  cases value with
  | none => rfl
  | some val =>
      by_cases empty : val = ""
      · subst empty
        rfl
      · simp [wgRequest, empty, WgRequest.masked, WgCall.masked]

/-- The other keys do not set the private key. -/
theorem wgRequest_masked_of_ne {key : String} (other : key ≠ "wg_priv")
    (value : Option String) : (wgRequest key value).masked = wgRequest key value := by
  unfold wgRequest
  simp only
  split
  · split <;> rfl
  · exact absurd rfl other
  · split <;> rfl
  · split
    · rfl
    · exact wgEndpointRequest_masked _
  · split <;> rfl
  · exact wgKeepaliveRequest_masked value
  · rfl

theorem wgRequest_masked (key : String) (value : Option String) :
    wgRequest key (if key = "wg_priv" then value.map maskKey else value) =
      (wgRequest key value).masked := by
  split
  · rename_i isKey
    subst isKey
    exact wgRequest_wg_priv_masked value
  · rename_i other
    exact (wgRequest_masked_of_ne other value).symm

theorem callManager_masked (outside : WgOutside) (stamp : Nat → String) (call : WgCall)
    (station : Station Rest) :
    station.masked.callManager fromString outside stamp call.masked =
      (station.callManager fromString outside stamp call).masked := by
  have called := wgCall_masked outside { station.wg with printed := [] } fromString call
  simp only [Station.callManager]
  rw [show { station.masked.wg with printed := [] } =
    WireGuardState.masked { station.wg with printed := [] } from rfl, called]
  rfl

/-- The log line of the key has the same text for every key that is set. -/
theorem logSetting_masked (key : String) (value : Option String) (station : Station Rest) :
    station.masked.logSetting key (if key = "wg_priv" then value.map maskKey else value) =
      (station.logSetting key value).masked := by
  by_cases isKey : key = "wg_priv"
  · have sameEmpty : (value.map maskKey).getD "" = "" ↔ value.getD "" = "" := by
      cases value <;> simp
    simp only [Station.logSetting, if_pos isKey, sameEmpty]
    rw [apply_ite Station.masked]
    rfl
  · simp only [Station.logSetting, if_neg isKey]
    rw [apply_ite Station.masked]
    rfl

theorem httpSet_masked (key : String) (value : Option String) (outside : WgOutside)
    (stamp : Nat → String) (station : Station Rest) :
    station.masked.httpSet elsewhere fromString key
        (if key = "wg_priv" then value.map maskKey else value) outside stamp =
      (station.httpSet elsewhere fromString key value outside stamp).masked := by
  simp only [Station.httpSet, logSetting_masked, wgRequest_masked]
  generalize station.logSetting key value = logged
  cases request : wgRequest key value with
  | call call => exact callManager_masked fromString outside stamp call logged
  | invalidPort => rfl
  | ignored => rfl
  | otherKey =>
      have other : key ≠ "wg_priv" := by
        rintro rfl
        revert request
        simp only [wgRequest]
        split <;> nofun
      simp only [WgRequest.masked, if_neg other]
      rfl

theorem boot_masked (stamp : Nat → String) (prefs : WgPrefs) (rest : Rest) :
    Station.boot stamp prefs.masked rest = (Station.boot stamp prefs rest).masked := by
  simp only [Station.boot, wgLoad_masked]
  rfl

/-- The status shows only whether a key is set. -/
theorem shown_masked (key : String) :
    (if maskKey key ≠ "" then "********" else "") = if key ≠ "" then "********" else "" := by
  by_cases empty : key = "" <;> simp [empty, maskKey]

theorem httpWgStatus_masked (peer : PeerStatus) (wg : WireGuardState) :
    httpWgStatus peer wg.masked = httpWgStatus peer wg := by
  have shown := shown_masked wg.config.privateKey
  have sameKey : wg.masked.config.privateKey = maskKey wg.config.privateKey := rfl
  have sameTunnelIp : wgTunnelIp wg.masked = wgTunnelIp wg := rfl
  have sameEndpoint : wgEndpointStr wg.masked = wgEndpointStr wg := rfl
  have sameState : wg.masked.state = wg.state := rfl
  have sameEnabled : wg.masked.config.enabled = wg.config.enabled := rfl
  have sameAddress : wg.masked.config.tunnelAddress = wg.config.tunnelAddress := rfl
  have sameKeepalive : wg.masked.config.keepalive = wg.config.keepalive := rfl
  have sameServerKey : wg.masked.config.serverPublicKey = wg.config.serverPublicKey := rfl
  unfold httpWgStatus
  rw [sameTunnelIp, sameEndpoint, sameState, sameEnabled, sameAddress, sameKeepalive,
    sameServerKey, sameKey, shown]

theorem stationStep_masked :
    Respects (stationStep elsewhere fromString) Station.masked StationEvent.masked := by
  rintro station (⟨key, value, outside, stamp⟩ | peer | _ | ⟨outside, stamp⟩ |
    ⟨outside, stamp⟩ | stamp | operation)
  · simp only [stationStep, StationEvent.masked, httpSet_masked]
    rfl
  · exact congrArg
      (fun status => (station.masked, some status, station.logs))
      (httpWgStatus_masked peer station.wg)
  · rfl
  · have ticked := callManager_masked fromString outside stamp .tick station
    simp only [stationStep, StationEvent.masked]
    rw [show (WgCall.tick).masked = .tick from rfl] at ticked
    rw [ticked]
    rfl
  · have cleared := callManager_masked fromString outside stamp .clear station
    simp only [stationStep, StationEvent.masked]
    rw [show (WgCall.clear).masked = .clear from rfl] at cleared
    rw [cleared]
    rfl
  · have rebooted := boot_masked stamp station.wg.prefs (elsewhere.restart station.rest)
    simp only [stationStep, StationEvent.masked]
    rw [show Station.boot stamp station.masked.wg.prefs (elsewhere.restart station.masked.rest) =
      Station.boot stamp station.wg.prefs.masked (elsewhere.restart station.rest) from rfl,
      rebooted]
    rfl
  · rfl

/-! ## Two runs -/

/-- The same event, apart from the key that a request sets. -/
inductive StationEvent.AgreeExceptKey : StationEvent Operation → StationEvent Operation → Prop
  | same (event : StationEvent Operation) : AgreeExceptKey event event
  | key (first second : String) (outside : WgOutside) (stamp : Nat → String)
      (firstSet : first ≠ "") (secondSet : second ≠ "") :
      AgreeExceptKey (.set "wg_priv" (some first) outside stamp)
        (.set "wg_priv" (some second) outside stamp)

/-- The same flash, apart from the key that is stored. -/
inductive WgPrefs.AgreeExceptKey : WgPrefs → WgPrefs → Prop
  | same (prefs : WgPrefs) : AgreeExceptKey prefs prefs
  | key (prefs : WgPrefs) (first second : String) (firstSet : first ≠ "")
      (secondSet : second ≠ "") :
      AgreeExceptKey { prefs with priv := some first } { prefs with priv := some second }

theorem StationEvent.AgreeExceptKey.masked_eq {first second : StationEvent Operation}
    (agree : AgreeExceptKey first second) : first.masked = second.masked := by
  cases agree with
  | same event => rfl
  | key first second outside stamp firstSet secondSet =>
      simp [StationEvent.masked, maskKey_eq_of_ne_empty firstSet secondSet]

theorem WgPrefs.AgreeExceptKey.masked_eq {first second : WgPrefs}
    (agree : AgreeExceptKey first second) : first.masked = second.masked := by
  cases agree with
  | same prefs => rfl
  | key prefs first second firstSet secondSet =>
      simp [WgPrefs.masked, maskKey_eq_of_ne_empty firstSet secondSet]

theorem map_masked_eq {first second : List (StationEvent Operation)}
    (agree : List.Forall₂ StationEvent.AgreeExceptKey first second) :
    first.map StationEvent.masked = second.map StationEvent.masked := by
  induction agree with
  | nil => rfl
  | cons head tail ih => rw [List.map_cons, List.map_cons, head.masked_eq, ih]

/-- Two runs that differ only in the private keys give the same responses and
the same log at every step. -/
theorem outputs_eq_of_agreeExceptKey (elsewhere : Elsewhere Rest Operation)
    (fromString : String → Option IPAddress) (stamp : Nat → String) (rest : Rest)
    {first second : WgPrefs} (prefs : first.AgreeExceptKey second)
    {firstEvents secondEvents : List (StationEvent Operation)}
    (events : List.Forall₂ StationEvent.AgreeExceptKey firstEvents secondEvents) :
    outputs (stationStep elsewhere fromString) (Station.boot stamp first rest) firstEvents =
      outputs (stationStep elsewhere fromString) (Station.boot stamp second rest)
        secondEvents := by
  apply outputs_eq (stationStep_masked elsewhere fromString)
  · rw [← boot_masked, ← boot_masked, prefs.masked_eq]
  · exact map_masked_eq events

end Run

/-- A device whose other requests answer nothing. -/
def Elsewhere.silent : Elsewhere Unit Unit where
  setting := fun _ _ device => device
  operation := fun _ device => (device, none)
  restart := id

/-- Setting the key, reading the status and the log, a tick and a restart. -/
def keySession (key : String) : List (StationEvent Unit) :=
  [.set "wg_priv" (some key) (.working 10000 .idle) (fun _ => "[00:10] "),
    .wgStatus
      { lastHandshakeMs := 0
        rxBytes := 0
        txBytes := 0
        millis := 10000
        localIP := ⟨192, 168, 1, 20⟩ },
    .logs, .tick (.working 10500 .idle) (fun _ => "[00:10] "), .reboot fun _ => "[00:00] "]

theorem outputs_eq_keySession :
    outputs (stationStep Elsewhere.silent readTunnelIP)
        (Station.boot (fun _ => "[00:00] ") { storedPrefs "10.0.0.2/24" with priv := some "old" } ())
        (keySession "first key") =
      outputs (stationStep Elsewhere.silent readTunnelIP)
        (Station.boot (fun _ => "[00:00] ") { storedPrefs "10.0.0.2/24" with priv := some "older" } ())
        (keySession "another key") :=
  outputs_eq_of_agreeExceptKey Elsewhere.silent readTunnelIP (fun _ => "[00:00] ") ()
    (.key (storedPrefs "10.0.0.2/24") "old" "older" (by decide) (by decide))
    (.cons (.key "first key" "another key" _ _ (by decide) (by decide))
      (.cons (.same _) (.cons (.same _) (.cons (.same _) (.cons (.same _) .nil)))))

end EchoMic
