import EchoMic.WireGuardManager

/-!
# Setting the WireGuard configuration over HTTP

The keys of `/api/set` that belong to the WireGuard manager.
-/

namespace EchoMic

open Splitting

/-- What a request asks of the manager.  `invalidPort` is the refusal that is
logged, and `ignored` one that is not. -/
inductive WgRequest where
  | call (call : WgCall)
  | invalidPort
  | ignored
  | otherKey
  deriving DecidableEq

def wgEndpointRequest (val : String) : WgRequest :=
  match splitLast ':' val.toList with
  | none => .ignored
  | some (host, afterColon) =>
      -- `lastIndexOf` must be positive.
      if host = [] then .ignored
      else
        let portInt := toInt (String.ofList afterColon)
        if 0 < portInt ∧ portInt < 65536 then
          .call (.setEndpoint (String.ofList host) (UInt16.ofInt portInt))
        else .invalidPort

def wgKeepaliveRequest (value : Option String) : WgRequest :=
  match argToUInt value with
  | none => .ignored
  | some v => if v ≤ 65535 then .call (.setKeepalive v.toUInt16) else .ignored

/-- The branches of `httpSet` for the keys of the manager. -/
def wgRequest (key : String) (value : Option String) : WgRequest :=
  let val := value.getD ""
  match key with
  | "wg_enable" =>
      if val = "on" ∨ val = "off" then .call (.setEnabled (val = "on")) else .ignored
  | "wg_priv" => if val = "" then .ignored else .call (.setPrivateKey val)
  | "wg_srvpub" => if val = "" then .ignored else .call (.setServerPublicKey val)
  | "wg_endpoint" => if val = "" then .ignored else wgEndpointRequest val
  | "wg_tunaddr" => if val = "" then .ignored else .call (.setTunnelAddress val)
  | "wg_keepalive" => wgKeepaliveRequest value
  | _ => .otherKey

end EchoMic
