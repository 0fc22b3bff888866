import EchoMic.ReplayWindow
import EchoMic.WireGuardKeys

/-!
# Peers and their key pairs

The state that the WireGuard library keeps of a device and of its one peer,
and the moves of session keys between the slots of the current, the previous
and the next key pair.
-/

namespace EchoMic

def rekeyAfterMessages : UInt64 :=
  (1 : UInt64) <<< 60

def rejectAfterMessages : UInt64 :=
  (0xFFFFFFFFFFFFFFFF : UInt64) - ((1 : UInt64) <<< 13)

def rekeyAfterTime : UInt32 := 120

def rejectAfterTime : UInt32 := 180

def rekeyTimeout : UInt32 := 5

def cookieSecretMaxAge : UInt32 := 2 * 60

structure WireguardKeypair where
  valid : Bool
  initiator : Bool
  keypairMillis : UInt32
  sendingKey : Bytes
  sendingValid : Bool
  sendingCounter : UInt64
  receivingKey : Bytes
  receivingValid : Bool
  lastTx : UInt32
  lastRx : UInt32
  replay : ReplayState
  localIndex : UInt32
  remoteIndex : UInt32

/-- All bytes zero. -/
def WireguardKeypair.zero : WireguardKeypair where
  valid := false
  initiator := false
  keypairMillis := 0
  sendingKey := zeroKey
  sendingValid := false
  sendingCounter := 0
  receivingKey := zeroKey
  receivingValid := false
  lastTx := 0
  lastRx := 0
  replay := ReplayState.fresh
  localIndex := 0
  remoteIndex := 0

structure WireguardHandshake where
  valid : Bool
  initiator : Bool
  localIndex : UInt32
  remoteIndex : UInt32
  ephemeralPrivate : Bytes
  remoteEphemeral : Bytes
  hash : Bytes
  chainingKey : Bytes

def WireguardHandshake.zero : WireguardHandshake where
  valid := false
  initiator := false
  localIndex := 0
  remoteIndex := 0
  ephemeralPrivate := zeroKey
  remoteEphemeral := zeroKey
  hash := zeroKey
  chainingKey := zeroKey

structure WireguardAllowedIp where
  valid : Bool
  ip : UInt32
  mask : UInt32

/-- The addresses are those of IPv4. -/
structure WireguardPeer where
  valid : Bool
  active : Bool
  connectIp : UInt32
  connectPort : UInt16
  ip : UInt32
  port : UInt16
  keepaliveInterval : UInt16
  allowedSourceIps : List WireguardAllowedIp
  publicKey : Bytes
  presharedKey : Bytes
  publicKeyDh : Bytes
  curr : WireguardKeypair
  prev : WireguardKeypair
  next : WireguardKeypair
  greatestTimestamp : Bytes
  handshake : WireguardHandshake
  cookieMillis : UInt32
  cookie : Bytes
  handshakeMac1Valid : Bool
  handshakeMac1 : Bytes
  labelCookieKey : Bytes
  labelMac1Key : Bytes
  lastInitiationRx : UInt32
  lastInitiationTx : UInt32
  lastTx : UInt32
  lastRx : UInt32
  rxBytes : UInt64
  txBytes : UInt64
  sendHandshake : Bool

/-- `memset(peer, 0, sizeof(struct wireguard_peer))`. -/
def WireguardPeer.zero : WireguardPeer where
  valid := false
  active := false
  connectIp := 0
  connectPort := 0
  ip := 0
  port := 0
  keepaliveInterval := 0
  allowedSourceIps := List.replicate 2 { valid := false, ip := 0, mask := 0 }
  publicKey := zeroKey
  presharedKey := zeroKey
  publicKeyDh := zeroKey
  curr := WireguardKeypair.zero
  prev := WireguardKeypair.zero
  next := WireguardKeypair.zero
  greatestTimestamp := List.replicate 12 0
  handshake := WireguardHandshake.zero
  cookieMillis := 0
  cookie := List.replicate 16 0
  handshakeMac1Valid := false
  handshakeMac1 := List.replicate 16 0
  labelCookieKey := zeroKey
  labelMac1Key := zeroKey
  lastInitiationRx := 0
  lastInitiationTx := 0
  lastTx := 0
  lastRx := 0
  rxBytes := 0
  txBytes := 0
  sendHandshake := false

/-- The device with `peers[WIREGUARD_MAX_PEERS]`, which is one peer. -/
structure WireguardDevice where
  publicKey : Bytes
  privateKey : Bytes
  labelCookieKey : Bytes
  labelMac1Key : Bytes
  peer : WireguardPeer
  valid : Bool

/-- From the time that `wireguard_sys_now` returns. -/
def wireguardExpired (now createdMillis validSeconds : UInt32) : Bool :=
  let diff := now - createdMillis
  diff ≥ validSeconds * 1000

/-! ## The slots -/

/-- The three key pairs of a peer. -/
inductive Slot where
  | curr
  | prev
  | next
  deriving DecidableEq

namespace WireguardPeer

def keypair (peer : WireguardPeer) : Slot → WireguardKeypair
  | .curr => peer.curr
  | .prev => peer.prev
  | .next => peer.next

def setKeypair (peer : WireguardPeer) (keypair : WireguardKeypair) : Slot → WireguardPeer
  | .curr => { peer with curr := keypair }
  | .prev => { peer with prev := keypair }
  | .next => { peer with next := keypair }

@[simp]
theorem keypair_setKeypair (peer : WireguardPeer) (keypair : WireguardKeypair) (slot : Slot) :
    (peer.setKeypair keypair slot).keypair slot = keypair := by
  cases slot <;> rfl

def destroyKeypair (peer : WireguardPeer) (slot : Slot) : WireguardPeer :=
  peer.setKeypair WireguardKeypair.zero slot

end WireguardPeer

def getPeerKeypairForIdx (peer : WireguardPeer) (idx : UInt32) : Option Slot :=
  if peer.curr.valid && peer.curr.localIndex == idx then some .curr
  else if peer.next.valid && peer.next.localIndex == idx then some .next
  else if peer.prev.valid && peer.prev.localIndex == idx then some .prev
  else none

def keypairUpdate (peer : WireguardPeer) (receivedKeypair : Slot) : WireguardPeer :=
  if receivedKeypair = .next then
    { peer with
      prev := peer.curr
      curr := peer.next
      next := WireguardKeypair.zero }
  else peer

def addNewKeypair (peer : WireguardPeer) (newKeypair : WireguardKeypair) : WireguardPeer :=
  if newKeypair.initiator then
    if peer.next.valid then
      { peer with
        prev := peer.next
        next := WireguardKeypair.zero
        curr := newKeypair }
    else
      { peer with
        prev := peer.curr
        curr := newKeypair }
  else
    { peer with
      next := newKeypair
      prev := WireguardKeypair.zero }

/-- What `wireguard_start_session` leaves of a handshake. -/
def WireguardHandshake.finished (handshake : WireguardHandshake) : WireguardHandshake :=
  { WireguardHandshake.zero with initiator := handshake.initiator }

/-- The session keys of a finished handshake. -/
def sessionKeypair (now : UInt32) (handshake : WireguardHandshake) (initiator : Bool) :
    WireguardKeypair :=
  let keys := wireguardKdf2 handshake.chainingKey []
  { WireguardKeypair.zero with
    valid := true
    initiator := initiator
    localIndex := handshake.localIndex
    remoteIndex := handshake.remoteIndex
    keypairMillis := now
    sendingValid := true
    receivingValid := true
    sendingKey := if initiator then keys.1 else keys.2
    receivingKey := if initiator then keys.2 else keys.1 }

def wireguardStartSession (now : UInt32) (initiator : Bool) (peer : WireguardPeer) :
    WireguardPeer :=
  let newKeypair := sessionKeypair now peer.handshake initiator
  addNewKeypair { peer with handshake := peer.handshake.finished } newKeypair

/-- `handshake_destroy` leaves the `initiator` flag. -/
def handshakeDestroy (handshake : WireguardHandshake) : WireguardHandshake :=
  handshake.finished

end EchoMic
