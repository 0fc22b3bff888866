import EchoMic.WireGuardPeers

/-!
# The handshake of WireGuard

The two messages of a handshake, their creation and their processing.  An
initiator and a responder that both run this code end with crossed session
keys.
-/

namespace EchoMic

/-! ## Messages -/

structure MessageHandshakeInitiation where
  sender : UInt32
  ephemeral : Bytes
  encStatic : Bytes
  encTimestamp : Bytes
  mac1 : Bytes
  mac2 : Bytes

structure MessageHandshakeResponse where
  sender : UInt32
  receiver : UInt32
  ephemeral : Bytes
  encEmpty : Bytes
  mac1 : Bytes
  mac2 : Bytes

structure MessageCookieReply where
  receiver : UInt32
  nonce : Bytes
  encCookie : Bytes

structure MessageTransportData where
  receiver : UInt32
  counter : UInt64
  encPacket : Bytes

/-- The part of a message that its first code covers. -/
def MessageHandshakeInitiation.macText (msg : MessageHandshakeInitiation) : Bytes :=
  [1, 0, 0, 0] ++ u32To8Little msg.sender ++ msg.ephemeral ++ msg.encStatic ++ msg.encTimestamp

def MessageHandshakeInitiation.bytes (msg : MessageHandshakeInitiation) : Bytes :=
  msg.macText ++ msg.mac1 ++ msg.mac2

def MessageHandshakeResponse.macText (msg : MessageHandshakeResponse) : Bytes :=
  [2, 0, 0, 0] ++ u32To8Little msg.sender ++ u32To8Little msg.receiver ++ msg.ephemeral ++
    msg.encEmpty

def MessageHandshakeResponse.bytes (msg : MessageHandshakeResponse) : Bytes :=
  msg.macText ++ msg.mac1 ++ msg.mac2

def MessageCookieReply.bytes (msg : MessageCookieReply) : Bytes :=
  [3, 0, 0, 0] ++ u32To8Little msg.receiver ++ msg.nonce ++ msg.encCookie

def MessageTransportData.bytes (msg : MessageTransportData) : Bytes :=
  [4, 0, 0, 0] ++ u32To8Little msg.receiver ++ u64To8Little msg.counter ++ msg.encPacket

/-- `size` bytes of a message from `offset` on. -/
def field (data : Bytes) (offset size : Nat) : Bytes :=
  (data.drop offset).take size

/-- The casts of a received buffer to the packed structures. -/
def MessageHandshakeInitiation.ofBytes (data : Bytes) : MessageHandshakeInitiation where
  sender := u8To32Little (data.drop 4)
  ephemeral := field data 8 32
  encStatic := field data 40 48
  encTimestamp := field data 88 28
  mac1 := field data 116 16
  mac2 := field data 132 16

def MessageHandshakeResponse.ofBytes (data : Bytes) : MessageHandshakeResponse where
  sender := u8To32Little (data.drop 4)
  receiver := u8To32Little (data.drop 8)
  ephemeral := field data 12 32
  encEmpty := field data 44 16
  mac1 := field data 60 16
  mac2 := field data 76 16

def MessageCookieReply.ofBytes (data : Bytes) : MessageCookieReply where
  receiver := u8To32Little (data.drop 4)
  nonce := field data 8 24
  encCookie := field data 32 32

def MessageTransportData.ofBytes (data : Bytes) : MessageTransportData where
  receiver := u8To32Little (data.drop 4)
  counter := u8To64Little (data.drop 8)
  encPacket := data.drop 16

inductive MessageType where
  | invalid
  | handshakeInitiation
  | handshakeResponse
  | cookieReply
  | transportData
  deriving DecidableEq

def wireguardGetMessageType (data : Bytes) : MessageType :=
  if data.length ≥ 4 then
    if byteAt data 1 = 0 ∧ byteAt data 2 = 0 ∧ byteAt data 3 = 0 then
      if byteAt data 0 = 1 then
        if data.length = 148 then .handshakeInitiation else .invalid
      else if byteAt data 0 = 2 then
        if data.length = 92 then .handshakeResponse else .invalid
      else if byteAt data 0 = 3 then
        if data.length = 64 then .cookieReply else .invalid
      else if byteAt data 0 = 4 then
        if data.length ≥ 16 + 16 then .transportData else .invalid
      else .invalid
    else .invalid
  else .invalid

/-! ## Drawing and comparing -/

/-- What the outside gives to the creation of a message. -/
structure HandshakeDraws where
  ephemeral : Bytes
  indices : List UInt32
  timestamp : Bytes
  now : UInt32

/-- `existing`, and the two values that are not allowed. -/
def indexAllowed (peer : WireguardPeer) (result : UInt32) : Bool :=
  result != 0 && result != 0xFFFFFFFF &&
    !(result == peer.curr.localIndex || result == peer.prev.localIndex ||
      result == peer.next.localIndex || result == peer.handshake.localIndex)

/-- The loop draws until an index is allowed; `none` when the draws run out. -/
def wireguardGenerateUniqueIndex (peer : WireguardPeer) (draws : List UInt32) :
    Option UInt32 :=
  draws.find? (indexAllowed peer)

/-- `memcmp(a, b) <= 0`. -/
def memcmpLe : Bytes → Bytes → Bool
  | a :: as, b :: bs => if a < b then true else if a = b then memcmpLe as bs else false
  | [], _ => true
  | _ :: _, [] => false

/-- The cookie code of a message. -/
def cookieMac (now : UInt32) (peer : WireguardPeer) (text : Bytes) : Bytes :=
  if peer.cookieMillis = 0 || wireguardExpired now peer.cookieMillis cookieSecretMaxAge then
    List.replicate 16 0
  else wireguardMac text peer.cookie

/-- A computation that may fail on the way, and the peer that it leaves then. -/
def orFail {α Message : Type} (failed : WireguardPeer) (result : Option α)
    (next : α → WireguardPeer × Option Message) : WireguardPeer × Option Message :=
  match result with
  | none => (failed, none)
  | some value => next value

theorem orFail_of_some {α Message : Type} {failed : WireguardPeer} {result : Option α} {value : α}
    {next : α → WireguardPeer × Option Message} (succeeded : result = some value) :
    orFail failed result next = next value := by
  rw [succeeded]
  rfl

theorem orFail_eq_some {α Message : Type} {failed peer : WireguardPeer} {result : Option α}
    {next : α → WireguardPeer × Option Message} {msg : Message}
    (succeeded : orFail failed result next = (peer, some msg)) :
    ∃ value, result = some value ∧ next value = (peer, some msg) := by
  cases result with
  | none => cases (Prod.mk.inj succeeded).2
  | some value => exact ⟨value, rfl, succeeded⟩

/-- What holds of every peer that a computation leaves, however far it gets. -/
theorem leaves_of_orFail {α Message : Type} {leaves : WireguardPeer → Prop}
    {failed peer : WireguardPeer} {result : Option α} {msg : Option Message}
    {next : α → WireguardPeer × Option Message} (ended : orFail failed result next = (peer, msg))
    (fails : leaves failed) (continues : ∀ value, next value = (peer, msg) → leaves peer) :
    leaves peer := by
  cases result with
  | none => exact (Prod.mk.inj ended).1 ▸ fails
  | some value => exact continues value ended

/-! ## The initiator's message -/

namespace WireguardHandshake

/-- `chaining_key` and `hash` before the first message. -/
def begun (handshake : WireguardHandshake) (responderKey : Bytes) : WireguardHandshake :=
  { handshake with
    chainingKey := constructionHash
    hash := wireguardMixHash identifierHash responderKey }

def withPrivate (handshake : WireguardHandshake) (ephemeralPrivate : Bytes) :
    WireguardHandshake :=
  { handshake with ephemeralPrivate := ephemeralPrivate }

def withIndex (handshake : WireguardHandshake) (index : UInt32) : WireguardHandshake :=
  { handshake with localIndex := index }

def initiating (handshake : WireguardHandshake) (sender : UInt32) : WireguardHandshake :=
  { handshake with
    valid := true
    initiator := true
    localIndex := sender }

/-- An ephemeral public key. -/
def withEphemeral (handshake : WireguardHandshake) (ephemeral : Bytes) : WireguardHandshake :=
  { handshake with
    chainingKey := wireguardKdf1 handshake.chainingKey ephemeral
    hash := wireguardMixHash handshake.hash ephemeral }

/-- A secret, with the key that is derived beside it. -/
def withSecret (handshake : WireguardHandshake) (secret : Bytes) : WireguardHandshake × Bytes :=
  let derived := wireguardKdf2 handshake.chainingKey secret
  ({ handshake with chainingKey := derived.1 }, derived.2)

/-- A secret from which no key is derived. -/
def withChainedSecret (handshake : WireguardHandshake) (secret : Bytes) : WireguardHandshake :=
  { handshake with chainingKey := wireguardKdf1 handshake.chainingKey secret }

/-- An encrypted field. -/
def withField (handshake : WireguardHandshake) (encrypted : Bytes) : WireguardHandshake :=
  { handshake with hash := wireguardMixHash handshake.hash encrypted }

/-- The preshared key, with the key that is derived beside it. -/
def withPreshared (handshake : WireguardHandshake) (preshared : Bytes) :
    WireguardHandshake × Bytes :=
  let derived := wireguardKdf3 handshake.chainingKey preshared
  ({ handshake with
      chainingKey := derived.1
      hash := wireguardMixHash handshake.hash derived.2.1 }, derived.2.2)

end WireguardHandshake

def WireguardPeer.withHandshake (peer : WireguardPeer) (handshake : WireguardHandshake) :
    WireguardPeer :=
  { peer with handshake := handshake }

/-- The encrypted static key and the encrypted timestamp, and the transcript
with both. -/
def initiationFields (device : WireguardDevice) (handshake : WireguardHandshake)
    (dhCalculation timestamp : Bytes) : WireguardHandshake × Bytes × Bytes :=
  let derived := handshake.withSecret dhCalculation
  let encStatic := chacha20poly1305Encrypt device.publicKey derived.1.hash 0 derived.2
  -- DH(Sprivi,Spubr) has been computed with the peer
  let derived := (derived.1.withField encStatic).withSecret device.peer.publicKeyDh
  let encTimestamp := chacha20poly1305Encrypt timestamp derived.1.hash 0 derived.2
  (derived.1.withField encTimestamp, encStatic, encTimestamp)

/-- The codes are put into a message at last. -/
def MessageHandshakeInitiation.withMacs (now : UInt32) (peer : WireguardPeer)
    (msg : MessageHandshakeInitiation) : MessageHandshakeInitiation :=
  let mac1 := wireguardMac msg.macText peer.labelMac1Key
  { msg with
    mac1 := mac1
    mac2 := cookieMac now peer (msg.macText ++ mac1) }

def wireguardCreateHandshakeInitiation (draws : HandshakeDraws) (device : WireguardDevice) :
    WireguardPeer × Option MessageHandshakeInitiation :=
  let peer := device.peer
  let handshake :=
    (peer.handshake.begun peer.publicKey).withPrivate
      (wireguardGeneratePrivateKey draws.ephemeral)
  orFail (peer.withHandshake handshake)
      (wireguardGeneratePublicKey (wireguardGeneratePrivateKey draws.ephemeral))
      fun ephemeral =>
    let handshake := handshake.withEphemeral ephemeral
    orFail (peer.withHandshake handshake)
        (agreedSecret (wireguardGeneratePrivateKey draws.ephemeral) peer.publicKey)
        fun dhCalculation =>
      let fields := initiationFields device handshake dhCalculation draws.timestamp
      orFail (peer.withHandshake fields.1) (wireguardGenerateUniqueIndex peer draws.indices)
          fun sender =>
        let msg : MessageHandshakeInitiation :=
          { sender := sender
            ephemeral := ephemeral
            encStatic := fields.2.1
            encTimestamp := fields.2.2
            mac1 := List.replicate 16 0
            mac2 := List.replicate 16 0 }
        (peer.withHandshake (fields.1.initiating sender), some (msg.withMacs draws.now peer))

/-- What `wireguard_process_initiation_message` stores of an accepted message. -/
def WireguardPeer.accepting (peer : WireguardPeer) (now : UInt32)
    (msg : MessageHandshakeInitiation) (t : Bytes) (handshake : WireguardHandshake) :
    WireguardPeer :=
  { peer with
    lastInitiationRx := now
    greatestTimestamp := t
    handshake :=
      { peer.handshake with
        remoteEphemeral := msg.ephemeral
        hash := handshake.hash
        chainingKey := handshake.chainingKey
        remoteIndex := msg.sender
        valid := true
        initiator := false } }

/-- `some` peer where the message is accepted; a message that is not accepted
leaves the device. -/
def wireguardProcessInitiationMessage (now : UInt32) (msg : MessageHandshakeInitiation)
    (device : WireguardDevice) : Option WireguardPeer :=
  let peer := device.peer
  let handshake := (WireguardHandshake.zero.begun device.publicKey).withEphemeral msg.ephemeral
  (agreedSecret device.privateKey msg.ephemeral).bind fun dhCalculation =>
    let derived := handshake.withSecret dhCalculation
    (chacha20poly1305Decrypt msg.encStatic derived.1.hash 0 derived.2).bind fun s =>
      if peer.valid = true ∧ peer.publicKey = s then
        let derived := (derived.1.withField msg.encStatic).withSecret peer.publicKeyDh
        (chacha20poly1305Decrypt msg.encTimestamp derived.1.hash 0 derived.2).bind fun t =>
          let replay := memcmpLe t peer.greatestTimestamp
          -- the difference is taken the other way round than everywhere else
          let rateLimit : Bool := peer.lastInitiationRx - now < 1000 / 2
          if replay = false ∧ rateLimit = false then
            some (peer.accepting now msg t (derived.1.withField msg.encTimestamp))
          else none
      else none

/-! ## The responder's message -/

/-- The secrets of both ephemeral keys and of the preshared key, and the key
for the empty text. -/
def responseSecrets (handshake : WireguardHandshake) (ephemeralSecret staticSecret : Bytes)
    (presharedKey : Bytes) : WireguardHandshake × Bytes :=
  ((handshake.withChainedSecret ephemeralSecret).withChainedSecret staticSecret).withPreshared
    presharedKey

def MessageHandshakeResponse.withMacs (now : UInt32) (peer : WireguardPeer)
    (msg : MessageHandshakeResponse) : MessageHandshakeResponse :=
  let mac1 := wireguardMac msg.macText peer.labelMac1Key
  { msg with
    mac1 := mac1
    mac2 := cookieMac now peer (msg.macText ++ mac1) }

def wireguardCreateHandshakeResponse (draws : HandshakeDraws) (device : WireguardDevice) :
    WireguardPeer × Option MessageHandshakeResponse :=
  let peer := device.peer
  if peer.handshake.valid = true ∧ peer.handshake.initiator = false then
    let handshake :=
      peer.handshake.withPrivate (wireguardGeneratePrivateKey draws.ephemeral)
    orFail (peer.withHandshake handshake)
        (wireguardGeneratePublicKey (wireguardGeneratePrivateKey draws.ephemeral))
        fun ephemeral =>
      let handshake := handshake.withEphemeral ephemeral
      orFail (peer.withHandshake handshake)
          (agreedSecret (wireguardGeneratePrivateKey draws.ephemeral)
            peer.handshake.remoteEphemeral)
          fun ephemeralSecret =>
        orFail (peer.withHandshake (handshake.withChainedSecret ephemeralSecret))
            (agreedSecret (wireguardGeneratePrivateKey draws.ephemeral) peer.publicKey)
            fun staticSecret =>
          let derived :=
            responseSecrets handshake ephemeralSecret staticSecret peer.presharedKey
          let encEmpty := chacha20poly1305Encrypt [] derived.1.hash 0 derived.2
          let handshake := derived.1.withField encEmpty
          orFail (peer.withHandshake handshake)
              (wireguardGenerateUniqueIndex peer draws.indices) fun sender =>
            let msg : MessageHandshakeResponse :=
              { sender := sender
                receiver := peer.handshake.remoteIndex
                ephemeral := ephemeral
                encEmpty := encEmpty
                mac1 := List.replicate 16 0
                mac2 := List.replicate 16 0 }
            (peer.withHandshake (handshake.withIndex sender),
              some (msg.withMacs draws.now peer))
  else (peer, none)

/-- What `wireguard_process_handshake_response` stores of an accepted message. -/
def WireguardHandshake.answered (handshake : WireguardHandshake)
    (src : MessageHandshakeResponse) : WireguardHandshake :=
  { handshake with
    remoteEphemeral := src.ephemeral
    remoteIndex := src.sender }

def wireguardProcessHandshakeResponse (src : MessageHandshakeResponse)
    (device : WireguardDevice) : Option WireguardPeer :=
  let peer := device.peer
  if peer.handshake.valid = true ∧ peer.handshake.initiator = true then
    let handshake := peer.handshake.withEphemeral src.ephemeral
    (agreedSecret peer.handshake.ephemeralPrivate src.ephemeral).bind fun ephemeralSecret =>
      (agreedSecret device.privateKey src.ephemeral).bind fun staticSecret =>
        let derived := responseSecrets handshake ephemeralSecret staticSecret peer.presharedKey
        (chacha20poly1305Decrypt src.encEmpty derived.1.hash 0 derived.2).bind fun _ =>
          some (peer.withHandshake (derived.1.answered src))
  else none

/-! ## Setting up -/

/-- `none` where the device is not valid. -/
def wireguardDeviceInit (privateKey : Bytes) : Option WireguardDevice :=
  let clamped := wireguardClampPrivateKey privateKey
  (wireguardGeneratePublicKey privateKey).map fun publicKey =>
    { publicKey := publicKey
      privateKey := clamped
      labelCookieKey := wireguardMacKey publicKey labelCookie
      labelMac1Key := wireguardMacKey publicKey labelMac1
      peer := WireguardPeer.zero
      valid := true }

/-- `none` where the peer stays invalid. -/
def wireguardPeerInit (publicKey : Bytes) (presharedKey : Option Bytes)
    (device : WireguardDevice) : Option WireguardPeer :=
  if device.valid then
    let agreement := wireguardX25519 device.privateKey publicKey
    if agreement.2 = 0 then
      some
        { WireguardPeer.zero with
          publicKey := publicKey
          presharedKey := presharedKey.getD zeroKey
          publicKeyDh := agreement.1
          labelMac1Key := wireguardMacKey publicKey labelMac1
          labelCookieKey := wireguardMacKey publicKey labelCookie
          valid := true }
    else none
  else none

def wireguardCheckMac1 (device : WireguardDevice) (data mac1 : Bytes) : Bool :=
  let calculated := wireguardMac data device.labelMac1Key
  cryptoEqual calculated mac1 16

end EchoMic
