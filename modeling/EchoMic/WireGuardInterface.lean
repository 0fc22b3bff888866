import EchoMic.Base64Keys
import EchoMic.WireGuardHandshake

/-!
# The network interface of WireGuard

What the interface does with the datagrams, the packets and the timer that
come to it.  Every reading of the clock, every allocation and every answer of
the stack below is an input of the function it happens in.
-/

namespace EchoMic

/-- `err_t`, as far as the interface returns it. -/
inductive Err where
  | ok
  | mem
  | conn
  | rte
  | arg
  | other
  deriving DecidableEq

/-- What a step of the interface does, in order.  Packets are given with the
key and the counter that they are encrypted under, and the steps of a session
are told besides. -/
inductive WgAction where
  | send (ip : UInt32) (port : UInt16) (datagram : Bytes)
  | transport (ip : UInt32) (port : UInt16) (receiver : UInt32) (key : Bytes) (counter : UInt64)
      (text : Bytes)
  | started (keypair : WireguardKeypair)
  | authenticated (key : Bytes) (counter : UInt64)
  | deliver (key : Bytes) (counter : UInt64) (packet : Bytes)
  | linkUp
  | linkDown

/-- The datagram that leaves the device, and where it goes. -/
def WgAction.datagram : WgAction → Option (UInt32 × UInt16 × Bytes)
  | .send ip port datagram => some (ip, port, datagram)
  | .transport ip port receiver key counter text =>
      let hdr : MessageTransportData :=
        { receiver := receiver
          counter := counter
          encPacket := chacha20poly1305Encrypt text [] counter key }
      some (ip, port, hdr.bytes)
  | _ => none

namespace WireguardDevice

def withPeer (device : WireguardDevice) (peer : WireguardPeer) : WireguardDevice :=
  { device with peer := peer }

end WireguardDevice

def updatePeerAddr (peer : WireguardPeer) (addr : UInt32) (port : UInt16) : WireguardPeer :=
  { peer with
    ip := addr
    port := port }

def ipAddrNetcmp (addr1 addr2 mask : UInt32) : Bool :=
  addr1 &&& mask == addr2 &&& mask

def WireguardAllowedIp.routes (allowed : WireguardAllowedIp) (ipaddr : UInt32) : Bool :=
  allowed.valid && ipAddrNetcmp ipaddr allowed.ip allowed.mask

def peerLookupByAllowedIp (peer : WireguardPeer) (ipaddr : UInt32) : Bool :=
  peer.valid && peer.allowedSourceIps.any (·.routes ipaddr)

def peerLookupByReceiver (peer : WireguardPeer) (receiver : UInt32) : Bool :=
  peer.valid &&
    (peer.curr.valid && peer.curr.localIndex == receiver ||
      peer.next.valid && peer.next.localIndex == receiver ||
      peer.prev.valid && peer.prev.localIndex == receiver)

def peerLookupByHandshake (peer : WireguardPeer) (receiver : UInt32) : Bool :=
  peer.valid && (peer.handshake.valid && peer.handshake.initiator &&
    peer.handshake.localIndex == receiver)

/-! ## Sending -/

structure OutputOutside where
  expiryNow : UInt32
  allocated : Bool
  sent : Err
  now : UInt32
  rekeyNow : UInt32

/-- The current key pair, unless it has not been confirmed yet. -/
def sendingSlot (peer : WireguardPeer) : Slot :=
  if peer.curr.valid && !peer.curr.initiator && peer.curr.lastRx == 0 then .prev else .curr

/-- Whether a key pair may still be used. -/
def WireguardKeypair.inUse (keypair : WireguardKeypair) (now : UInt32) : Bool :=
  !wireguardExpired now keypair.keypairMillis rejectAfterTime &&
    keypair.sendingCounter < rejectAfterMessages

/-- Round up to 16 bytes. -/
def paddedText (unpadded : Bytes) : Bytes :=
  unpadded ++ List.replicate ((unpadded.length + 15) / 16 * 16 - unpadded.length) 0

/-- A packet has been encrypted with `wireguard_encrypt_packet` and sent. -/
def afterSending (outside : OutputOutside) (unpaddedLen : Nat) (slot : Slot)
    (peer : WireguardPeer) : WireguardPeer :=
  let keypair := peer.keypair slot
  let keypair := { keypair with sendingCounter := keypair.sendingCounter + 1 }
  let keypair := if outside.sent = .ok then { keypair with lastTx := outside.now } else keypair
  let peer := peer.setKeypair keypair slot
  let peer :=
    if outside.sent = .ok then
      { peer with
        lastTx := outside.now
        txBytes := peer.txBytes + UInt64.ofNat unpaddedLen }
    else peer
  if keypair.sendingCounter ≥ rekeyAfterMessages ∨
      keypair.initiator = true ∧
        wireguardExpired outside.rekeyNow keypair.keypairMillis rekeyAfterTime = true then
    { peer with sendHandshake := true }
  else peer

/-- `q` is `none` for a keep-alive. -/
def wireguardifOutputToPeer (outside : OutputOutside) (q : Option Bytes)
    (peer : WireguardPeer) : WireguardPeer × Err × List WgAction :=
  let slot := sendingSlot peer
  let keypair := peer.keypair slot
  if keypair.valid && (keypair.initiator || keypair.lastRx != 0) then
    if keypair.inUse outside.expiryNow then
      if outside.allocated then
        let unpadded := q.getD []
        (afterSending outside unpadded.length slot peer, outside.sent,
          [.transport peer.ip peer.port keypair.remoteIndex keypair.sendingKey
            keypair.sendingCounter (paddedText unpadded)])
      else (peer, .mem, [])
    else (peer.destroyKeypair slot, .conn, [])
  else (peer, .conn, [])

def wireguardifOutput (outside : OutputOutside) (q : Bytes) (ip4addr : UInt32)
    (peer : WireguardPeer) : WireguardPeer × Err × List WgAction :=
  if peerLookupByAllowedIp peer ip4addr then
    wireguardifOutputToPeer outside (some q) peer
  else (peer, .rte, [])

def wireguardifSendKeepalive (outside : OutputOutside) (peer : WireguardPeer) :
    WireguardPeer × List WgAction :=
  let result := wireguardifOutputToPeer outside none peer
  (result.1, result.2.2)

/-! ## Handshakes -/

structure StartOutside where
  draws : HandshakeDraws
  allocated : Bool
  sent : Err
  sentNow : UInt32

def wireguardStartHandshake (outside : StartOutside) (device : WireguardDevice) :
    WireguardPeer × Err × List WgAction :=
  let created := wireguardCreateHandshakeInitiation outside.draws device
  match created.2 with
  | none => (created.1, .arg, [])
  | some msg =>
      if outside.allocated then
        ({ created.1 with
            sendHandshake := false
            lastInitiationTx := outside.sentNow
            handshakeMac1 := msg.mac1
            handshakeMac1Valid := true },
          outside.sent, [.send created.1.ip created.1.port msg.bytes])
      else (created.1, .mem, [])

structure ResponseOutside where
  draws : HandshakeDraws
  sessionNow : UInt32
  allocated : Bool

def wireguardifSendHandshakeResponse (outside : ResponseOutside) (device : WireguardDevice) :
    WireguardPeer × List WgAction :=
  let created := wireguardCreateHandshakeResponse outside.draws device
  match created.2 with
  | none => (created.1, [])
  | some msg =>
      let keypair := sessionKeypair outside.sessionNow created.1.handshake false
      (wireguardStartSession outside.sessionNow false created.1,
        .started keypair ::
          if outside.allocated then [.send created.1.ip created.1.port msg.bytes] else [])

structure ConclusionOutside where
  sessionNow : UInt32
  keepalive : OutputOutside

def wireguardifProcessResponseMessage (outside : ConclusionOutside)
    (response : MessageHandshakeResponse) (addr : UInt32) (port : UInt16)
    (device : WireguardDevice) : WireguardPeer × List WgAction :=
  match wireguardProcessHandshakeResponse response device with
  | none => (device.peer, [])
  | some peer =>
      let peer := updatePeerAddr peer addr port
      let keypair := sessionKeypair outside.sessionNow peer.handshake true
      let peer := wireguardStartSession outside.sessionNow true peer
      let kept := wireguardifSendKeepalive outside.keepalive peer
      (kept.1, .started keypair :: (kept.2 ++ [.linkUp]))

def wireguardProcessCookieMessage (now : UInt32) (src : MessageCookieReply)
    (peer : WireguardPeer) : Option WireguardPeer :=
  if peer.handshakeMac1Valid then
    (xchacha20poly1305Decrypt src.encCookie peer.handshakeMac1 src.nonce
      peer.labelCookieKey).map fun cookie =>
        { peer with
          cookie := cookie
          cookieMillis := now
          handshakeMac1Valid := false }
  else none

/-! ## Packets that arrive -/

structure DataOutside where
  expiryNow : UInt32
  allocated : Bool
  now : UInt32
  rekeyNow : UInt32

def wireguardDecryptPacket (src : Bytes) (counter : UInt64) (keypair : WireguardKeypair) :
    Option Bytes :=
  chacha20poly1305Decrypt src [] counter keypair.receivingKey

/-- `PP_NTOHS(IPH_LEN(iphdr))`. -/
def headerLength (packet : Bytes) : Nat :=
  (byteAt packet 2).toNat * 256 + (byteAt packet 3).toNat

/-- `dest_ok`, with a header that does not lie about the size.  The length of
an IPv6 packet is read where an IPv4 packet has it. -/
def acceptsPacket (peer : WireguardPeer) (packet : Bytes) : Bool :=
  let version := byteAt packet 0 >>> 4
  let destOk :=
    version == 4 && peer.allowedSourceIps.any (·.routes (u8To32Little (packet.drop 16))) ||
      version == 6
  decide (headerLength packet ≤ packet.length) && destOk

/-- A packet has been authenticated under the key pair of a slot. -/
def afterReceiving (outside : DataOutside) (length : Nat) (addr : UInt32) (port : UInt16)
    (slot : Slot) (peer : WireguardPeer) : WireguardPeer :=
  let peer := updatePeerAddr peer addr port
  let peer := peer.setKeypair { peer.keypair slot with lastRx := outside.now } slot
  let peer :=
    { peer with
      lastRx := outside.now
      rxBytes := peer.rxBytes + UInt64.ofNat (length - 16) }
  let peer := keypairUpdate peer slot
  -- the pointer goes on pointing to the slot, which is cleared when it was the next one
  let keypair := peer.keypair slot
  if keypair.initiator = true ∧
      wireguardExpired outside.rekeyNow keypair.keypairMillis
        (rejectAfterTime - peer.keepaliveInterval.toUInt32 - rekeyTimeout) = true then
    { peer with sendHandshake := true }
  else peer

/-- The replay check of a packet, on the key pair that the slot has by now. -/
def checkArrival (counter : UInt64) (slot : Slot) (peer : WireguardPeer) :
    Bool × WireguardPeer :=
  let keypair := peer.keypair slot
  let checked := wireguardCheckReplay counter keypair.replay
  (checked.1, peer.setKeypair { keypair with replay := checked.2 } slot)

def wireguardifProcessDataMessage (outside : DataOutside) (dataHdr : MessageTransportData)
    (addr : UInt32) (port : UInt16) (peer : WireguardPeer) : WireguardPeer × List WgAction :=
  match getPeerKeypairForIdx peer dataHdr.receiver with
  | none => (peer, [])
  | some slot =>
      let keypair := peer.keypair slot
      if keypair.receivingValid && keypair.inUse outside.expiryNow then
        if outside.allocated then
          match wireguardDecryptPacket dataHdr.encPacket dataHdr.counter keypair with
          | none => (peer, [])
          | some packet =>
              let key := keypair.receivingKey
              let seen : List WgAction := [.authenticated key dataHdr.counter, .linkUp]
              let peer := afterReceiving outside dataHdr.encPacket.length addr port slot peer
              if packet.length > 0 then
                let checked := checkArrival dataHdr.counter slot peer
                (checked.2,
                  seen ++
                    if checked.1 && acceptsPacket peer packet then
                      [.deliver key dataHdr.counter packet]
                    else [])
              else (peer, seen)
        else (peer, [])
      else (peer.destroyKeypair slot, [])

structure RxOutside where
  now : UInt32
  response : ResponseOutside
  conclusion : ConclusionOutside
  data : DataOutside

/-- The code of a message over its first bytes; `wireguard_is_under_load` is
never true, so that nothing else is checked. -/
def checkMessage (device : WireguardDevice) (data : Bytes) : Bool :=
  wireguardCheckMac1 device (data.take (data.length - 32)) (field data (data.length - 32) 16)

def wireguardifNetworkRx (outside : RxOutside) (data : Bytes) (addr : UInt32) (port : UInt16)
    (device : WireguardDevice) : WireguardPeer × List WgAction :=
  match wireguardGetMessageType data with
  | .handshakeInitiation =>
      if checkMessage device data then
        match wireguardProcessInitiationMessage outside.now
            (MessageHandshakeInitiation.ofBytes data) device with
        | none => (device.peer, [])
        | some peer =>
            wireguardifSendHandshakeResponse outside.response
              (device.withPeer (updatePeerAddr peer addr port))
      else (device.peer, [])
  | .handshakeResponse =>
      let response := MessageHandshakeResponse.ofBytes data
      if checkMessage device data && peerLookupByHandshake device.peer response.receiver then
        wireguardifProcessResponseMessage outside.conclusion response addr port device
      else (device.peer, [])
  | .cookieReply =>
      let cookie := MessageCookieReply.ofBytes data
      if peerLookupByHandshake device.peer cookie.receiver then
        match wireguardProcessCookieMessage outside.now cookie device.peer with
        | none => (device.peer, [])
        | some peer => (updatePeerAddr peer addr port, [])
      else (device.peer, [])
  | .transportData =>
      let dataHdr := MessageTransportData.ofBytes data
      if peerLookupByReceiver device.peer dataHdr.receiver then
        wireguardifProcessDataMessage outside.data dataHdr addr port device.peer
      else (device.peer, [])
  | .invalid => (device.peer, [])

/-! ## The timer -/

structure TimerOutside where
  resetNow : UInt32
  destroyNow : UInt32
  keepaliveNow : UInt32
  keepalive : OutputOutside
  initiationNow : UInt32
  rejectNow : UInt32
  start : StartOutside

def wireguardifCanSendInitiation (now : UInt32) (peer : WireguardPeer) : Bool :=
  peer.lastInitiationTx == 0 || wireguardExpired now peer.lastInitiationTx rekeyTimeout

def shouldSendInitiation (now rejectNow : UInt32) (peer : WireguardPeer) : Bool :=
  wireguardifCanSendInitiation now peer &&
    (peer.sendHandshake ||
      peer.curr.valid && !peer.curr.initiator &&
        wireguardExpired rejectNow peer.curr.keypairMillis
          (rejectAfterTime - peer.keepaliveInterval.toUInt32) ||
      !peer.curr.valid && peer.active)

def shouldSendKeepalive (now : UInt32) (peer : WireguardPeer) : Bool :=
  decide (peer.keepaliveInterval > 0) && (peer.curr.valid || peer.prev.valid) &&
    wireguardExpired now peer.lastTx peer.keepaliveInterval.toUInt32

def shouldDestroyCurrentKeypair (now : UInt32) (peer : WireguardPeer) : Bool :=
  peer.curr.valid &&
    (wireguardExpired now peer.curr.keypairMillis rejectAfterTime ||
      peer.curr.sendingCounter ≥ rejectAfterMessages)

def shouldResetPeer (now : UInt32) (peer : WireguardPeer) : Bool :=
  peer.curr.valid && wireguardExpired now peer.curr.keypairMillis (rejectAfterTime * 3)

/-- All crypto state is wiped out. -/
def resetPeer (peer : WireguardPeer) : WireguardPeer :=
  { peer with
    next := WireguardKeypair.zero
    curr := WireguardKeypair.zero
    prev := WireguardKeypair.zero
    handshake := handshakeDestroy peer.handshake
    ip := peer.connectIp
    port := peer.connectPort }

def wireguardifTmr (outside : TimerOutside) (device : WireguardDevice) :
    WireguardPeer × List WgAction :=
  let peer := device.peer
  if peer.valid then
    let peer := if shouldResetPeer outside.resetNow peer then resetPeer peer else peer
    let peer :=
      if shouldDestroyCurrentKeypair outside.destroyNow peer then peer.destroyKeypair .curr
      else peer
    let kept :=
      if shouldSendKeepalive outside.keepaliveNow peer then
        wireguardifSendKeepalive outside.keepalive peer
      else (peer, [])
    let started :=
      if shouldSendInitiation outside.initiationNow outside.rejectNow kept.1 then
        let result := wireguardStartHandshake outside.start (device.withPeer kept.1)
        (result.1, result.2.2)
      else (kept.1, [])
    (started.1,
      kept.2 ++ started.2 ++
        if started.1.curr.valid || started.1.prev.valid then [] else [.linkDown])
  else (peer, [.linkDown])

/-! ## Control -/

def wireguardifConnect (device : WireguardDevice) : WireguardPeer × Err :=
  let peer := device.peer
  if device.valid && peer.valid then
    if peer.connectIp ≠ 0 ∧ peer.connectPort > 0 then
      ({ peer with
          active := true
          ip := peer.connectIp
          port := peer.connectPort }, .ok)
    else (peer, .arg)
  else (peer, .arg)

def wireguardifDisconnect (device : WireguardDevice) : WireguardPeer × Err :=
  let peer := device.peer
  if device.valid && peer.valid then
    ({ peer with
        active := false
        next := WireguardKeypair.zero
        curr := WireguardKeypair.zero
        prev := WireguardKeypair.zero }, .ok)
  else (peer, .arg)

def wireguardifPeerIsUp (device : WireguardDevice) : Err :=
  if device.valid && device.peer.valid then
    if device.peer.curr.valid || device.peer.prev.valid then .ok else .conn
  else .arg

def wireguardifRemovePeer (device : WireguardDevice) : WireguardPeer × Err :=
  if device.valid && device.peer.valid then (WireguardPeer.zero, .ok) else (device.peer, .arg)

def wireguardifUpdateEndpoint (ip : UInt32) (port : UInt16) (device : WireguardDevice) :
    WireguardPeer × Err :=
  if device.valid && device.peer.valid then
    ({ device.peer with
        connectIp := ip
        connectPort := port }, .ok)
  else (device.peer, .arg)

end EchoMic
