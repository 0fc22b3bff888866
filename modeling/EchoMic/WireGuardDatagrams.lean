import EchoMic.WireGuardPackets

/-!
# A handshake over datagrams

The messages of a handshake have the sizes of their packed structures and
carry the code that the other end checks.  This file follows them through
`wireguardif_network_rx` of both ends, up to the first packet of the session.
-/

namespace EchoMic

/-! ## Sizes -/

theorem length_wireguardBlake2sOf {outlen : Nat} {key : Bytes} (positive : outlen ≠ 0)
    (short : outlen ≤ 32) (keyShort : key.length ≤ 32) (updates : List Bytes) :
    (wireguardBlake2sOf outlen key updates).length = outlen := by
  have legal : ¬ (outlen = 0 ∨ outlen > 32 ∨ key.length > 32) := by omega
  obtain ⟨ctx, init⟩ : ∃ ctx, blake2sInit outlen key = some ctx := by
    unfold blake2sInit
    rw [if_neg legal]
    split <;> exact ⟨_, rfl⟩
  have hashes := Blake2s.hashes_pieces (Blake2s.hashes_init init) updates
  rw [wireguardBlake2sOf, init, Option.map_some, Option.getD_some,
    Blake2s.final_of_hashes hashes, Blake2s.digest, Blake2s.digestBytes, List.length_map,
    List.length_range]

theorem length_wireguardMacKey (publicKey label : Bytes) :
    (wireguardMacKey publicKey label).length = 32 :=
  length_wireguardBlake2sOf (by decide) (by decide) (by decide) _

theorem length_wireguardMac (message : Bytes) {key : Bytes} (short : key.length ≤ 32) :
    (wireguardMac message key).length = 16 :=
  length_wireguardBlake2sOf (by decide) (by decide) short _

theorem length_cookieMac (now : UInt32) {peer : WireguardPeer} (cookie : peer.cookie.length = 16)
    (text : Bytes) : (cookieMac now peer text).length = 16 := by
  unfold cookieMac
  split
  · rfl
  · exact length_wireguardMac text (by omega)

/-- Each end computes the first code with the key that the other end checks
it with. -/
theorem Introduced.labelMac1Key {initiator responder : WireguardDevice}
    (introduced : Introduced initiator responder) :
    initiator.peer.labelMac1Key = responder.labelMac1Key ∧
      responder.peer.labelMac1Key = initiator.labelMac1Key := by
  obtain ⟨⟨first, firstKeys⟩, ⟨second, secondKeys⟩, presharedKey, knows, known⟩ := introduced
  exact ⟨knows.labelMac1Key.trans secondKeys.labelMac1Key.symm,
    known.labelMac1Key.trans firstKeys.labelMac1Key.symm⟩

theorem Introduced.length_labelMac1Key {initiator responder : WireguardDevice}
    (introduced : Introduced initiator responder) :
    initiator.peer.labelMac1Key.length = 32 ∧ responder.peer.labelMac1Key.length = 32 := by
  obtain ⟨-, -, presharedKey, knows, known⟩ := introduced
  rw [knows.labelMac1Key, known.labelMac1Key]
  exact ⟨length_wireguardMacKey _ _, length_wireguardMacKey _ _⟩

theorem Introduced.length_publicKey {initiator responder : WireguardDevice}
    (introduced : Introduced initiator responder) : initiator.publicKey.length = 32 := by
  obtain ⟨⟨first, firstKeys⟩, -⟩ := introduced
  exact length_generatePublicKey firstKeys.generated

section Initiation

variable {draws : HandshakeDraws} {initiator responder : WireguardDevice} {peer : WireguardPeer}
  {msg : MessageHandshakeInitiation} {secret : Bytes}

theorem CreatesInitiation.mac1 (creates : CreatesInitiation draws initiator peer msg secret) :
    msg.mac1 = wireguardMac msg.macText initiator.peer.labelMac1Key := by
  obtain ⟨bare, rfl⟩ := creates.finished
  rfl

theorem CreatesInitiation.sized (introduced : Introduced initiator responder)
    (creates : CreatesInitiation draws initiator peer msg secret)
    (timestamp : draws.timestamp.length = 12) (cookie : initiator.peer.cookie.length = 16) :
    msg.Sized := by
  have encStatic := congrArg (fun fields => fields.1.length) creates.fields
  have encTimestamp := congrArg (fun fields => fields.2.length) creates.fields
  simp only [initiationFields, ChaCha20Poly1305.length_encrypt] at encStatic encTimestamp
  constructor
  · exact length_generatePublicKey creates.ephemeral
  · rw [← encStatic, introduced.length_publicKey]
  · rw [← encTimestamp, timestamp]
  · rw [creates.mac1]
    exact length_wireguardMac _ introduced.length_labelMac1Key.1.le
  · obtain ⟨bare, rfl⟩ := creates.finished
    exact length_cookieMac _ cookie _

end Initiation

section Response

variable {draws : HandshakeDraws} {initiator responder : WireguardDevice} {peer : WireguardPeer}
  {msg : MessageHandshakeResponse} {ephemeralSecret staticSecret : Bytes}
  {derived : WireguardHandshake × Bytes}

theorem CreatesResponse.mac1
    (creates : CreatesResponse draws responder peer msg ephemeralSecret staticSecret derived) :
    msg.mac1 = wireguardMac msg.macText responder.peer.labelMac1Key := by
  obtain ⟨bare, rfl⟩ := creates.finished
  rfl

theorem CreatesResponse.sized (introduced : Introduced initiator responder)
    (creates : CreatesResponse draws responder peer msg ephemeralSecret staticSecret derived)
    (cookie : responder.peer.cookie.length = 16) : msg.Sized := by
  constructor
  · exact length_generatePublicKey creates.ephemeral
  · rw [creates.encEmpty, ChaCha20Poly1305.length_encrypt, List.length_nil]
  · rw [creates.mac1]
    exact length_wireguardMac _ introduced.length_labelMac1Key.2.le
  · obtain ⟨bare, rfl⟩ := creates.finished
    exact length_cookieMac _ cookie _

end Response

/-! ## The first code -/

/-- A text that carries its code passes the check. -/
theorem checkMessage_of_mac1 {device : WireguardDevice} {text mac1 mac2 : Bytes}
    (computed : mac1 = wireguardMac text device.labelMac1Key) (mac1Size : mac1.length = 16)
    (mac2Size : mac2.length = 16) : checkMessage device (text ++ mac1 ++ mac2) = true := by
  have length : (text ++ mac1 ++ mac2).length - 32 = text.length := by
    rw [List.length_append, List.length_append]
    omega
  unfold checkMessage wireguardCheckMac1
  rw [length, List.append_assoc, List.take_left, field_skip (Nat.le_refl _), Nat.sub_self,
    field_here mac1Size, ← computed]
  exact cryptoEqual_self mac1 16

/-! ## The datagrams of a handshake -/

section Initiation

variable {draws : HandshakeDraws} {initiator responder : WireguardDevice} {peer : WireguardPeer}
  {msg : MessageHandshakeInitiation} {secret : Bytes}

theorem networkRx_initiation (introduced : Introduced initiator responder)
    (creates : CreatesInitiation draws initiator peer msg secret) (sized : msg.Sized)
    (outside : RxOutside) (addr : UInt32) (port : UInt16)
    (newer : memcmpLe draws.timestamp responder.peer.greatestTimestamp = false)
    (spaced : ¬ responder.peer.lastInitiationRx - outside.now < 1000 / 2) :
    ∃ handshake, SameTranscript peer.handshake handshake ∧
      wireguardifNetworkRx outside msg.bytes addr port responder =
        wireguardifSendHandshakeResponse outside.response
          (responder.withPeer (updatePeerAddr
            (responder.peer.accepting outside.now msg draws.timestamp handshake) addr port)) := by
  obtain ⟨handshake, transcript, processed⟩ := creates.processed introduced newer spaced
  have mac1 := creates.mac1
  rw [introduced.labelMac1Key.1] at mac1
  have checked : checkMessage responder msg.bytes = true :=
    checkMessage_of_mac1 mac1 sized.mac1 sized.mac2
  refine ⟨handshake, transcript, ?_⟩
  unfold wireguardifNetworkRx
  rw [MessageHandshakeInitiation.type_bytes sized]
  dsimp only
  rw [if_pos checked, MessageHandshakeInitiation.ofBytes_bytes sized, processed]

end Initiation

section Response

variable {draws : HandshakeDraws} {initiator responder : WireguardDevice} {peer : WireguardPeer}
  {msg : MessageHandshakeResponse} {ephemeralSecret staticSecret : Bytes}
  {derived : WireguardHandshake × Bytes}

theorem networkRx_response (introduced : Introduced initiator responder)
    (answering : Answering initiator responder)
    (creates : CreatesResponse draws responder peer msg ephemeralSecret staticSecret derived)
    (sized : msg.Sized) (outside : RxOutside) (addr : UInt32) (port : UInt16) :
    ∃ handshake, Concluded (initiator.peer.withHandshake handshake) peer ∧
      wireguardifNetworkRx outside msg.bytes addr port initiator =
        let keypair := sessionKeypair outside.conclusion.sessionNow handshake true
        let kept := wireguardifSendKeepalive outside.conclusion.keepalive
          (wireguardStartSession outside.conclusion.sessionNow true
            (updatePeerAddr (initiator.peer.withHandshake handshake) addr port))
        (kept.1, .started keypair :: (kept.2 ++ [.linkUp])) := by
  obtain ⟨handshake, processed, concluded⟩ := creates.processed introduced answering
  have mac1 := creates.mac1
  rw [introduced.labelMac1Key.2] at mac1
  have checked : checkMessage initiator msg.bytes = true :=
    checkMessage_of_mac1 mac1 sized.mac1 sized.mac2
  have found : peerLookupByHandshake initiator.peer msg.receiver = true := by
    obtain ⟨-, -, presharedKey, knows, -⟩ := introduced
    obtain ⟨valid, initiates⟩ := answering.initiates
    rw [peerLookupByHandshake, knows.valid, valid, initiates, creates.receiver,
      answering.remoteIndex]
    exact beq_self_eq_true _
  refine ⟨handshake, concluded, ?_⟩
  unfold wireguardifNetworkRx
  rw [MessageHandshakeResponse.type_bytes sized]
  dsimp only
  rw [MessageHandshakeResponse.ofBytes_bytes sized, checked, found, Bool.and_self, if_pos rfl,
    wireguardifProcessResponseMessage, processed]
  rfl

end Response

/-! ## What both ends keep -/

/-- The initiation that `wireguard_start_handshake` sends. -/
theorem startHandshake_sends {outside : StartOutside} {device : WireguardDevice}
    {waiting : WireguardPeer} {err : Err} {ip : UInt32} {port : UInt16} {datagram : Bytes}
    (started : wireguardStartHandshake outside device =
      (waiting, err, [.send ip port datagram])) :
    ∃ peer msg secret, CreatesInitiation outside.draws device peer msg secret ∧
      datagram = msg.bytes ∧ waiting.handshake = peer.handshake ∧
      SameKeys waiting device.peer := by
  obtain ⟨peer, outcome, created⟩ : ∃ peer outcome,
      wireguardCreateHandshakeInitiation outside.draws device = (peer, outcome) := ⟨_, _, rfl⟩
  unfold wireguardStartHandshake at started
  rw [created] at started
  cases outcome with
  | none => cases started
  | some msg =>
      dsimp only at started
      split at started
      · simp only [Prod.mk.injEq, List.cons.injEq, WgAction.send.injEq, and_true] at started
        obtain ⟨rfl, -, -, -, rfl⟩ := started
        obtain ⟨secret, creates⟩ := createsInitiation_of_some created
        obtain ⟨valid, publicKey, presharedKey, publicKeyDh, labelMac1Key⟩ := creates.sameKeys
        exact ⟨peer, msg, secret, creates, rfl, rfl, valid, publicKey, presharedKey, publicKeyDh,
          labelMac1Key⟩
      · cases started

/-- The response that is sent, with the session behind it. -/
theorem sendHandshakeResponse_sends {outside : ResponseOutside} {device : WireguardDevice}
    {ip : UInt32} {port : UInt16} {datagram : Bytes}
    (sent : .send ip port datagram ∈ (wireguardifSendHandshakeResponse outside device).2) :
    ∃ peer msg ephemeralSecret staticSecret derived,
      CreatesResponse outside.draws device peer msg ephemeralSecret staticSecret derived ∧
      ip = peer.ip ∧ port = peer.port ∧ datagram = msg.bytes ∧
      (wireguardifSendHandshakeResponse outside device).1 =
        wireguardStartSession outside.sessionNow false peer := by
  obtain ⟨peer, outcome, created⟩ : ∃ peer outcome,
      wireguardCreateHandshakeResponse outside.draws device = (peer, outcome) := ⟨_, _, rfl⟩
  unfold wireguardifSendHandshakeResponse at sent ⊢
  rw [created] at sent ⊢
  cases outcome with
  | none => cases sent
  | some msg =>
      dsimp only at sent
      split at sent
      · simp only [List.mem_cons, reduceCtorEq, WgAction.send.injEq, List.not_mem_nil, or_false,
          false_or] at sent
        obtain ⟨rfl, rfl, rfl⟩ := sent
        obtain ⟨ephemeralSecret, staticSecret, derived, creates⟩ :=
          createsResponse_of_some created
        exact ⟨peer, msg, ephemeralSecret, staticSecret, derived, creates, rfl, rfl, rfl, rfl⟩
      · simp at sent

/-- An index that has been drawn is none of those in use. -/
theorem indexAllowed_of_generated {peer : WireguardPeer} {draws : List UInt32} {index : UInt32}
    (generated : wireguardGenerateUniqueIndex peer draws = some index) :
    indexAllowed peer index = true :=
  List.find?_some generated

theorem ne_curr_of_indexAllowed {peer : WireguardPeer} {index : UInt32}
    (allowed : indexAllowed peer index = true) : index ≠ peer.curr.localIndex := by
  rintro rfl
  simp [indexAllowed] at allowed

theorem curr_startSession (now : UInt32) (peer : WireguardPeer) :
    (wireguardStartSession now true peer).curr = sessionKeypair now peer.handshake true := by
  unfold wireguardStartSession addNewKeypair
  dsimp only [sessionKeypair]
  rw [if_pos rfl]
  split <;> rfl

theorem valid_startSession (now : UInt32) (initiator : Bool) (peer : WireguardPeer) :
    (wireguardStartSession now initiator peer).valid = peer.valid := by
  unfold wireguardStartSession addNewKeypair
  dsimp only
  (repeat' split) <;> rfl

theorem next_startSession (now : UInt32) (peer : WireguardPeer) :
    (wireguardStartSession now false peer).next = sessionKeypair now peer.handshake false ∧
      (wireguardStartSession now false peer).curr = peer.curr := by
  unfold wireguardStartSession addNewKeypair
  dsimp only [sessionKeypair]
  rw [if_neg Bool.false_ne_true]
  exact ⟨rfl, rfl⟩

theorem CreatesResponse.keeps {draws : HandshakeDraws} {device : WireguardDevice}
    {peer : WireguardPeer} {msg : MessageHandshakeResponse} {ephemeralSecret staticSecret : Bytes}
    {derived : WireguardHandshake × Bytes}
    (creates : CreatesResponse draws device peer msg ephemeralSecret staticSecret derived) :
    peer.valid = device.peer.valid ∧ peer.ip = device.peer.ip ∧ peer.port = device.peer.port ∧
      peer.curr = device.peer.curr ∧ peer.handshake.localIndex = msg.sender := by
  rw [creates.left]
  exact ⟨rfl, rfl, rfl, rfl, rfl⟩

/-- The initiator has concluded the handshake that the responder has
answered. -/
structure Linked (concluded answering : WireguardPeer) : Prop where
  valid : concluded.valid = true ∧ answering.valid = true
  crossed : Crossed concluded.curr answering.next
  fresh : concluded.curr.replay = ReplayState.fresh ∧ answering.next.replay = ReplayState.fresh
  alone : answering.curr.localIndex ≠ answering.next.localIndex

/-! ## The whole handshake -/

/-- An initiation that arrives is answered, and the answer that arrives
concludes the handshake: its first packet is sent by an initiator whose
current key pair is crossed with the next key pair of the responder. -/
theorem handshake_links {start : StartOutside} {initiator responder : WireguardDevice}
    {waiting : WireguardPeer} {err : Err} {ip : UInt32} {port : UInt16} {initiation : Bytes}
    (introduced : Introduced initiator responder)
    (cookie : initiator.peer.cookie.length = 16) (otherCookie : responder.peer.cookie.length = 16)
    (timestamp : start.draws.timestamp.length = 12)
    (started : wireguardStartHandshake start initiator =
      (waiting, err, [.send ip port initiation]))
    {receives : RxOutside} (addr : UInt32) (addrPort : UInt16)
    (newer : memcmpLe start.draws.timestamp responder.peer.greatestTimestamp = false)
    (spaced : ¬ responder.peer.lastInitiationRx - receives.now < 1000 / 2)
    {toIp : UInt32} {toPort : UInt16} {response : Bytes}
    (sent : .send toIp toPort response ∈
      (wireguardifNetworkRx receives initiation addr addrPort responder).2)
    (concludes : RxOutside) (other : UInt32) (otherPort : UInt16) :
    toIp = addr ∧ toPort = addrPort ∧
      ∃ concluded, Linked concluded
          (wireguardifNetworkRx receives initiation addr addrPort responder).1 ∧
        wireguardifNetworkRx concludes response other otherPort (initiator.withPeer waiting) =
          ((wireguardifSendKeepalive concludes.conclusion.keepalive concluded).1,
            .started concluded.curr ::
              ((wireguardifSendKeepalive concludes.conclusion.keepalive concluded).2 ++
                [.linkUp])) := by
  obtain ⟨peer, msg, secret, creates, rfl, handshake, same⟩ := startHandshake_sends started
  obtain ⟨accepted, transcript, answers⟩ := networkRx_initiation introduced creates
    (creates.sized introduced timestamp cookie) receives addr addrPort newer spaced
  rw [answers] at sent ⊢
  obtain ⟨answering, answer, ephemeralSecret, staticSecret, derived, creation, rfl, rfl, rfl,
    session⟩ := sendHandshakeResponse_sends sent
  have bothKeys : Introduced (initiator.withPeer waiting) (responder.withPeer (updatePeerAddr
      (responder.peer.accepting receives.now msg start.draws.timestamp accepted) addr
        addrPort)) :=
    introduced.withPeers same ⟨rfl, rfl, rfl, rfl, rfl⟩
  have ready : Answering (initiator.withPeer waiting) (responder.withPeer (updatePeerAddr
      (responder.peer.accepting receives.now msg start.draws.timestamp accepted) addr
        addrPort)) := by
    constructor <;> simp only [WireguardDevice.withPeer, handshake]
    · exact ⟨creates.valid, creates.initiates⟩
    · exact ⟨rfl, rfl⟩
    · exact ⟨transcript.chainingKey, transcript.hash⟩
    · exact (congrArg wireguardGeneratePublicKey creates.ephemeralPrivate).trans creates.ephemeral
    · exact creates.localIndex.symm
  obtain ⟨concluding, agreed, concluded⟩ := networkRx_response bothKeys ready creation
    (creation.sized bothKeys otherCookie) concludes other otherPort
  obtain ⟨valid, toIp, toPort, curr, localIndex⟩ := creation.keeps
  obtain ⟨-, -, presharedKey, knows, known⟩ := bothKeys
  rw [concluded, session]
  refine ⟨toIp, toPort, wireguardStartSession concludes.conclusion.sessionNow true
    (updatePeerAddr (waiting.withHandshake concluding) other otherPort), ?_, ?_⟩
  · constructor
    · rw [valid_startSession, valid_startSession, valid]
      exact ⟨knows.valid, known.valid⟩
    · rw [curr_startSession, (next_startSession _ _).1]
      exact agreed.crossed _ _
    · rw [curr_startSession, (next_startSession _ _).1]
      exact ⟨rfl, rfl⟩
    · rw [(next_startSession _ _).1, (next_startSession _ _).2, curr, sessionKeypair, localIndex]
      exact (ne_curr_of_indexAllowed (indexAllowed_of_generated creation.sender)).symm
  · dsimp only
    rw [curr_startSession]
    rfl

/-- Both ends send under the session. -/
structure Established (first second : WireguardPeer) : Prop where
  paired : Paired first.curr second.curr
  sends : sendingSlot first = .curr ∧ sendingSlot second = .curr

/-- No packet has been handed over under the session. -/
structure SessionBegun (first second : WireguardPeer) : Prop extends Established first second where
  valid : first.valid = true ∧ second.valid = true
  fresh : first.curr.replay = ReplayState.fresh ∧ second.curr.replay = ReplayState.fresh

theorem sendingSlot_of_initiator {peer : WireguardPeer} (initiates : peer.curr.initiator = true) :
    sendingSlot peer = .curr := by
  simp [sendingSlot, initiates]

theorem sendingSlot_of_received {peer : WireguardPeer} (received : peer.curr.lastRx ≠ 0) :
    sendingSlot peer = .curr := by
  simp [sendingSlot, received]

/-- The packet that concludes the handshake, when it arrives, makes the
session the current one of the responder as well. -/
theorem keepalive_establishes {concluded : WireguardPeer} {device : WireguardDevice}
    (linked : Linked concluded device.peer) {outside : OutputOutside} {action : WgAction}
    (sent : action ∈ (wireguardifSendKeepalive outside concluded).2) {ip : UInt32} {port : UInt16}
    {datagram : Bytes} (leaves : action.datagram = some (ip, port, datagram))
    {arrives : RxOutside}
    (inUse : device.peer.next.inUse arrives.data.expiryNow = true)
    (allocated : arrives.data.allocated = true) (later : arrives.data.now ≠ 0) (addr : UInt32)
    (addrPort : UInt16) :
    SessionBegun (wireguardifSendKeepalive outside concluded).1
      (wireguardifNetworkRx arrives datagram addr addrPort device).1 := by
  obtain ⟨⟨concludedValid, valid⟩, crossed, fresh, apart⟩ := linked
  have slot := sendingSlot_of_initiator crossed.roles.1
  obtain ⟨-, -, rfl, after⟩ := outputToPeer_action sent
  rw [slot] at leaves after
  simp only [WgAction.datagram, Option.some.injEq, Prod.mk.injEq] at leaves
  obtain ⟨-, -, rfl⟩ := leaves
  have kept : (wireguardifSendKeepalive outside concluded).1.curr =
      { concluded.curr with
        sendingCounter := concluded.curr.sendingCounter + 1
        lastTx := if outside.sent = .ok then outside.now else concluded.curr.lastTx } :=
    (congrArg WireguardPeer.curr after).trans (keypair_afterSending outside 0 .curr concluded)
  have found : getPeerKeypairForIdx device.peer concluded.curr.remoteIndex = some .next := by
    rw [crossed.remoteIndex, getPeerKeypairForIdx, crossed.valid.2]
    simp [apart]
  have arrived := networkRx_transport crossed.paired valid found inUse allocated addr addrPort
    concluded.curr.sendingCounter []
  obtain ⟨confirmed, isConfirmed⟩ : ∃ confirmed, (wireguardifNetworkRx arrives
      (MessageTransportData.bytes
        { receiver := concluded.curr.remoteIndex
          counter := concluded.curr.sendingCounter
          encPacket := chacha20poly1305Encrypt [] [] concluded.curr.sendingCounter
            concluded.curr.sendingKey }) addr addrPort device).1 = confirmed := ⟨_, rfl⟩
  have whole : confirmed = afterReceiving arrives.data 16 addr addrPort .next device.peer := by
    rw [← isConfirmed, arrived]
    rfl
  have curr : confirmed.curr = { device.peer.next with lastRx := arrives.data.now } := by
    rw [whole]
    exact curr_afterReceiving_next ..
  refine isConfirmed ▸ ⟨⟨?_, ?_, ?_⟩, ⟨?_, ?_⟩, ?_, ?_⟩
  · obtain ⟨bothValid, forwards, backwards, localIndex, remoteIndex, receives⟩ := crossed.paired
    rw [kept, curr]
    exact ⟨bothValid, forwards, backwards, localIndex, remoteIndex, receives⟩
  · apply sendingSlot_of_initiator
    rw [kept]
    exact crossed.roles.1
  · apply sendingSlot_of_received
    rw [curr]
    exact later
  · refine (congrArg WireguardPeer.valid after).trans ?_
    rw [valid_afterSending]
    exact concludedValid
  · rw [whole, valid_afterReceiving]
    exact valid
  · rw [kept]
    exact fresh.1
  · rw [curr]
    exact fresh.2

end EchoMic
