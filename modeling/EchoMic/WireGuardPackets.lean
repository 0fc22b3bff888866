import EchoMic.HandshakeAgreement
import EchoMic.WireGuardInterface
import EchoMic.WireGuardMessages

/-!
# Packets of a session

What one end sends under the key pair of a session the other end reads, and
nothing is handed to the stack but what was encrypted under the key of a
session.
-/

namespace EchoMic

/-! ## Both ends of a session -/

/-- Key pairs of the two ends of one session, at any time of it. -/
structure Paired (first second : WireguardKeypair) : Prop where
  valid : first.valid = true ∧ second.valid = true
  forwards : first.sendingKey = second.receivingKey
  backwards : first.receivingKey = second.sendingKey
  localIndex : first.localIndex = second.remoteIndex
  remoteIndex : first.remoteIndex = second.localIndex
  receives : first.receivingValid = true ∧ second.receivingValid = true

theorem Paired.symm {first second : WireguardKeypair} (paired : Paired first second) :
    Paired second first :=
  ⟨paired.valid.symm, paired.backwards.symm, paired.forwards.symm, paired.remoteIndex.symm,
    paired.localIndex.symm, paired.receives.symm⟩

/-- A handshake ends with both ends of a session. -/
theorem Crossed.paired {first second : WireguardKeypair} (crossed : Crossed first second) :
    Paired first second :=
  ⟨crossed.valid, crossed.forwards, crossed.backwards, crossed.localIndex, crossed.remoteIndex,
    crossed.receives⟩

/-! ## Sending -/

/-- What a packet leaves as. -/
theorem outputToPeer_action {outside : OutputOutside} {q : Option Bytes} {peer : WireguardPeer}
    {action : WgAction} (member : action ∈ (wireguardifOutputToPeer outside q peer).2.2) :
    (peer.keypair (sendingSlot peer)).valid = true ∧
      (peer.keypair (sendingSlot peer)).inUse outside.expiryNow = true ∧
      action = .transport peer.ip peer.port (peer.keypair (sendingSlot peer)).remoteIndex
        (peer.keypair (sendingSlot peer)).sendingKey
        (peer.keypair (sendingSlot peer)).sendingCounter (paddedText (q.getD [])) ∧
      (wireguardifOutputToPeer outside q peer).1 =
        afterSending outside (q.getD []).length (sendingSlot peer) peer := by
  simp only [wireguardifOutputToPeer] at member ⊢
  split at member
  · rename_i ready
    rw [if_pos ready]
    split at member
    · rename_i inUse
      rw [if_pos inUse]
      split at member
      · rename_i allocated
        rw [if_pos allocated]
        rw [Bool.and_eq_true] at ready
        exact ⟨ready.1, inUse, List.mem_singleton.mp member, rfl⟩
      · cases member
    · cases member
  · cases member

/-- A packet that has been sent has used its counter. -/
theorem keypair_afterSending (outside : OutputOutside) (unpaddedLen : Nat) (slot : Slot)
    (peer : WireguardPeer) :
    (afterSending outside unpaddedLen slot peer).keypair slot =
      { peer.keypair slot with
        sendingCounter := (peer.keypair slot).sendingCounter + 1
        lastTx := if outside.sent = .ok then outside.now else (peer.keypair slot).lastTx } := by
  unfold afterSending
  dsimp only
  by_cases sent : outside.sent = .ok
  · simp only [if_pos sent]
    split <;> cases slot <;> rfl
  · simp only [if_neg sent]
    split <;> cases slot <;> rfl

theorem valid_afterSending (outside : OutputOutside) (unpaddedLen : Nat) (slot : Slot)
    (peer : WireguardPeer) : (afterSending outside unpaddedLen slot peer).valid = peer.valid := by
  unfold afterSending
  dsimp only
  by_cases sent : outside.sent = .ok
  · simp only [if_pos sent]
    split <;> cases slot <;> rfl
  · simp only [if_neg sent]
    split <;> cases slot <;> rfl

/-! ## Receiving -/

theorem getPeerKeypairForIdx_some {peer : WireguardPeer} {idx : UInt32} {slot : Slot}
    (found : getPeerKeypairForIdx peer idx = some slot) :
    (peer.keypair slot).valid = true ∧ (peer.keypair slot).localIndex = idx := by
  unfold getPeerKeypairForIdx at found
  split at found
  · rename_i named
    cases found
    simpa [WireguardPeer.keypair] using named
  · split at found
    · rename_i named
      cases found
      simpa [WireguardPeer.keypair] using named
    · split at found
      · rename_i named
        cases found
        simpa [WireguardPeer.keypair] using named
      · cases found

theorem peerLookupByReceiver_of_some {peer : WireguardPeer} {idx : UInt32} {slot : Slot}
    (valid : peer.valid = true) (found : getPeerKeypairForIdx peer idx = some slot) :
    peerLookupByReceiver peer idx = true := by
  obtain ⟨keypairValid, localIndex⟩ := getPeerKeypairForIdx_some found
  unfold peerLookupByReceiver
  cases slot <;> simp only [WireguardPeer.keypair] at keypairValid localIndex <;>
    simp [valid, keypairValid, localIndex]

/-- The actions of a data message come from a packet that was encrypted under
the key of the slot with its index. -/
theorem processDataMessage_action {outside : DataOutside} {dataHdr : MessageTransportData}
    {addr : UInt32} {port : UInt16} {peer : WireguardPeer} {action : WgAction}
    (member : action ∈ (wireguardifProcessDataMessage outside dataHdr addr port peer).2) :
    ∃ slot packet, getPeerKeypairForIdx peer dataHdr.receiver = some slot ∧
      dataHdr.encPacket = chacha20poly1305Encrypt packet [] dataHdr.counter
        (peer.keypair slot).receivingKey ∧
      (action = .authenticated (peer.keypair slot).receivingKey dataHdr.counter ∨
        action = .linkUp ∨
        action = .deliver (peer.keypair slot).receivingKey dataHdr.counter packet) := by
  unfold wireguardifProcessDataMessage at member
  cases found : getPeerKeypairForIdx peer dataHdr.receiver with
  | none =>
      rw [found] at member
      cases member
  | some slot =>
      rw [found] at member
      dsimp only at member
      split at member
      · split at member
        · cases decrypted : wireguardDecryptPacket dataHdr.encPacket dataHdr.counter
              (peer.keypair slot) with
          | none =>
              rw [decrypted] at member
              cases member
          | some packet =>
              rw [decrypted] at member
              refine ⟨slot, packet, rfl, ChaCha20Poly1305.eq_encrypt_of_decrypt decrypted, ?_⟩
              dsimp only at member
              split at member
              · rcases List.mem_append.mp member with seen | delivered
                · simp only [List.mem_cons, List.not_mem_nil, or_false] at seen
                  exact seen.elim Or.inl fun linkUp => Or.inr (Or.inl linkUp)
                · split at delivered
                  · exact Or.inr (Or.inr (List.mem_singleton.mp delivered))
                  · cases delivered
              · simp only [List.mem_cons, List.not_mem_nil, or_false] at member
                exact member.elim Or.inl fun linkUp => Or.inr (Or.inl linkUp)
        · cases member
      · cases member

/-- Nothing is handed to the stack while a handshake is answered or
concluded. -/
theorem handshake_delivers_nothing (outside : RxOutside) (response : MessageHandshakeResponse)
    (addr : UInt32) (port : UInt16) (device : WireguardDevice) (key : Bytes) (counter : UInt64)
    (packet : Bytes) :
    WgAction.deliver key counter packet ∉
        (wireguardifSendHandshakeResponse outside.response device).2 ∧
      WgAction.deliver key counter packet ∉
        (wireguardifProcessResponseMessage outside.conclusion response addr port device).2 := by
  constructor
  · intro member
    unfold wireguardifSendHandshakeResponse at member
    dsimp only at member
    split at member
    · cases member
    · split at member <;> simp at member
  · intro member
    unfold wireguardifProcessResponseMessage at member
    split at member
    · cases member
    · simp only [List.mem_cons, reduceCtorEq, List.mem_append, List.not_mem_nil, or_false,
        false_or] at member
      exact WgAction.noConfusion (outputToPeer_action member).2.2.1

/-- Every packet that is handed to the stack has come in a datagram that
encrypts it, with its counter, under the receiving key of one of the slots. -/
theorem delivered_is_encrypted {outside : RxOutside} {data : Bytes} {addr : UInt32}
    {port : UInt16} {device : WireguardDevice} {key : Bytes} {counter : UInt64} {packet : Bytes}
    (delivered : .deliver key counter packet ∈
      (wireguardifNetworkRx outside data addr port device).2) :
    ∃ slot, (device.peer.keypair slot).valid = true ∧
      (device.peer.keypair slot).receivingKey = key ∧
      data = MessageTransportData.bytes
        { receiver := (device.peer.keypair slot).localIndex
          counter := counter
          encPacket := chacha20poly1305Encrypt packet [] counter key } := by
  unfold wireguardifNetworkRx at delivered
  cases type : wireguardGetMessageType data with
  | invalid =>
      rw [type] at delivered
      cases delivered
  | handshakeInitiation =>
      rw [type] at delivered
      dsimp only at delivered
      split at delivered
      · split at delivered
        · cases delivered
        · exact absurd delivered (handshake_delivers_nothing outside
            (MessageHandshakeResponse.ofBytes data) addr port _ key counter packet).1
      · cases delivered
  | handshakeResponse =>
      rw [type] at delivered
      dsimp only at delivered
      split at delivered
      · exact absurd delivered
          (handshake_delivers_nothing outside _ addr port device key counter packet).2
      · cases delivered
  | cookieReply =>
      rw [type] at delivered
      dsimp only at delivered
      split at delivered
      · split at delivered <;> cases delivered
      · cases delivered
  | transportData =>
      rw [type] at delivered
      dsimp only at delivered
      split at delivered
      · obtain ⟨slot, text, found, encrypted, outcome⟩ := processDataMessage_action delivered
        obtain ⟨valid, localIndex⟩ := getPeerKeypairForIdx_some found
        obtain ⟨-, written⟩ := MessageTransportData.bytes_ofBytes
          (startsMessage_of_type type (by decide))
        rcases outcome with other | other | same
        · cases other
        · cases other
        · cases same
          refine ⟨slot, valid, rfl, ?_⟩
          rw [localIndex, ← encrypted]
          exact written.symm
      · cases delivered

/-! ## What arrives -/

/-- A message of the other end is read under the slot that its index names. -/
theorem networkRx_transport {sending : WireguardKeypair} {device : WireguardDevice} {slot : Slot}
    (paired : Paired sending (device.peer.keypair slot)) (valid : device.peer.valid = true)
    (found : getPeerKeypairForIdx device.peer sending.remoteIndex = some slot)
    {outside : RxOutside}
    (inUse : (device.peer.keypair slot).inUse outside.data.expiryNow = true)
    (allocated : outside.data.allocated = true) (addr : UInt32) (port : UInt16)
    (counter : UInt64) (text : Bytes) :
    wireguardifNetworkRx outside
        (MessageTransportData.bytes
          { receiver := sending.remoteIndex
            counter := counter
            encPacket := chacha20poly1305Encrypt text [] counter sending.sendingKey })
        addr port device =
      let seen : List WgAction := [.authenticated sending.sendingKey counter, .linkUp]
      let peer := afterReceiving outside.data (text.length + 16) addr port slot device.peer
      if text.length > 0 then
        ((checkArrival counter slot peer).2,
          seen ++
            if (checkArrival counter slot peer).1 && acceptsPacket peer text then
              [.deliver sending.sendingKey counter text]
            else [])
      else (peer, seen) := by
  have decrypted : wireguardDecryptPacket
      (chacha20poly1305Encrypt text [] counter sending.sendingKey) counter
        (device.peer.keypair slot) = some text := by
    rw [wireguardDecryptPacket, ← paired.forwards]
    exact ChaCha20Poly1305.decrypt_encrypt text [] counter sending.sendingKey
  have length := ChaCha20Poly1305.length_encrypt text [] counter sending.sendingKey
  unfold wireguardifNetworkRx
  rw [MessageTransportData.type_bytes (by rw [length]; omega)]
  dsimp only
  rw [MessageTransportData.ofBytes_bytes, if_pos (peerLookupByReceiver_of_some valid found)]
  unfold wireguardifProcessDataMessage
  simp only [found, paired.receives.2, inUse, allocated, decrypted, length, Bool.and_self, if_true,
    ← paired.forwards]

/-- A packet leaves the device alone while no buffer can be had. -/
theorem networkRx_unallocated {sending : WireguardKeypair} {device : WireguardDevice} {slot : Slot}
    (paired : Paired sending (device.peer.keypair slot)) (valid : device.peer.valid = true)
    (found : getPeerKeypairForIdx device.peer sending.remoteIndex = some slot)
    {outside : RxOutside}
    (inUse : (device.peer.keypair slot).inUse outside.data.expiryNow = true)
    (unallocated : outside.data.allocated = false) (addr : UInt32) (port : UInt16)
    (counter : UInt64) (text : Bytes) :
    wireguardifNetworkRx outside
        (MessageTransportData.bytes
          { receiver := sending.remoteIndex
            counter := counter
            encPacket := chacha20poly1305Encrypt text [] counter sending.sendingKey })
        addr port device = (device.peer, []) := by
  have length := ChaCha20Poly1305.length_encrypt text [] counter sending.sendingKey
  unfold wireguardifNetworkRx
  rw [MessageTransportData.type_bytes (by rw [length]; omega)]
  dsimp only
  rw [MessageTransportData.ofBytes_bytes, if_pos (peerLookupByReceiver_of_some valid found)]
  unfold wireguardifProcessDataMessage
  simp only [found, paired.receives.2, inUse, unallocated, Bool.and_self, if_true,
    Bool.false_eq_true, if_false]

/-- The key pair that the replay check of a packet is made on: the next one
has been moved and cleared by then. -/
theorem replay_afterReceiving (outside : DataOutside) (length : Nat) (addr : UInt32)
    (port : UInt16) (slot : Slot) (peer : WireguardPeer) :
    ((afterReceiving outside length addr port slot peer).keypair slot).replay =
      if slot = .next then ReplayState.fresh else (peer.keypair slot).replay := by
  unfold afterReceiving
  dsimp only
  split <;> cases slot <;> rfl

/-- What the device admits into the tunnel does not change when a packet is
received. -/
theorem acceptsPacket_afterReceiving (outside : DataOutside) (length : Nat) (addr : UInt32)
    (port : UInt16) (slot : Slot) (peer : WireguardPeer) (packet : Bytes) :
    acceptsPacket (afterReceiving outside length addr port slot peer) packet =
      acceptsPacket peer packet := by
  unfold afterReceiving
  dsimp only
  split <;> cases slot <;> rfl

/-- A packet of the other end is handed to the stack exactly if it is not
empty, its header is accepted and its counter passes the replay check.  The
first packet of a session is checked on a cleared key pair. -/
theorem delivered_iff {sending : WireguardKeypair} {device : WireguardDevice} {slot : Slot}
    (paired : Paired sending (device.peer.keypair slot)) (valid : device.peer.valid = true)
    (found : getPeerKeypairForIdx device.peer sending.remoteIndex = some slot)
    {outside : RxOutside}
    (inUse : (device.peer.keypair slot).inUse outside.data.expiryNow = true)
    (allocated : outside.data.allocated = true) (addr : UInt32) (port : UInt16)
    (counter : UInt64) (text : Bytes) :
    .deliver sending.sendingKey counter text ∈
        (wireguardifNetworkRx outside
          (MessageTransportData.bytes
            { receiver := sending.remoteIndex
              counter := counter
              encPacket := chacha20poly1305Encrypt text [] counter sending.sendingKey })
          addr port device).2 ↔
      text ≠ [] ∧ acceptsPacket device.peer text = true ∧
        (wireguardCheckReplay counter
          (if slot = .next then ReplayState.fresh
            else (device.peer.keypair slot).replay)).1 = true := by
  rw [networkRx_transport paired valid found inUse allocated]
  have checked : (checkArrival counter slot (afterReceiving outside.data (text.length + 16) addr
      port slot device.peer)).1 =
        (wireguardCheckReplay counter
          (if slot = .next then ReplayState.fresh
            else (device.peer.keypair slot).replay)).1 := by
    rw [checkArrival, replay_afterReceiving]
  dsimp only
  rw [checked, acceptsPacket_afterReceiving, ← List.length_pos_iff]
  by_cases nonempty : 0 < text.length
  · rw [if_pos nonempty]
    simp [nonempty, and_comm]
  · rw [if_neg nonempty]
    simp [nonempty]

/-- The datagram of a packet, whatever way it takes, brings that packet and no
other one to the stack of the other end. -/
theorem sent_packet_arrives {outside : OutputOutside} {q : Bytes} {sender : WireguardPeer}
    {action : WgAction} {ip : UInt32} {port : UInt16} {datagram : Bytes}
    {device : WireguardDevice} {slot : Slot}
    (sent : action ∈ (wireguardifOutputToPeer outside (some q) sender).2.2)
    (leaves : action.datagram = some (ip, port, datagram))
    (paired : Paired (sender.keypair (sendingSlot sender)) (device.peer.keypair slot))
    (valid : device.peer.valid = true)
    (found : getPeerKeypairForIdx device.peer
      (sender.keypair (sendingSlot sender)).remoteIndex = some slot)
    {arrives : RxOutside}
    (inUse : (device.peer.keypair slot).inUse arrives.data.expiryNow = true)
    (allocated : arrives.data.allocated = true) (addr : UInt32) (fromPort : UInt16) :
    .deliver (sender.keypair (sendingSlot sender)).sendingKey
          (sender.keypair (sendingSlot sender)).sendingCounter (paddedText q) ∈
        (wireguardifNetworkRx arrives datagram addr fromPort device).2 ↔
      paddedText q ≠ [] ∧ acceptsPacket device.peer (paddedText q) = true ∧
        (wireguardCheckReplay (sender.keypair (sendingSlot sender)).sendingCounter
          (if slot = .next then ReplayState.fresh
            else (device.peer.keypair slot).replay)).1 = true := by
  obtain ⟨-, -, rfl, -⟩ := outputToPeer_action sent
  simp only [WgAction.datagram, Option.some.injEq, Prod.mk.injEq] at leaves
  obtain ⟨-, -, rfl⟩ := leaves
  exact delivered_iff paired valid found inUse allocated addr fromPort _ _

/-- The next key pair is the current one after its first packet. -/
theorem curr_afterReceiving_next (outside : DataOutside) (length : Nat) (addr : UInt32)
    (port : UInt16) (peer : WireguardPeer) :
    (afterReceiving outside length addr port .next peer).curr =
      { peer.next with lastRx := outside.now } := by
  unfold afterReceiving
  dsimp only
  split <;> rfl

theorem valid_afterReceiving (outside : DataOutside) (length : Nat) (addr : UInt32)
    (port : UInt16) (slot : Slot) (peer : WireguardPeer) :
    (afterReceiving outside length addr port slot peer).valid = peer.valid := by
  unfold afterReceiving
  dsimp only
  split <;> cases slot <;> rfl

theorem checkReplay_fresh {counter : UInt64} (positive : counter ≠ 0) :
    (wireguardCheckReplay counter ReplayState.fresh).1 = true := by
  have newer : counter > ReplayState.fresh.replayCounter := UInt64.pos_iff_ne_zero.mpr positive
  unfold wireguardCheckReplay
  rw [if_pos positive, if_pos newer]

/-- The first packet of a session leaves no trace in the replay window of the
key pair that becomes the current one, so that it is handed to the stack once
more when its datagram comes again. -/
theorem first_packet_arrives_twice {sending : WireguardKeypair} {device : WireguardDevice}
    (paired : Paired sending device.peer.next) (valid : device.peer.valid = true)
    (found : getPeerKeypairForIdx device.peer sending.remoteIndex = some .next)
    (unseen : device.peer.next.replay = ReplayState.fresh) {outside again : RxOutside}
    (inUse : device.peer.next.inUse outside.data.expiryNow = true)
    (inUseAgain : device.peer.next.inUse again.data.expiryNow = true)
    (allocated : outside.data.allocated = true) (allocatedAgain : again.data.allocated = true)
    (addr : UInt32) (port : UInt16) {counter : UInt64} (positive : counter ≠ 0) {text : Bytes}
    (nonempty : text ≠ []) (accepted : acceptsPacket device.peer text = true) {data : Bytes}
    (written : data = MessageTransportData.bytes
      { receiver := sending.remoteIndex
        counter := counter
        encPacket := chacha20poly1305Encrypt text [] counter sending.sendingKey }) :
    .deliver sending.sendingKey counter text ∈
        (wireguardifNetworkRx outside data addr port device).2 ∧
      .deliver sending.sendingKey counter text ∈
        (wireguardifNetworkRx again data addr port
          (device.withPeer (wireguardifNetworkRx outside data addr port device).1)).2 := by
  subst written
  have fresh := checkReplay_fresh positive
  constructor
  · refine (delivered_iff paired valid found inUse allocated addr port counter text).mpr ?_
    exact ⟨nonempty, accepted, fresh⟩
  · obtain ⟨received, isReceived⟩ : ∃ received,
        afterReceiving outside.data (text.length + 16) addr port .next device.peer = received :=
      ⟨_, rfl⟩
    have curr := curr_afterReceiving_next outside.data (text.length + 16) addr port device.peer
    have stays := acceptsPacket_afterReceiving outside.data (text.length + 16) addr port .next
      device.peer text
    have still := valid_afterReceiving outside.data (text.length + 16) addr port .next device.peer
    have arrived : (wireguardifNetworkRx outside
        (MessageTransportData.bytes
          { receiver := sending.remoteIndex
            counter := counter
            encPacket := chacha20poly1305Encrypt text [] counter sending.sendingKey })
        addr port device).1 = (checkArrival counter .next received).2 := by
      rw [networkRx_transport paired valid found inUse allocated, isReceived]
      exact congrArg Prod.fst (if_pos (List.length_pos_iff.mpr nonempty))
    rw [arrived]
    rw [isReceived] at curr stays still
    have moved : (device.withPeer (checkArrival counter .next received).2).peer.keypair .curr =
        { device.peer.next with lastRx := outside.data.now } := curr
    have pairedAgain : Paired sending
        ((device.withPeer (checkArrival counter .next received).2).peer.keypair .curr) := by
      obtain ⟨bothValid, forwards, backwards, localIndex, remoteIndex, receives⟩ := paired
      rw [moved]
      exact ⟨bothValid, forwards, backwards, localIndex, remoteIndex, receives⟩
    have foundAgain : getPeerKeypairForIdx (device.withPeer (checkArrival counter .next
        received).2).peer sending.remoteIndex = some .curr := by
      have named := pairedAgain.remoteIndex.symm
      have alive := pairedAgain.valid.2
      unfold getPeerKeypairForIdx
      simp only [WireguardPeer.keypair] at named alive
      simp [named, alive]
    have inUseStill : ((device.withPeer (checkArrival counter .next received).2).peer.keypair
        .curr).inUse again.data.expiryNow = true := by
      rw [moved]
      exact inUseAgain
    refine (delivered_iff pairedAgain (still.trans valid) foundAgain inUseStill allocatedAgain addr
      port counter text).mpr ⟨nonempty, stays.trans accepted, ?_⟩
    rw [if_neg nofun, moved]
    exact unseen ▸ fresh

/-! ## Cookies -/

/-- A cookie is stored exactly if it has been encrypted, under the key for the
cookies of the peer, with the code of the last handshake message. -/
theorem processCookieMessage_some_iff {now : UInt32} {src : MessageCookieReply}
    {peer next : WireguardPeer} :
    wireguardProcessCookieMessage now src peer = some next ↔
      peer.handshakeMac1Valid = true ∧ ∃ cookie,
        src.encCookie = xchacha20poly1305Encrypt cookie peer.handshakeMac1 src.nonce
          peer.labelCookieKey ∧
        next =
          { peer with
            cookie := cookie
            cookieMillis := now
            handshakeMac1Valid := false } := by
  unfold wireguardProcessCookieMessage xchacha20poly1305Decrypt xchacha20poly1305Encrypt
  constructor
  · intro processed
    split at processed
    · rename_i valid
      obtain ⟨cookie, decrypted, rfl⟩ := Option.map_eq_some_iff.mp processed
      exact ⟨valid, cookie, ChaCha20Poly1305.eq_encrypt_of_decrypt decrypted, rfl⟩
    · cases processed
  · rintro ⟨valid, cookie, encrypted, rfl⟩
    rw [if_pos valid, encrypted, ChaCha20Poly1305.decrypt_encrypt, Option.map_some]

end EchoMic
