import EchoMic.WireGuardHandshake
import Mathlib.Tactic.SplitIfs

/-!
# Messages as bytes

A received buffer is cast to the message that its first byte names.  The casts
read back what a message was written as.
-/

namespace EchoMic

theorem length_u32To8Little (v : UInt32) : (u32To8Little v).length = 4 :=
  rfl

theorem length_u64To8Little (v : UInt64) : (u64To8Little v).length = 8 :=
  rfl

theorem u8To32Little_append (v : UInt32) (rest : Bytes) :
    u8To32Little (u32To8Little v ++ rest) = v :=
  u8To32Little_u32To8Little v

theorem u8To64Little_append (v : UInt64) (rest : Bytes) :
    u8To64Little (u64To8Little v ++ rest) = v :=
  u8To64Little_u64To8Little v

theorem field_skip {head rest : Bytes} {offset size : Nat} (behind : head.length ≤ offset) :
    field (head ++ rest) offset size = field rest (offset - head.length) size := by
  rw [field, field, List.drop_append, List.drop_eq_nil_of_le behind, List.nil_append]

theorem field_here {here rest : Bytes} {size : Nat} (length : here.length = size) :
    field (here ++ rest) 0 size = here := by
  subst length
  rw [field, List.drop_zero, List.take_left]

theorem field_last {here : Bytes} {size : Nat} (length : here.length = size) :
    field here 0 size = here := by
  subst length
  rw [field, List.drop_zero, List.take_length]

/-! ## The initiation -/

/-- The sizes of the arrays of the packed structure. -/
structure MessageHandshakeInitiation.Sized (msg : MessageHandshakeInitiation) : Prop where
  ephemeral : msg.ephemeral.length = 32
  encStatic : msg.encStatic.length = 48
  encTimestamp : msg.encTimestamp.length = 28
  mac1 : msg.mac1.length = 16
  mac2 : msg.mac2.length = 16

namespace MessageHandshakeInitiation

theorem ofBytes_bytes {msg : MessageHandshakeInitiation} (sized : msg.Sized) :
    ofBytes msg.bytes = msg := by
  obtain ⟨sender, ephemeral, encStatic, encTimestamp, mac1, mac2⟩ := msg
  obtain ⟨ephemeralSize, encStaticSize, encTimestampSize, mac1Size, mac2Size⟩ := sized
  dsimp only at ephemeralSize encStaticSize encTimestampSize mac1Size mac2Size
  have word := length_u32To8Little sender
  have head : ([1, 0, 0, 0] : Bytes).length = 4 := rfl
  simp (disch := omega) only [ofBytes, bytes, macText, List.append_assoc, field_skip, head, word,
    ephemeralSize, encStaticSize, encTimestampSize, mac1Size, Nat.reduceSub, field_here,
    field_last]
  congr 1
  exact u8To32Little_append sender _

theorem length_macText {msg : MessageHandshakeInitiation} (sized : msg.Sized) :
    msg.macText.length = 116 := by
  simp only [macText, List.length_append, length_u32To8Little, sized.ephemeral, sized.encStatic,
    sized.encTimestamp]
  rfl

theorem length_bytes {msg : MessageHandshakeInitiation} (sized : msg.Sized) :
    msg.bytes.length = 148 := by
  rw [bytes, List.length_append, List.length_append, length_macText sized, sized.mac1, sized.mac2]

theorem type_bytes {msg : MessageHandshakeInitiation} (sized : msg.Sized) :
    wireguardGetMessageType msg.bytes = .handshakeInitiation := by
  rw [wireguardGetMessageType, length_bytes sized]
  rfl

end MessageHandshakeInitiation

/-! ## The response -/

structure MessageHandshakeResponse.Sized (msg : MessageHandshakeResponse) : Prop where
  ephemeral : msg.ephemeral.length = 32
  encEmpty : msg.encEmpty.length = 16
  mac1 : msg.mac1.length = 16
  mac2 : msg.mac2.length = 16

namespace MessageHandshakeResponse

theorem ofBytes_bytes {msg : MessageHandshakeResponse} (sized : msg.Sized) :
    ofBytes msg.bytes = msg := by
  obtain ⟨sender, receiver, ephemeral, encEmpty, mac1, mac2⟩ := msg
  obtain ⟨ephemeralSize, encEmptySize, mac1Size, mac2Size⟩ := sized
  dsimp only at ephemeralSize encEmptySize mac1Size mac2Size
  have first := length_u32To8Little sender
  have second := length_u32To8Little receiver
  have head : ([2, 0, 0, 0] : Bytes).length = 4 := rfl
  simp (disch := omega) only [ofBytes, bytes, macText, List.append_assoc, field_skip, head, first,
    second, ephemeralSize, encEmptySize, mac1Size, Nat.reduceSub, field_here, field_last]
  congr 1
  · exact u8To32Little_append sender _
  · exact u8To32Little_append receiver _

theorem length_macText {msg : MessageHandshakeResponse} (sized : msg.Sized) :
    msg.macText.length = 60 := by
  simp only [macText, List.length_append, length_u32To8Little, sized.ephemeral, sized.encEmpty]
  rfl

theorem length_bytes {msg : MessageHandshakeResponse} (sized : msg.Sized) :
    msg.bytes.length = 92 := by
  rw [bytes, List.length_append, List.length_append, length_macText sized, sized.mac1, sized.mac2]

theorem type_bytes {msg : MessageHandshakeResponse} (sized : msg.Sized) :
    wireguardGetMessageType msg.bytes = .handshakeResponse := by
  rw [wireguardGetMessageType, length_bytes sized]
  rfl

end MessageHandshakeResponse

/-! ## Cookies -/

namespace MessageCookieReply

theorem ofBytes_bytes {msg : MessageCookieReply} (nonceSize : msg.nonce.length = 24)
    (encCookieSize : msg.encCookie.length = 32) : ofBytes msg.bytes = msg := by
  obtain ⟨receiver, nonce, encCookie⟩ := msg
  dsimp only at nonceSize encCookieSize
  have word := length_u32To8Little receiver
  have head : ([3, 0, 0, 0] : Bytes).length = 4 := rfl
  simp (disch := omega) only [ofBytes, bytes, List.append_assoc, field_skip, head, word, nonceSize,
    Nat.reduceSub, field_here, field_last]
  congr 1
  exact u8To32Little_append receiver _

theorem type_bytes {msg : MessageCookieReply} (nonceSize : msg.nonce.length = 24)
    (encCookieSize : msg.encCookie.length = 32) :
    wireguardGetMessageType msg.bytes = .cookieReply := by
  have length : msg.bytes.length = 64 := by
    simp only [bytes, List.length_append, length_u32To8Little, nonceSize, encCookieSize]
    rfl
  rw [wireguardGetMessageType, length]
  rfl

end MessageCookieReply

/-! ## Packets -/

namespace MessageTransportData

theorem ofBytes_bytes (msg : MessageTransportData) : ofBytes msg.bytes = msg := by
  obtain ⟨receiver, counter, encPacket⟩ := msg
  have whole : bytes ⟨receiver, counter, encPacket⟩ =
      ([4, 0, 0, 0] ++ u32To8Little receiver ++ u64To8Little counter) ++ encPacket := rfl
  rw [ofBytes, whole]
  congr 1
  · exact u8To32Little_append receiver _
  · exact u8To64Little_append counter _

theorem type_bytes {msg : MessageTransportData} (authenticated : 16 ≤ msg.encPacket.length) :
    wireguardGetMessageType msg.bytes = .transportData := by
  have length : msg.bytes.length = 16 + msg.encPacket.length := by
    simp only [bytes, List.length_append, length_u32To8Little, length_u64To8Little]
    rfl
  have large : 16 + msg.encPacket.length ≥ 16 + 16 := Nat.add_le_add_left authenticated 16
  have enough : 16 + msg.encPacket.length ≥ 4 := by omega
  rw [wireguardGetMessageType, length, if_pos enough, if_pos large]
  rfl

end MessageTransportData

/-! ## All messages -/

theorem u32To8Little_u8To32Little {data : Bytes} (long : 4 ≤ data.length) :
    u32To8Little (u8To32Little data) = data.take 4 := by
  match data, long with
  | p0 :: p1 :: p2 :: p3 :: more, _ =>
      apply littleEndian_inj
      · rfl
      · rw [littleEndian_u32To8Little, toNat_u8To32Little]
        rfl

theorem u64To8Little_u8To64Little {data : Bytes} (long : 8 ≤ data.length) :
    u64To8Little (u8To64Little data) = data.take 8 := by
  match data, long with
  | p0 :: p1 :: p2 :: p3 :: p4 :: p5 :: p6 :: p7 :: more, _ =>
      apply littleEndian_inj
      · rfl
      · rw [littleEndian_u64To8Little, toNat_u8To64Little]
        rfl

theorem take_append_field (data : Bytes) (offset size : Nat) :
    data.take offset ++ field data offset size = data.take (offset + size) :=
  List.take_add.symm

/-- A word that is read from a buffer is written as the bytes it was read from. -/
theorem write_word {data : Bytes} {offset : Nat} (inside : offset + 4 ≤ data.length) :
    u32To8Little (u8To32Little (data.drop offset)) = field data offset 4 :=
  u32To8Little_u8To32Little (by rw [List.length_drop]; omega)

/-- What the type of a buffer says about its first bytes and its length. -/
def startsMessage (type : MessageType) (data : Bytes) : Prop :=
  match type with
  | .invalid => False
  | .handshakeInitiation => data.take 4 = [1, 0, 0, 0] ∧ data.length = 148
  | .handshakeResponse => data.take 4 = [2, 0, 0, 0] ∧ data.length = 92
  | .cookieReply => data.take 4 = [3, 0, 0, 0] ∧ data.length = 64
  | .transportData => data.take 4 = [4, 0, 0, 0] ∧ 32 ≤ data.length

theorem startsMessage_type {data : Bytes} (valid : wireguardGetMessageType data ≠ .invalid) :
    startsMessage (wireguardGetMessageType data) data := by
  obtain _ | ⟨p0, _ | ⟨p1, _ | ⟨p2, _ | ⟨p3, more⟩⟩⟩⟩ := data
  all_goals try exact absurd rfl valid
  have bytes : ∀ index, byteAt (p0 :: p1 :: p2 :: p3 :: more) index =
      (p0 :: p1 :: p2 :: p3 :: more).getD index 0 := fun _ => rfl
  revert valid
  simp only [wireguardGetMessageType, bytes, List.getD_cons_zero, List.getD_cons_succ]
  split_ifs <;> simp_all [startsMessage]

theorem startsMessage_of_type {data : Bytes} {type : MessageType}
    (named : wireguardGetMessageType data = type) (valid : type ≠ .invalid) :
    startsMessage type data := by
  subst named
  exact startsMessage_type valid

theorem MessageHandshakeInitiation.bytes_ofBytes {data : Bytes}
    (starts : startsMessage .handshakeInitiation data) :
    (ofBytes data).Sized ∧ (ofBytes data).bytes = data := by
  obtain ⟨type, length⟩ := starts
  have sender := write_word (show 4 + 4 ≤ data.length by omega)
  constructor
  · constructor <;> simp only [ofBytes, field, List.length_take, List.length_drop, length] <;> rfl
  · simp only [bytes, macText, ofBytes, sender, ← type, take_append_field, Nat.reduceAdd]
    exact List.take_of_length_le length.le

theorem MessageHandshakeResponse.bytes_ofBytes {data : Bytes}
    (starts : startsMessage .handshakeResponse data) :
    (ofBytes data).Sized ∧ (ofBytes data).bytes = data := by
  obtain ⟨type, length⟩ := starts
  have sender := write_word (show 4 + 4 ≤ data.length by omega)
  have receiver := write_word (show 8 + 4 ≤ data.length by omega)
  constructor
  · constructor <;> simp only [ofBytes, field, List.length_take, List.length_drop, length] <;> rfl
  · simp only [bytes, macText, ofBytes, sender, receiver, ← type, take_append_field, Nat.reduceAdd]
    exact List.take_of_length_le length.le

/-- The sizes of the arrays of the packed structure. -/
structure MessageCookieReply.Sized (msg : MessageCookieReply) : Prop where
  nonce : msg.nonce.length = 24
  encCookie : msg.encCookie.length = 32

theorem MessageCookieReply.bytes_ofBytes {data : Bytes} (starts : startsMessage .cookieReply data) :
    (ofBytes data).Sized ∧ (ofBytes data).bytes = data := by
  obtain ⟨type, length⟩ := starts
  have receiver := write_word (show 4 + 4 ≤ data.length by omega)
  constructor
  · constructor <;> simp only [ofBytes, field, List.length_take, List.length_drop, length] <;> rfl
  · simp only [bytes, ofBytes, receiver, ← type, take_append_field, Nat.reduceAdd]
    exact List.take_of_length_le length.le

theorem MessageTransportData.bytes_ofBytes {data : Bytes}
    (starts : startsMessage .transportData data) :
    16 ≤ (ofBytes data).encPacket.length ∧ (ofBytes data).bytes = data := by
  obtain ⟨type, length⟩ := starts
  have receiver := write_word (show 4 + 4 ≤ data.length by omega)
  have counter : u64To8Little (u8To64Little (data.drop 8)) = field data 8 8 :=
    u64To8Little_u8To64Little (by rw [List.length_drop]; omega)
  constructor
  · rw [ofBytes, List.length_drop]
    omega
  · simp only [bytes, ofBytes, receiver, counter, ← type, take_append_field, Nat.reduceAdd]
    exact List.take_append_drop 16 data

/-- A message of any type. -/
inductive WgMessage where
  | initiation (msg : MessageHandshakeInitiation)
  | response (msg : MessageHandshakeResponse)
  | cookieReply (msg : MessageCookieReply)
  | transportData (msg : MessageTransportData)

namespace WgMessage

def bytes : WgMessage → Bytes
  | .initiation msg => msg.bytes
  | .response msg => msg.bytes
  | .cookieReply msg => msg.bytes
  | .transportData msg => msg.bytes

def Sized : WgMessage → Prop
  | .initiation msg => msg.Sized
  | .response msg => msg.Sized
  | .cookieReply msg => msg.Sized
  | .transportData msg => 16 ≤ msg.encPacket.length

/-- The cast that the type of a buffer selects. -/
def ofBytes (data : Bytes) : Option WgMessage :=
  match wireguardGetMessageType data with
  | .invalid => none
  | .handshakeInitiation => some (.initiation (.ofBytes data))
  | .handshakeResponse => some (.response (.ofBytes data))
  | .cookieReply => some (.cookieReply (.ofBytes data))
  | .transportData => some (.transportData (.ofBytes data))

theorem ofBytes_bytes {msg : WgMessage} (sized : msg.Sized) : ofBytes msg.bytes = some msg := by
  cases msg with
  | initiation msg =>
      simp only [ofBytes, bytes, MessageHandshakeInitiation.type_bytes sized,
        MessageHandshakeInitiation.ofBytes_bytes sized]
  | response msg =>
      simp only [ofBytes, bytes, MessageHandshakeResponse.type_bytes sized,
        MessageHandshakeResponse.ofBytes_bytes sized]
  | cookieReply msg =>
      obtain ⟨nonce, encCookie⟩ := sized
      simp only [ofBytes, bytes, MessageCookieReply.type_bytes nonce encCookie,
        MessageCookieReply.ofBytes_bytes nonce encCookie]
  | transportData msg =>
      simp only [ofBytes, bytes, MessageTransportData.type_bytes sized,
        MessageTransportData.ofBytes_bytes]

theorem sized_of_ofBytes {data : Bytes} {msg : WgMessage} (read : ofBytes data = some msg) :
    msg.Sized ∧ msg.bytes = data := by
  unfold ofBytes at read
  cases type : wireguardGetMessageType data with
  | invalid => simp [type] at read
  | handshakeInitiation =>
      simp only [type, Option.some.injEq] at read
      obtain rfl := read
      exact MessageHandshakeInitiation.bytes_ofBytes (startsMessage_of_type type (by decide))
  | handshakeResponse =>
      simp only [type, Option.some.injEq] at read
      obtain rfl := read
      exact MessageHandshakeResponse.bytes_ofBytes (startsMessage_of_type type (by decide))
  | cookieReply =>
      simp only [type, Option.some.injEq] at read
      obtain rfl := read
      exact MessageCookieReply.bytes_ofBytes (startsMessage_of_type type (by decide))
  | transportData =>
      simp only [type, Option.some.injEq] at read
      obtain rfl := read
      exact MessageTransportData.bytes_ofBytes (startsMessage_of_type type (by decide))

end WgMessage

/-- A datagram is read as a message exactly when it is what that message, with
arrays of the right sizes, is written as. -/
theorem message_read_iff_written (data : Bytes) (msg : WgMessage) :
    WgMessage.ofBytes data = some msg ↔ msg.Sized ∧ msg.bytes = data := by
  constructor
  · exact WgMessage.sized_of_ofBytes
  · rintro ⟨sized, rfl⟩
    exact WgMessage.ofBytes_bytes sized

end EchoMic
