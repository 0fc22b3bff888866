import EchoMic.InterleavedFrames

/-!
# Sending one RTP packet

`sendRTPPacket` writes an RTSP interleaved header, an RTP header and the
samples in network order, each with its own `writeAll` loop.  Every turn of
such a loop reads the clock and calls `WiFiClient::write`; what the clock and
the socket answer is an input of the model.
-/

namespace EchoMic

open InterleavedFrames

/-- One turn of the loop in `writeAll`: the 50 ms limit has passed, or
`WiFiClient::write` returns `count`. -/
inductive WriteOutcome
  | expired
  | wrote (count : Int)
  deriving DecidableEq

/-- The result of `writeAll` and the bytes the socket accepts.  A script that
ends before the data is out stands for a socket that is not ready again
before the limit. -/
def writeAll : List UInt8 → List WriteOutcome → Bool × List UInt8
  | [], _ => (true, [])
  | _ :: _, [] => (false, [])
  | _ :: _, .expired :: _ => (false, [])
  | byte :: bytes, .wrote count :: outcomes =>
      if count ≤ 0 then (false, [])
      else
        let rest := writeAll ((byte :: bytes).drop count.toNat) outcomes
        (rest.1, (byte :: bytes).take count.toNat ++ rest.2)

/-- What the environment answers during one call of `sendRTPPacket`. -/
structure SendOutcome where
  connected : Bool
  inter : List WriteOutcome
  header : List WriteOutcome
  payload : List WriteOutcome
  deriving DecidableEq

/-- The largest block of samples the audio task can hand over: `httpSet`
accepts buffer sizes up to this one. -/
def maxBufferSize : Nat := 8192

/-- A processed block of samples, as 16-bit patterns. -/
structure AudioBlock where
  samples : List UInt16
  length_le : samples.length ≤ maxBufferSize
  deriving DecidableEq

/-- The globals that `sendRTPPacket` reads and writes, and the bytes that the
socket has accepted from it since PLAY. -/
structure Sender where
  rtpSequence : UInt16
  rtpTimestamp : UInt32
  rtpSSRC : UInt32
  audioPacketsSent : UInt32
  audioPacketsDropped : UInt32
  consecutiveWriteFailures : UInt32
  streamClient : Bool
  isStreaming : Bool
  core1OwnsLED : Bool
  clientOpen : Bool
  accepted : List UInt8
  deriving DecidableEq

def maxWriteFailures : UInt32 := 100

/-- `client.stop()` and the flags that Core 1 clears after it. -/
def Sender.disconnect (sender : Sender) : Sender :=
  { sender with
    clientOpen := false
    streamClient := false
    isStreaming := false
    core1OwnsLED := false }

/-- The RTSP interleaved header, on channel 0. -/
def interHeader (packetSize : UInt16) : List UInt8 :=
  [0x24, 0x00, ((packetSize >>> 8) &&& 0xFF).toUInt8,
    (packetSize &&& 0xFF).toUInt8]

/-- The RTP header: version 2, payload type 96, no marker. -/
def rtpHeader (rtpSequence : UInt16) (rtpTimestamp rtpSSRC : UInt32) :
    List UInt8 :=
  [0x80, 96,
    ((rtpSequence >>> 8) &&& 0xFF).toUInt8, (rtpSequence &&& 0xFF).toUInt8,
    ((rtpTimestamp >>> 24) &&& 0xFF).toUInt8,
    ((rtpTimestamp >>> 16) &&& 0xFF).toUInt8,
    ((rtpTimestamp >>> 8) &&& 0xFF).toUInt8, (rtpTimestamp &&& 0xFF).toUInt8,
    ((rtpSSRC >>> 24) &&& 0xFF).toUInt8, ((rtpSSRC >>> 16) &&& 0xFF).toUInt8,
    ((rtpSSRC >>> 8) &&& 0xFF).toUInt8, (rtpSSRC &&& 0xFF).toUInt8]

/-- The byte swap done on every sample before it is sent. -/
def swapSample (sample : UInt16) : UInt16 :=
  (sample <<< 8) ||| (sample >>> 8)

/-- A sample in the memory of the little-endian target. -/
def sampleMemory (sample : UInt16) : List UInt8 :=
  [(sample &&& 0xFF).toUInt8, ((sample >>> 8) &&& 0xFF).toUInt8]

/-- The audio buffer after the swap loop, read as bytes. -/
def audioBytes (audioData : List UInt16) : List UInt8 :=
  (audioData.map swapSample).flatMap sampleMemory

def payloadSize (numSamples : Nat) : UInt16 :=
  UInt16.ofNat (numSamples * 2)

def packetSize (numSamples : Nat) : UInt16 :=
  12 + payloadSize numSamples

/-- Calls of `writeAll` joined by `&&`: the first that fails is the last. -/
def writeBuffers : List (List UInt8 × List WriteOutcome) → Bool × List UInt8
  | [] => (true, [])
  | (data, outcomes) :: buffers =>
      let written := writeAll data outcomes
      if !written.1 then (false, written.2)
      else
        let rest := writeBuffers buffers
        (rest.1, written.2 ++ rest.2)

/-- The buffers of one packet, with what the socket answers for each. -/
def packetBuffers (sender : Sender) (audioData : List UInt16)
    (outcome : SendOutcome) : List (List UInt8 × List WriteOutcome) :=
  [(interHeader (packetSize audioData.length), outcome.inter),
    (rtpHeader sender.rtpSequence sender.rtpTimestamp sender.rtpSSRC,
      outcome.header),
    ((audioBytes audioData).take (payloadSize audioData.length).toNat,
      outcome.payload)]

def writePacket (sender : Sender) (audioData : List UInt16)
    (outcome : SendOutcome) : Bool × List UInt8 :=
  writeBuffers (packetBuffers sender audioData outcome)

def sendRTPPacket (sender : Sender) (audioData : List UInt16)
    (outcome : SendOutcome) : Sender :=
  if !outcome.connected then sender.disconnect
  else
    let written := writePacket sender audioData outcome
    let sender := { sender with accepted := sender.accepted ++ written.2 }
    if written.1 then
      { sender with
        rtpSequence := sender.rtpSequence + 1
        rtpTimestamp := sender.rtpTimestamp + UInt32.ofNat audioData.length
        audioPacketsSent := sender.audioPacketsSent + 1
        consecutiveWriteFailures := 0 }
    else
      let sender := { sender with
        audioPacketsDropped := sender.audioPacketsDropped + 1
        consecutiveWriteFailures := sender.consecutiveWriteFailures + 1 }
      if maxWriteFailures ≤ sender.consecutiveWriteFailures then
        { sender with consecutiveWriteFailures := 0 }.disconnect
      else sender

/-- Whether a call takes the success branch of `sendRTPPacket`. -/
def sendSucceeds (sender : Sender) (audioData : List UInt16)
    (outcome : SendOutcome) : Bool :=
  outcome.connected && (writePacket sender audioData outcome).1

/-! ## What the write loops put on the wire -/

theorem writeAll_isInitial (data : List UInt8) (outcomes : List WriteOutcome) :
    (writeAll data outcomes).2 <+: data := by
  induction outcomes generalizing data with
  | nil => cases data <;> simp [writeAll]
  | cons outcome outcomes ih =>
      cases data with
      | nil => simp [writeAll]
      | cons byte bytes =>
          cases outcome with
          | expired => simp [writeAll]
          | wrote count =>
              by_cases refused : count ≤ 0
              · simp [writeAll, refused]
              · obtain ⟨rest, split⟩ := ih ((byte :: bytes).drop count.toNat)
                refine ⟨rest, ?_⟩
                simp only [writeAll, if_neg refused, List.append_assoc, split,
                  List.take_append_drop]

/-- `writeAll` reports success exactly when the socket accepted everything. -/
theorem writeAll_success_iff (data : List UInt8) (outcomes : List WriteOutcome) :
    (writeAll data outcomes).1 = true ↔ (writeAll data outcomes).2 = data := by
  induction outcomes generalizing data with
  | nil => cases data <;> simp [writeAll]
  | cons outcome outcomes ih =>
      cases data with
      | nil => simp [writeAll]
      | cons byte bytes =>
          cases outcome with
          | expired => simp [writeAll]
          | wrote count =>
              by_cases refused : count ≤ 0
              · simp [writeAll, refused]
              · have step := ih ((byte :: bytes).drop count.toNat)
                simp only [writeAll, if_neg refused]
                rw [step]
                constructor
                · intro restEq
                  rw [restEq, List.take_append_drop]
                · intro allEq
                  have split := List.take_append_drop count.toNat (byte :: bytes)
                  exact List.append_cancel_left (allEq.trans split.symm)

/-- The first turn of a write loop accepts nothing. -/
def RefusesFirst (outcomes : List WriteOutcome) : Prop :=
  ∀ count, outcomes.head? = some (.wrote count) → count ≤ 0

instance (outcomes : List WriteOutcome) : Decidable (RefusesFirst outcomes) :=
  match outcomes with
  | [] => isTrue (by simp [RefusesFirst])
  | .expired :: _ => isTrue (by simp [RefusesFirst])
  | .wrote count :: _ =>
      decidable_of_iff (count ≤ 0) (by simp [RefusesFirst])

theorem writeAll_accepts_nil_iff (byte : UInt8) (bytes : List UInt8)
    (outcomes : List WriteOutcome) :
    (writeAll (byte :: bytes) outcomes).2 = [] ↔ RefusesFirst outcomes := by
  match outcomes with
  | [] | .expired :: _ => simp [writeAll, RefusesFirst]
  | .wrote count :: _ =>
      by_cases refused : count ≤ 0
      · simp [writeAll, RefusesFirst, refused]
      · have positive : count.toNat ≠ 0 := by omega
        simp [writeAll, RefusesFirst, refused, positive]

theorem writeBuffers_prefix (buffers : List (List UInt8 × List WriteOutcome)) :
    (writeBuffers buffers).2 <+: buffers.flatMap Prod.fst := by
  induction buffers with
  | nil => simp [writeBuffers]
  | cons buffer buffers ih =>
      obtain ⟨data, outcomes⟩ := buffer
      simp only [writeBuffers, List.flatMap_cons]
      split
      · exact (writeAll_isInitial data outcomes).trans (List.prefix_append _ _)
      · rename_i written
        rw [(writeAll_success_iff data outcomes).mp (by simpa using written)]
        exact (List.prefix_append_right_inj data).mpr ih

theorem writeBuffers_success_iff
    (buffers : List (List UInt8 × List WriteOutcome)) :
    (writeBuffers buffers).1 = true ↔
      (writeBuffers buffers).2 = buffers.flatMap Prod.fst := by
  induction buffers with
  | nil => simp [writeBuffers]
  | cons buffer buffers ih =>
      obtain ⟨data, outcomes⟩ := buffer
      simp only [writeBuffers, List.flatMap_cons]
      split
      · rename_i failed
        have notAll : (writeAll data outcomes).2 ≠ data := fun all =>
          by simp [(writeAll_success_iff data outcomes).mpr all] at failed
        have isPrefix := writeAll_isInitial data outcomes
        simp only [Bool.false_eq_true, false_iff]
        intro all
        apply notAll
        apply isPrefix.eq_of_length_le
        have lengthEq := congrArg List.length all
        rw [List.length_append] at lengthEq
        omega
      · rename_i written
        rw [(writeAll_success_iff data outcomes).mp (by simpa using written),
          List.append_cancel_left_eq]
        exact ih

theorem writeBuffers_accepts_nil_iff (byte : UInt8) (bytes : List UInt8)
    (outcomes : List WriteOutcome)
    (buffers : List (List UInt8 × List WriteOutcome)) :
    (writeBuffers ((byte :: bytes, outcomes) :: buffers)).2 = [] ↔
      RefusesFirst outcomes := by
  have first := writeAll_accepts_nil_iff byte bytes outcomes
  rw [← first]
  simp only [writeBuffers]
  split
  · rfl
  · rename_i written
    rw [(writeAll_success_iff _ _).mp (by simpa using written)]
    simp

/-! ## The packet as one interleaved frame -/

@[simp]
theorem rtpHeader_length (rtpSequence : UInt16) (rtpTimestamp rtpSSRC : UInt32) :
    (rtpHeader rtpSequence rtpTimestamp rtpSSRC).length = 12 :=
  rfl

@[simp]
theorem audioBytes_length (audioData : List UInt16) :
    (audioBytes audioData).length = 2 * audioData.length := by
  induction audioData with
  | nil => rfl
  | cons sample audioData ih =>
      simp only [audioBytes, List.map_cons, List.flatMap_cons,
        List.length_append, List.length_cons] at ih ⊢
      rw [ih]
      simp only [sampleMemory, List.length_cons, List.length_nil]
      omega

theorem packet_payload_lt (rtpSequence : UInt16) (rtpTimestamp rtpSSRC : UInt32)
    (block : AudioBlock) :
    (rtpHeader rtpSequence rtpTimestamp rtpSSRC ++ audioBytes block.samples).length <
      65536 := by
  have bound := block.length_le
  simp only [maxBufferSize] at bound
  simp only [List.length_append, rtpHeader_length, audioBytes_length]
  omega

/-- The frame that one call of `sendRTPPacket` puts together. -/
def packetFrame (sender : Sender) (block : AudioBlock) : Frame where
  channel := 0
  payload :=
    rtpHeader sender.rtpSequence sender.rtpTimestamp sender.rtpSSRC ++
      audioBytes block.samples
  payload_lt := packet_payload_lt _ _ _ block

theorem payloadSize_toNat (block : AudioBlock) :
    (payloadSize block.samples.length).toNat = 2 * block.samples.length := by
  have bound := block.length_le
  simp only [maxBufferSize] at bound
  simp only [payloadSize, UInt16.toNat_ofNat']
  omega

theorem packetSize_toNat (block : AudioBlock) :
    (packetSize block.samples.length).toNat =
      2 * block.samples.length + 12 := by
  have bound := block.length_le
  have size := payloadSize_toNat block
  simp only [maxBufferSize] at bound
  simp only [packetSize, UInt16.toNat_add, size, UInt16.reduceToNat]
  omega

/-- The two length bytes of the interleaved header, for any packet size. -/
theorem interHeader_eq (size : UInt16) :
    interHeader size =
      [marker, 0, (lengthBytes size.toNat).1, (lengthBytes size.toNat).2] := by
  have high : ((size >>> 8) &&& 0xFF).toUInt8 = UInt8.ofNat (size.toNat / 256) := by
    apply UInt8.toNat.inj
    simp [UInt8.toNat_ofNat', Nat.shiftRight_eq_div_pow, Nat.and_two_pow_sub_one_eq_mod _ 8]
  have low : (size &&& 0xFF).toUInt8 = UInt8.ofNat size.toNat := by
    apply UInt8.toNat.inj
    simp [Nat.and_two_pow_sub_one_eq_mod _ 8]
  simp [interHeader, lengthBytes, high, low, marker]

/-- The three buffers of a packet are its encoded frame. -/
theorem packetBuffers_bytes (sender : Sender) (block : AudioBlock)
    (outcome : SendOutcome) :
    (packetBuffers sender block.samples outcome).flatMap Prod.fst =
      (packetFrame sender block).encode := by
  have sizeEq : (packetSize block.samples.length).toNat =
      (packetFrame sender block).payload.length := by
    simp only [packetFrame, List.length_append, rtpHeader_length,
      audioBytes_length, packetSize_toNat]
    omega
  simp only [packetBuffers, List.flatMap_cons, List.flatMap_nil,
    payloadSize_toNat, ← audioBytes_length, List.take_length, interHeader_eq,
    sizeEq, Frame.encode]
  simp [packetFrame]

theorem writePacket_prefix (sender : Sender) (block : AudioBlock)
    (outcome : SendOutcome) :
    (writePacket sender block.samples outcome).2 <+:
      (packetFrame sender block).encode := by
  rw [← packetBuffers_bytes sender block outcome]
  exact writeBuffers_prefix _

theorem writePacket_success_iff (sender : Sender) (block : AudioBlock)
    (outcome : SendOutcome) :
    (writePacket sender block.samples outcome).1 = true ↔
      (writePacket sender block.samples outcome).2 =
        (packetFrame sender block).encode := by
  rw [← packetBuffers_bytes sender block outcome]
  exact writeBuffers_success_iff _

theorem writePacket_accepts_nil_iff (sender : Sender)
    (audioData : List UInt16) (outcome : SendOutcome) :
    (writePacket sender audioData outcome).2 = [] ↔
      RefusesFirst outcome.inter :=
  writeBuffers_accepts_nil_iff _ _ _ _

/-! ## One call of `sendRTPPacket` -/

/-- What a call adds to the accepted bytes. -/
def sendAdds (sender : Sender) (audioData : List UInt16)
    (outcome : SendOutcome) : List UInt8 :=
  if outcome.connected then (writePacket sender audioData outcome).2 else []

theorem sendRTPPacket_accepted (sender : Sender) (audioData : List UInt16)
    (outcome : SendOutcome) :
    (sendRTPPacket sender audioData outcome).accepted =
      sender.accepted ++ sendAdds sender audioData outcome := by
  unfold sendRTPPacket sendAdds
  cases outcome.connected with
  | false => simp [Sender.disconnect]
  | true =>
      simp only [Bool.not_true, Bool.false_eq_true, if_false, if_true]
      split
      · rfl
      · split <;> rfl

theorem sendRTPPacket_audioPacketsSent (sender : Sender)
    (audioData : List UInt16) (outcome : SendOutcome) :
    (sendRTPPacket sender audioData outcome).audioPacketsSent =
      if sendSucceeds sender audioData outcome then sender.audioPacketsSent + 1
      else sender.audioPacketsSent := by
  unfold sendRTPPacket sendSucceeds
  cases outcome.connected with
  | false => rfl
  | true =>
      simp only [Bool.not_true, Bool.false_eq_true, if_false, Bool.true_and]
      split
      · rfl
      · split <;> rfl

/-- Only a packet that is sent is counted in the RTP header. -/
theorem sendRTPPacket_numbering (sender : Sender) (audioData : List UInt16)
    (outcome : SendOutcome) :
    let next := sendRTPPacket sender audioData outcome
    next.rtpSSRC = sender.rtpSSRC ∧
      next.rtpSequence =
        (if sendSucceeds sender audioData outcome then sender.rtpSequence + 1
        else sender.rtpSequence) ∧
      next.rtpTimestamp =
        if sendSucceeds sender audioData outcome then
          sender.rtpTimestamp + UInt32.ofNat audioData.length
        else sender.rtpTimestamp := by
  unfold sendRTPPacket sendSucceeds
  cases outcome.connected with
  | false => exact ⟨rfl, rfl, rfl⟩
  | true =>
      simp only [Bool.not_true, Bool.false_eq_true, if_false, Bool.true_and]
      split
      · exact ⟨rfl, rfl, rfl⟩
      · split <;> exact ⟨rfl, rfl, rfl⟩

theorem sendAdds_prefix (sender : Sender) (block : AudioBlock)
    (outcome : SendOutcome) :
    sendAdds sender block.samples outcome <+:
      (packetFrame sender block).encode := by
  unfold sendAdds
  split
  · exact writePacket_prefix sender block outcome
  · exact List.nil_prefix

/-- A call takes its success branch exactly when it adds its whole frame. -/
theorem sendSucceeds_iff (sender : Sender) (block : AudioBlock)
    (outcome : SendOutcome) :
    sendSucceeds sender block.samples outcome = true ↔
      sendAdds sender block.samples outcome =
        (packetFrame sender block).encode := by
  unfold sendSucceeds sendAdds
  cases outcome.connected with
  | false => simp [Frame.encode]
  | true => simpa using writePacket_success_iff sender block outcome

theorem sendAdds_nil_iff (sender : Sender) (audioData : List UInt16)
    (outcome : SendOutcome) :
    sendAdds sender audioData outcome = [] ↔
      outcome.connected = false ∨ RefusesFirst outcome.inter := by
  unfold sendAdds
  cases outcome.connected with
  | false => simp
  | true => simpa using writePacket_accepts_nil_iff sender audioData outcome

end EchoMic
