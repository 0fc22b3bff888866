import EchoMic.InterleavedFrames

/-!
# RTP packets with linear audio

The receiver's side of a stream: RTP packets in interleaved frames, whose
payload is 16-bit samples in network order (L16).
-/

namespace EchoMic

namespace RtpDecoding

open InterleavedFrames

/-- The value of bytes in network order. -/
def bigEndian (bytes : List UInt8) : Nat :=
  bytes.foldl (fun value byte => value * 256 + byte.toNat) 0

/-- Both bytes of a sample in network order. -/
def networkOrder (sample : UInt16) : List UInt8 :=
  [UInt8.ofNat (sample.toNat / 256), UInt8.ofNat sample.toNat]

/-- Signed samples in network order; an odd byte is none. -/
def decodeL16 : List UInt8 → Option (List Int16)
  | [] => some []
  | [_] => none
  | high :: low :: bytes =>
      (decodeL16 bytes).map ((UInt16.ofNat (bigEndian [high, low])).toInt16 :: ·)

/-- What a receiver reads from one interleaved frame. -/
structure RtpPacket where
  channel : UInt8
  interleavedLength : Nat
  version : Nat
  marker : Bool
  payloadType : Nat
  sequenceNumber : Nat
  timestamp : Nat
  ssrc : Nat
  samples : List Int16
  deriving DecidableEq

/-- Packets with padding or with an extension are not read.  Behind the fixed
header stand four bytes for each contributing source. -/
def decodeRtp (frame : Frame) : Option RtpPacket :=
  match frame.payload with
  | flags :: kind :: s₁ :: s₂ :: t₁ :: t₂ :: t₃ :: t₄ :: i₁ :: i₂ :: i₃ :: i₄ :: rest =>
      if flags.toNat / 16 % 4 ≠ 0 ∨ rest.length < 4 * (flags.toNat % 16) then none
      else
        (decodeL16 (rest.drop (4 * (flags.toNat % 16)))).map fun samples =>
          { channel := frame.channel
            interleavedLength := frame.payload.length
            version := flags.toNat / 64
            marker := kind.toNat / 128 = 1
            payloadType := kind.toNat % 128
            sequenceNumber := bigEndian [s₁, s₂]
            timestamp := bigEndian [t₁, t₂, t₃, t₄]
            ssrc := bigEndian [i₁, i₂, i₃, i₄]
            samples := samples }
  | _ => none

/-- The packets of a byte sequence that is made of whole frames. -/
def decodeStream (bytes : List UInt8) : Option (List RtpPacket) :=
  let parsed := parseFrames bytes
  if parsed.2 = [] then parsed.1.mapM decodeRtp else none

theorem bigEndian_networkOrder (sample : UInt16) :
    bigEndian (networkOrder sample) = sample.toNat := by
  have bound := sample.toNat_lt
  simp only [bigEndian, networkOrder, List.foldl_cons, List.foldl_nil, UInt8.toNat_ofNat']
  omega

theorem decodeL16_networkOrder (samples : List UInt16) :
    decodeL16 (samples.flatMap networkOrder) = some (samples.map UInt16.toInt16) := by
  induction samples with
  | nil => rfl
  | cons sample samples ih =>
      have value := bigEndian_networkOrder sample
      rw [networkOrder] at value
      simp only [List.flatMap_cons, networkOrder, List.cons_append, List.nil_append] at ih ⊢
      rw [decodeL16, ih, value, UInt16.ofNat_toNat]
      rfl

theorem mapM_decodeRtp {frames : List Frame} {packets : List RtpPacket}
    (decoded : List.Forall₂ (fun frame packet => decodeRtp frame = some packet) frames packets) :
    frames.mapM decodeRtp = some packets := by
  induction decoded with
  | nil => rfl
  | cons head tail ih => simp [head, ih]

/-- Whole frames are read as the packets they are read as one by one. -/
theorem decodeStream_encode {frames : List Frame} {packets : List RtpPacket}
    (decoded : List.Forall₂ (fun frame packet => decodeRtp frame = some packet) frames packets) :
    decodeStream (frames.flatMap Frame.encode) = some packets := by
  have parsed := parseFrames_append frames (isTorn_nil ⟨0, [], by decide⟩)
  rw [List.append_nil] at parsed
  rw [decodeStream, parsed]
  exact mapM_decodeRtp decoded

end RtpDecoding

end EchoMic
