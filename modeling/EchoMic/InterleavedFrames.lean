import Mathlib.Data.List.Basic
import Mathlib.Data.List.Infix

/-!
# Interleaved binary frames

RTSP carries binary packets on its TCP connection as frames: a dollar sign, a
channel byte, a big-endian 16-bit length and that many bytes.  This file
proves that a byte sequence made of whole frames and at most one torn frame
parses into exactly these frames and leaves exactly the torn bytes.
-/

namespace EchoMic

namespace InterleavedFrames

/-- The byte that opens every interleaved frame. -/
def marker : UInt8 := 0x24

/-- A packet on a channel, short enough for the 16-bit length field. -/
structure Frame where
  channel : UInt8
  payload : List UInt8
  payload_lt : payload.length < 65536
  deriving DecidableEq

/-- The high and the low byte of a 16-bit length. -/
def lengthBytes (length : Nat) : UInt8 × UInt8 :=
  (UInt8.ofNat (length / 256), UInt8.ofNat length)

def lengthValue (high low : UInt8) : Nat :=
  high.toNat * 256 + low.toNat

theorem lengthValue_lt (high low : UInt8) : lengthValue high low < 65536 := by
  have highBound := high.toNat_lt
  have lowBound := low.toNat_lt
  unfold lengthValue
  omega

theorem lengthValue_lengthBytes {length : Nat} (bounded : length < 65536) :
    lengthValue (lengthBytes length).1 (lengthBytes length).2 = length := by
  simp only [lengthValue, lengthBytes, UInt8.toNat_ofNat']
  omega

def Frame.encode (frame : Frame) : List UInt8 :=
  marker :: frame.channel :: (lengthBytes frame.payload.length).1 ::
    (lengthBytes frame.payload.length).2 :: frame.payload

theorem Frame.encode_length (frame : Frame) :
    frame.encode.length = frame.payload.length + 4 :=
  rfl

/-- Read one whole frame from the front of a byte sequence. -/
def parseFrame : List UInt8 → Option (Frame × List UInt8)
  | first :: channel :: high :: low :: rest =>
      if first = marker ∧ lengthValue high low ≤ rest.length then
        some (⟨channel, rest.take (lengthValue high low), by
          have := lengthValue_lt high low
          have := List.length_take_le (lengthValue high low) rest
          omega⟩, rest.drop (lengthValue high low))
      else none
  | _ => none

/-- Read at most `count` whole frames and return the bytes left over. -/
def parseUpTo : Nat → List UInt8 → List Frame × List UInt8
  | 0, bytes => ([], bytes)
  | count + 1, bytes =>
      match parseFrame bytes with
      | none => ([], bytes)
      | some (frame, rest) =>
          let parsed := parseUpTo count rest
          (frame :: parsed.1, parsed.2)

/-- Read whole frames as long as there are any.  A frame takes at least four
bytes, so the number of bytes bounds the number of frames. -/
def parseFrames (bytes : List UInt8) : List Frame × List UInt8 :=
  parseUpTo bytes.length bytes

/-- A proper prefix of an encoded frame; the empty prefix is one. -/
def IsTorn (bytes : List UInt8) : Prop :=
  ∃ frame : Frame, bytes <+: frame.encode ∧ bytes ≠ frame.encode

theorem isTorn_nil (frame : Frame) : IsTorn [] :=
  ⟨frame, List.nil_prefix, by simp [Frame.encode]⟩

theorem parseFrame_encode_append (frame : Frame) (rest : List UInt8) :
    parseFrame (frame.encode ++ rest) = some (frame, rest) := by
  have lengthEq := lengthValue_lengthBytes frame.payload_lt
  simp only [Frame.encode, List.cons_append, parseFrame, lengthEq]
  simp

theorem parseFrame_torn {bytes : List UInt8} (torn : IsTorn bytes) :
    parseFrame bytes = none := by
  obtain ⟨frame, isPrefix, proper⟩ := torn
  have shorter : bytes.length < frame.payload.length + 4 := by
    have lengthLe := isPrefix.length_le
    rw [Frame.encode_length] at lengthLe
    rcases Nat.lt_or_eq_of_le lengthLe with less | equal
    · exact less
    · exact absurd (isPrefix.eq_of_length equal) proper
  obtain ⟨rest, split⟩ := isPrefix
  match bytes with
  | [] | [_] | [_, _] | [_, _, _] => rfl
  | first :: channel :: high :: low :: body =>
      simp only [Frame.encode, List.cons_append, List.cons.injEq] at split
      obtain ⟨-, -, rfl, rfl, -⟩ := split
      have lengthEq := lengthValue_lengthBytes frame.payload_lt
      simp only [parseFrame, lengthEq, List.length_cons] at shorter ⊢
      rw [if_neg (by omega)]

theorem parseUpTo_append {tail : List UInt8} (torn : IsTorn tail) :
    ∀ (frames : List Frame) (count : Nat), frames.length ≤ count →
      parseUpTo count (frames.flatMap Frame.encode ++ tail) = (frames, tail) := by
  intro frames
  induction frames with
  | nil =>
      intro count _
      cases count with
      | zero => rfl
      | succ count => simp [parseUpTo, parseFrame_torn torn]
  | cons frame frames ih =>
      intro count enough
      obtain ⟨count, rfl⟩ : ∃ previous, count = previous + 1 :=
        ⟨count - 1, by simp only [List.length_cons] at enough; omega⟩
      have rest := ih count (by simpa using enough)
      simp only [List.flatMap_cons, List.append_assoc, parseUpTo,
        parseFrame_encode_append, rest]

theorem length_le_encoded_length (frames : List Frame) :
    frames.length ≤ (frames.flatMap Frame.encode).length := by
  induction frames with
  | nil => simp
  | cons frame frames ih =>
      simp only [List.flatMap_cons, List.length_append, List.length_cons,
        Frame.encode_length]
      omega

/-- Whole frames followed by a torn one are read back exactly. -/
theorem parseFrames_append (frames : List Frame) {tail : List UInt8}
    (torn : IsTorn tail) :
    parseFrames (frames.flatMap Frame.encode ++ tail) = (frames, tail) := by
  apply parseUpTo_append torn
  have bound := length_le_encoded_length frames
  simp only [List.length_append]
  omega

end InterleavedFrames

end EchoMic
