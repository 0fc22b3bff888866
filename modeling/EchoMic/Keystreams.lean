import Mathlib.Data.List.Basic
import Mathlib.Logic.Function.Iterate

/-!
# Keystreams

A stream cipher produces its keystream in blocks, each from the state that the
block before it leaves, and combines it with the text by exclusive or.
Applying the same keystream twice gives the text back.
-/

namespace EchoMic

namespace Keystreams

def xorBytes (text stream : List UInt8) : List UInt8 :=
  List.zipWith (· ^^^ ·) text stream

variable {State : Type*}

/-- The first `count` blocks of the keystream that starts at `state`. -/
def keystream (block : State → List UInt8) (next : State → State) :
    Nat → State → List UInt8
  | 0, _ => []
  | count + 1, state => block state ++ keystream block next count (next state)

theorem length_xorBytes {text stream : List UInt8} (enough : text.length ≤ stream.length) :
    (xorBytes text stream).length = text.length := by
  rw [xorBytes, List.length_zipWith, Nat.min_eq_left enough]

theorem xorBytes_append {text stream : List UInt8} (same : text.length = stream.length)
    (moreText moreStream : List UInt8) :
    xorBytes (text ++ moreText) (stream ++ moreStream) =
      xorBytes text stream ++ xorBytes moreText moreStream :=
  List.zipWith_append same

/-- The same keystream a second time gives the text back. -/
theorem xorBytes_xorBytes {text stream : List UInt8} (enough : text.length ≤ stream.length) :
    xorBytes (xorBytes text stream) stream = text := by
  induction text generalizing stream with
  | nil => rfl
  | cons byte text ih =>
      cases stream with
      | nil => simp at enough
      | cons key stream =>
          rw [List.length_cons, List.length_cons, Nat.add_le_add_iff_right] at enough
          change ((byte ^^^ key) ^^^ key) :: xorBytes (xorBytes text stream) stream = byte :: text
          rw [ih enough, UInt8.xor_assoc, UInt8.xor_self, UInt8.xor_zero]

/-- Zeros show the keystream. -/
theorem xorBytes_zeros {count : Nat} {stream : List UInt8} (enough : count ≤ stream.length) :
    xorBytes (List.replicate count 0) stream = stream.take count := by
  induction count generalizing stream with
  | zero => rfl
  | succ count ih =>
      cases stream with
      | nil => simp at enough
      | cons key stream =>
          rw [List.length_cons, Nat.add_le_add_iff_right] at enough
          rw [List.take_succ_cons, ← ih enough]
          change (0 ^^^ key) :: _ = _
          rw [UInt8.zero_xor]
          rfl

variable {block : State → List UInt8} {next : State → State} {size : Nat}

theorem length_keystream (sized : ∀ state, (block state).length = size) (count : Nat)
    (state : State) : (keystream block next count state).length = count * size := by
  induction count generalizing state with
  | zero => simp [keystream]
  | succ count ih =>
      rw [keystream, List.length_append, sized, ih, Nat.succ_mul, Nat.add_comm]

end Keystreams

end EchoMic
