import EchoMic.ByteOrder
import EchoMic.Keystreams

/-!
# ChaCha20

The stream cipher of the WireGuard library, with its block counter in word 12
of the state.
-/

namespace EchoMic

open Keystreams

/-- The words of `state[16]`. -/
def stateWords : Nat := 16

instance neZeroStateWords : NeZero stateWords :=
  ⟨by decide⟩

abbrev ChaChaState :=
  Vector UInt32 stateWords

def rotl32 (v n : UInt32) : UInt32 :=
  (v <<< n) ||| (v >>> (32 - n))

/-- `block[index] = word`. -/
def store {size : Nat} (block : Vector UInt32 size) (index : Fin size) (word : UInt32) :
    Vector UInt32 size :=
  block.set index word index.isLt

def quarterround (block : ChaChaState) (a b c d : Fin stateWords) : ChaChaState :=
  let block := store block a (block.get a + block.get b)
  let block := store block d (rotl32 (block.get d ^^^ block.get a) 16)
  let block := store block c (block.get c + block.get d)
  let block := store block b (rotl32 (block.get b ^^^ block.get c) 12)
  let block := store block a (block.get a + block.get b)
  let block := store block d (rotl32 (block.get d ^^^ block.get a) 8)
  let block := store block c (block.get c + block.get d)
  store block b (rotl32 (block.get b ^^^ block.get c) 7)

def innerBlock (block : ChaChaState) : ChaChaState :=
  let block := quarterround block 0 4 8 12
  let block := quarterround block 1 5 9 13
  let block := quarterround block 2 6 10 14
  let block := quarterround block 3 7 11 15
  let block := quarterround block 0 5 10 15
  let block := quarterround block 1 6 11 12
  let block := quarterround block 2 7 8 13
  quarterround block 3 4 9 14

def twentyRounds (block : ChaChaState) : ChaChaState :=
  innerBlock^[10] block

def chacha20Block (state : ChaChaState) : Bytes :=
  (Vector.zipWith (· + ·) (twentyRounds state) state).toList.flatMap u32To8Little

/-- Word 12 is a block counter. -/
def nextBlock (state : ChaChaState) : ChaChaState :=
  store state 12 (state.get 12 + 1)

/-- The output and the state after it. -/
def chacha20 (state : ChaChaState) (input : Bytes) : Bytes × ChaChaState :=
  if input.length = 0 then ([], state)
  else
    let output := chacha20Block state
    if input.length ≤ 64 then (xorBytes input output, nextBlock state)
    else
      let rest := chacha20 (nextBlock state) (input.drop 64)
      (xorBytes (input.take 64) output ++ rest.1, rest.2)
  termination_by input.length

def chacha20Init (key : Bytes) (nonce : UInt64) : ChaChaState :=
  #v[0x61707865, 0x3320646e, 0x79622d32, 0x6b206574,
    u8To32Little key, u8To32Little (key.drop 4), u8To32Little (key.drop 8),
    u8To32Little (key.drop 12), u8To32Little (key.drop 16), u8To32Little (key.drop 20),
    u8To32Little (key.drop 24), u8To32Little (key.drop 28),
    0, 0, (nonce &&& 0xFFFFFFFF).toUInt32, (nonce >>> 32).toUInt32]

def hchacha20 (nonce key : Bytes) : Bytes :=
  let state := twentyRounds
    #v[0x61707865, 0x3320646e, 0x79622d32, 0x6b206574,
      u8To32Little key, u8To32Little (key.drop 4), u8To32Little (key.drop 8),
      u8To32Little (key.drop 12), u8To32Little (key.drop 16), u8To32Little (key.drop 20),
      u8To32Little (key.drop 24), u8To32Little (key.drop 28),
      u8To32Little nonce, u8To32Little (nonce.drop 4), u8To32Little (nonce.drop 8),
      u8To32Little (nonce.drop 12)]
  u32To8Little (state.get 0) ++ u32To8Little (state.get 1) ++ u32To8Little (state.get 2) ++
    u32To8Little (state.get 3) ++ u32To8Little (state.get 12) ++ u32To8Little (state.get 13) ++
    u32To8Little (state.get 14) ++ u32To8Little (state.get 15)

/-! ## The keystream -/

theorem length_chacha20Block (state : ChaChaState) : (chacha20Block state).length = 64 := by
  rw [chacha20Block, length_flatMap_u32To8Little, Vector.length_toList, stateWords]

/-- How many blocks a text takes. -/
def blockCount (length : Nat) : Nat :=
  (length + 63) / 64

/-- The whole blocks are combined one after the other with the keystream. -/
theorem chacha20_eq (state : ChaChaState) (input : Bytes) :
    chacha20 state input =
      (xorBytes input (keystream chacha20Block nextBlock (blockCount input.length) state),
        nextBlock^[blockCount input.length] state) := by
  induction state, input using chacha20.induct with
  | case1 state input empty =>
      rw [chacha20, if_pos empty]
      obtain rfl := List.length_eq_zero_iff.mp empty
      rfl
  | case2 state input nonempty short =>
      have one : blockCount input.length = 0 + 1 := by
        unfold blockCount
        omega
      rw [chacha20, if_neg nonempty]
      simp only [if_pos short, one, keystream, List.append_nil, zero_add, Function.iterate_one]
  | case3 state input nonempty long ih =>
      have more : blockCount input.length = blockCount (input.drop 64).length + 1 := by
        rw [List.length_drop]
        unfold blockCount
        omega
      have first : (input.take 64).length = (chacha20Block state).length := by
        rw [List.length_take, length_chacha20Block]
        omega
      have whole := xorBytes_append first (input.drop 64)
        (keystream chacha20Block nextBlock (blockCount (input.drop 64).length) (nextBlock state))
      rw [List.take_append_drop] at whole
      rw [chacha20, if_neg nonempty]
      simp only [if_neg long, ih, more, keystream, Function.iterate_succ, Function.comp_apply,
        whole]

theorem length_le_keystream (state : ChaChaState) (length : Nat) :
    length ≤ (keystream chacha20Block nextBlock (blockCount length) state).length := by
  rw [length_keystream length_chacha20Block, blockCount]
  omega

@[simp]
theorem length_chacha20 (state : ChaChaState) (input : Bytes) :
    (chacha20 state input).1.length = input.length := by
  rw [chacha20_eq]
  exact length_xorBytes (length_le_keystream state input.length)

/-- Decryption with the same state gives the text back. -/
@[simp]
theorem chacha20_chacha20 (state : ChaChaState) (input : Bytes) :
    (chacha20 state (chacha20 state input).1).1 = input := by
  have same := length_chacha20 state input
  rw [chacha20_eq state (chacha20 state input).1, same, chacha20_eq state input]
  exact xorBytes_xorBytes (length_le_keystream state input.length)

end EchoMic
