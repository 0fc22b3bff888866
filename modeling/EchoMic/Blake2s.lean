import EchoMic.BlockBuffers
import EchoMic.ByteOrder

/-!
# BLAKE2s

The hash of the WireGuard library, with its buffer of 64 bytes and its two
words of an offset.  Its value is that of the whole text, in whatever pieces
the text arrives.
-/

namespace EchoMic

open BlockBuffers

abbrev Blake2sWords :=
  Vector UInt32 8

abbrev Blake2sWork :=
  Vector UInt32 16

def rotr32 (x y : UInt32) : UInt32 :=
  (x >>> y) ^^^ (x <<< (32 - y))

/-- Mixing function G. -/
def b2sG (v : Blake2sWork) (a b c d : Fin 16) (x y : UInt32) : Blake2sWork :=
  let v := v.set a (v[a] + v[b] + x)
  let v := v.set d (rotr32 (v[d] ^^^ v[a]) 16)
  let v := v.set c (v[c] + v[d])
  let v := v.set b (rotr32 (v[b] ^^^ v[c]) 12)
  let v := v.set a (v[a] + v[b] + y)
  let v := v.set d (rotr32 (v[d] ^^^ v[a]) 8)
  let v := v.set c (v[c] + v[d])
  v.set b (rotr32 (v[b] ^^^ v[c]) 7)

def blake2sIv : Blake2sWords :=
  #v[0x6A09E667, 0xBB67AE85, 0x3C6EF372, 0xA54FF53A,
    0x510E527F, 0x9B05688C, 0x1F83D9AB, 0x5BE0CD19]

namespace Blake2s

def sigma : List (Vector (Fin 16) 16) :=
  [#v[0, 1, 2, 3, 4, 5, 6, 7, 8, 9, 10, 11, 12, 13, 14, 15],
    #v[14, 10, 4, 8, 9, 15, 13, 6, 1, 12, 0, 2, 11, 7, 5, 3],
    #v[11, 8, 12, 0, 5, 2, 15, 13, 10, 14, 3, 6, 7, 1, 9, 4],
    #v[7, 9, 3, 1, 13, 12, 11, 14, 2, 6, 5, 10, 4, 0, 15, 8],
    #v[9, 0, 5, 7, 2, 4, 10, 15, 14, 1, 11, 12, 6, 8, 3, 13],
    #v[2, 12, 6, 10, 0, 11, 8, 3, 4, 13, 7, 5, 15, 14, 1, 9],
    #v[12, 5, 1, 15, 14, 13, 4, 10, 0, 7, 6, 3, 9, 2, 8, 11],
    #v[13, 11, 7, 14, 12, 1, 3, 9, 5, 0, 15, 4, 8, 6, 2, 10],
    #v[6, 15, 14, 9, 11, 3, 0, 8, 12, 2, 13, 7, 1, 4, 10, 5],
    #v[10, 2, 8, 4, 7, 6, 1, 5, 15, 11, 9, 14, 3, 12, 13, 0]]

/-- One of the ten rounds. -/
def round (m : Blake2sWork) (v : Blake2sWork) (s : Vector (Fin 16) 16) : Blake2sWork :=
  let v := b2sG v 0 4 8 12 m[s[0]] m[s[1]]
  let v := b2sG v 1 5 9 13 m[s[2]] m[s[3]]
  let v := b2sG v 2 6 10 14 m[s[4]] m[s[5]]
  let v := b2sG v 3 7 11 15 m[s[6]] m[s[7]]
  let v := b2sG v 0 5 10 15 m[s[8]] m[s[9]]
  let v := b2sG v 1 6 11 12 m[s[10]] m[s[11]]
  let v := b2sG v 2 7 8 13 m[s[12]] m[s[13]]
  b2sG v 3 4 9 14 m[s[14]] m[s[15]]

/-- The new chained state, from the old one, the offset, the block and the
`last` flag. -/
def compressed (h : Blake2sWords) (t0 t1 : UInt32) (block : Bytes) (last : Bool) :
    Blake2sWords :=
  let v : Blake2sWork := h ++ blake2sIv
  let v := v.set 12 (v[12] ^^^ t0)
  let v := v.set 13 (v[13] ^^^ t1)
  let v := if last then v.set 14 (~~~v[14]) else v
  let m : Blake2sWork := Vector.ofFn fun index => u8To32Little (block.drop (4 * index))
  let v := sigma.foldl (round m) v
  Vector.ofFn fun index : Fin 8 => h[index] ^^^ (v[index.val] ^^^ v[index.val + 8])

/-- Little endian conversion of the chained state. -/
def digestBytes (outlen : Nat) (h : Blake2sWords) : Bytes :=
  (List.range outlen).map fun index =>
    (h.toList.getD (index / 4) 0 >>> UInt32.ofNat (8 * (index % 4))).toUInt8

/-- The state, with the parameter block, before any input. -/
def startState (outlen keylen : Nat) : Blake2sWords :=
  blake2sIv.set 0 (blake2sIv[0] ^^^
    ((0x01010000 : UInt32) ^^^ (UInt32.ofNat keylen <<< 8) ^^^ UInt32.ofNat outlen))

end Blake2s

/-- `b` has the `c` bytes in the buffer. -/
structure Blake2sCtx where
  b : Bytes
  h : Blake2sWords
  t0 : UInt32
  t1 : UInt32
  outlen : Nat

def blake2sCompress (ctx : Blake2sCtx) (last : Bool) : Blake2sCtx :=
  { ctx with h := Blake2s.compressed ctx.h ctx.t0 ctx.t1 ctx.b last }

/-- `t[0] += c`, with its carry. -/
def Blake2sCtx.addCounters (ctx : Blake2sCtx) : Blake2sCtx :=
  let t0 := ctx.t0 + UInt32.ofNat ctx.b.length
  { ctx with
    t0 := t0
    t1 := if t0 < UInt32.ofNat ctx.b.length then ctx.t1 + 1 else ctx.t1 }

/-- One turn of the loop of `blake2s_update`. -/
def Blake2sCtx.push (ctx : Blake2sCtx) (byte : UInt8) : Blake2sCtx :=
  let ctx :=
    if ctx.b.length = 64 then { blake2sCompress ctx.addCounters false with b := [] } else ctx
  { ctx with b := ctx.b ++ [byte] }

def blake2sUpdate (ctx : Blake2sCtx) (input : Bytes) : Blake2sCtx :=
  input.foldl Blake2sCtx.push ctx

/-- `none` for illegal parameters. -/
def blake2sInit (outlen : Nat) (key : Bytes) : Option Blake2sCtx :=
  if outlen = 0 ∨ outlen > 32 ∨ key.length > 32 then none
  else
    let ctx : Blake2sCtx :=
      { b := []
        h := Blake2s.startState outlen key.length
        t0 := 0
        t1 := 0
        outlen := outlen }
    if key.length > 0 then
      let ctx := blake2sUpdate ctx key
      -- the bytes behind the key have been cleared, and `c` is at the end
      some { ctx with b := ctx.b ++ List.replicate (64 - key.length) 0 }
    else some ctx

def blake2sFinal (ctx : Blake2sCtx) : Bytes :=
  let ctx := ctx.addCounters
  let ctx := { ctx with b := ctx.b ++ List.replicate (64 - ctx.b.length) 0 }
  let ctx := blake2sCompress ctx true
  Blake2s.digestBytes ctx.outlen ctx.h

namespace Blake2s

/-! ## The hash of a text -/

def low (offset : Nat) : UInt32 :=
  UInt32.ofNat offset

def high (offset : Nat) : UInt32 :=
  UInt32.ofNat (offset / 2 ^ 32)

/-- A block that is not the last one, and the offset behind it. -/
def absorb (state : Blake2sWords × Nat) (block : Bytes) : Blake2sWords × Nat :=
  (compressed state.1 (low (state.2 + 64)) (high (state.2 + 64)) block false, state.2 + 64)

def zeroFilled (block : Bytes) : Bytes :=
  block ++ List.replicate (64 - block.length) 0

/-- The hash of a text in blocks, of which the last one is filled with zeros
and has the length of the text as its offset. -/
def digest (outlen : Nat) (start : Blake2sWords) (text : Bytes) : Bytes :=
  let blocks := chunks 64 text
  let before := (blocks.dropLast.foldl absorb (start, 0)).1
  digestBytes outlen
    (compressed before (low text.length) (high text.length) (zeroFilled (blocks.getLastD [])) true)

/-- A key is a block of its own. -/
def keyBlock (key : Bytes) : Bytes :=
  if key.length > 0 then zeroFilled key else []

/-! ## The context -/

/-- What a context knows of the text that has arrived. -/
structure Hashes (outlen : Nat) (start : Blake2sWords) (text : Bytes) (ctx : Blake2sCtx) :
    Prop where
  absorbed : Absorbed 64 absorb (start, 0) text (ctx.h, text.length - ctx.b.length) ctx.b
  inside : ctx.b.length ≤ text.length
  t0 : ctx.t0 = low (text.length - ctx.b.length)
  t1 : ctx.t1 = high (text.length - ctx.b.length)
  room : ctx.b.length ≤ 64
  pending : ctx.b = [] → text = []
  outlen : ctx.outlen = outlen

variable {outlen : Nat} {start : Blake2sWords} {text : Bytes} {ctx : Blake2sCtx}

@[simp]
theorem addCounters_b (ctx : Blake2sCtx) : ctx.addCounters.b = ctx.b :=
  rfl

@[simp]
theorem addCounters_h (ctx : Blake2sCtx) : ctx.addCounters.h = ctx.h :=
  rfl

@[simp]
theorem addCounters_outlen (ctx : Blake2sCtx) : ctx.addCounters.outlen = ctx.outlen :=
  rfl

/-- The two words count on with their carry. -/
theorem addCounters_words {offset : Nat} (t0 : ctx.t0 = low offset) (t1 : ctx.t1 = high offset)
    (room : ctx.b.length ≤ 64) :
    ctx.addCounters.t0 = low (offset + ctx.b.length) ∧
      ctx.addCounters.t1 = high (offset + ctx.b.length) := by
  have sum : ctx.t0 + UInt32.ofNat ctx.b.length = low (offset + ctx.b.length) := by
    rw [t0, low, low, UInt32.ofNat_add]
  refine ⟨sum, ?_⟩
  have lowValue : (low (offset + ctx.b.length)).toNat = (offset + ctx.b.length) % 2 ^ 32 :=
    UInt32.toNat_ofNat'
  have count : (UInt32.ofNat ctx.b.length).toNat = ctx.b.length % 2 ^ 32 := UInt32.toNat_ofNat'
  unfold Blake2sCtx.addCounters
  simp only [sum, UInt32.lt_iff_toNat_lt, lowValue, count]
  by_cases carry : (offset + ctx.b.length) % 2 ^ 32 < ctx.b.length % 2 ^ 32
  · rw [if_pos carry, t1, high, high, show (offset + ctx.b.length) / 2 ^ 32 =
      offset / 2 ^ 32 + 1 by omega, UInt32.ofNat_add]
    rfl
  · rw [if_neg carry, t1, high, high, show (offset + ctx.b.length) / 2 ^ 32 =
      offset / 2 ^ 32 by omega]

theorem hashes_push (hashes : Hashes outlen start text ctx) (byte : UInt8) :
    Hashes outlen start (text ++ [byte]) (ctx.push byte) := by
  obtain ⟨absorbed, inside, t0, t1, room, pending, size⟩ := hashes
  have length : (text ++ [byte]).length = text.length + 1 := List.length_append
  unfold Blake2sCtx.push
  by_cases full : ctx.b.length = 64
  · obtain ⟨word0, word1⟩ := addCounters_words t0 t1 room
    have block := (absorbed.hold [byte]).block (by decide) full
    have offset : text.length - ctx.b.length + 64 = text.length := by omega
    rw [full, Nat.sub_add_cancel (by omega)] at word0 word1
    simp only [absorb, offset] at block
    simp only [if_pos full, blake2sCompress, List.nil_append]
    constructor
    · simp only [word0, word1, length, List.length_singleton, Nat.add_sub_cancel]
      exact block
    · simp
    · simpa [length] using word0
    · simpa [length] using word1
    · simp
    · simp
    · exact size
  · simp only [if_neg full]
    constructor
    · simpa only [List.length_append, List.length_singleton, Nat.add_sub_add_right] using
        absorbed.hold [byte]
    · simp only [List.length_append, List.length_singleton]
      omega
    · simpa only [List.length_append, List.length_singleton, Nat.add_sub_add_right] using t0
    · simpa only [List.length_append, List.length_singleton, Nat.add_sub_add_right] using t1
    · simp only [List.length_append, List.length_singleton]
      omega
    · simp
    · exact size

theorem hashes_update (hashes : Hashes outlen start text ctx) (input : Bytes) :
    Hashes outlen start (text ++ input) (blake2sUpdate ctx input) := by
  induction input generalizing text ctx with
  | nil => simpa [blake2sUpdate] using hashes
  | cons byte input ih =>
      have pushed := ih (hashes_push hashes byte)
      rwa [List.append_assoc, List.singleton_append] at pushed

/-- More input in whatever pieces. -/
theorem hashes_pieces (hashes : Hashes outlen start text ctx) (pieces : List Bytes) :
    Hashes outlen start (text ++ pieces.flatten) (pieces.foldl blake2sUpdate ctx) := by
  induction pieces generalizing text ctx with
  | nil => simpa using hashes
  | cons piece pieces ih =>
      rw [List.flatten_cons, ← List.append_assoc, List.foldl_cons]
      exact ih (hashes_update hashes piece)

theorem hashes_start (outlen : Nat) (start : Blake2sWords) :
    Hashes outlen start [] { b := [], h := start, t0 := 0, t1 := 0, outlen := outlen } where
  absorbed := Absorbed.nothing
  inside := Nat.le_refl 0
  t0 := rfl
  t1 := by simp [high]
  room := Nat.zero_le 64
  pending := fun _ => rfl
  outlen := rfl

/-- A text that fits in the buffer is all there. -/
theorem Hashes.buffer_eq (hashes : Hashes outlen start text ctx) (short : text.length < 64) :
    ctx.b = text := by
  obtain ⟨whole, ⟨count, length⟩, split, -⟩ := hashes.absorbed
  have total := congrArg List.length split
  rw [List.length_append] at total
  obtain rfl := List.length_eq_zero_iff.mp (show whole.length = 0 by omega)
  exact split.symm

theorem length_zeroFilled {block : Bytes} (short : block.length ≤ 64) :
    (zeroFilled block).length = 64 := by
  rw [zeroFilled, List.length_append, List.length_replicate]
  omega

/-- The zeros behind a key count as input. -/
theorem hashes_fill (hashes : Hashes outlen start text ctx) (short : text.length < 64) :
    Hashes outlen start (zeroFilled text)
      { ctx with b := ctx.b ++ List.replicate (64 - text.length) 0 } := by
  have whole := hashes.buffer_eq short
  have filled := length_zeroFilled (Nat.le_of_lt short)
  obtain ⟨absorbed, inside, t0, t1, room, pending, size⟩ := hashes
  rw [whole, Nat.sub_self] at t0 t1 absorbed
  rw [whole]
  change Hashes outlen start (zeroFilled text) { ctx with b := zeroFilled text }
  constructor
  · rw [Nat.sub_self]
    exact absorbed.hold (List.replicate (64 - text.length) 0)
  · exact Nat.le_refl _
  · rw [Nat.sub_self]
    exact t0
  · rw [Nat.sub_self]
    exact t1
  · exact Nat.le_of_eq filled
  · intro none
    exact none
  · exact size

theorem hashes_init {key : Bytes} (init : blake2sInit outlen key = some ctx) :
    Hashes outlen (startState outlen key.length) (keyBlock key) ctx := by
  unfold blake2sInit at init
  split at init
  · cases init
  · rename_i legal
    have begun := hashes_start outlen (startState outlen key.length)
    by_cases keyed : key.length > 0
    · simp only [if_pos keyed, Option.some.injEq] at init
      have updated := hashes_update begun key
      rw [List.nil_append] at updated
      rw [keyBlock, if_pos keyed, ← init]
      exact hashes_fill updated (by omega)
    · simp only [if_neg keyed, Option.some.injEq] at init
      rw [keyBlock, if_neg keyed, ← init]
      exact begun

/-- The digest is that of all the text that has arrived. -/
theorem final_of_hashes (hashes : Hashes outlen start text ctx) :
    blake2sFinal ctx = digest outlen start text := by
  obtain ⟨before, -, split, folded⟩ := hashes.absorbed.chunks_eq (by decide) hashes.room
  obtain ⟨absorbed, inside, t0, t1, room, pending, size⟩ := hashes
  obtain ⟨word0, word1⟩ := addCounters_words t0 t1 room
  rw [Nat.sub_add_cancel inside] at word0 word1
  have state : (before.foldl absorb (start, 0)).1 = ctx.h := by rw [← folded]
  have parts : (chunks 64 text).dropLast = before ∧ (chunks 64 text).getLastD [] = ctx.b := by
    by_cases none : ctx.b = []
    · obtain rfl := pending none
      rw [if_pos none, chunks_nil, List.append_nil] at split
      rw [← split, chunks_nil, none]
      exact ⟨rfl, rfl⟩
    · rw [split, if_neg none]
      exact ⟨List.dropLast_concat, by simp⟩
  unfold blake2sFinal digest
  simp only [parts.1, parts.2, state, blake2sCompress, word0, word1, ← size, addCounters_b,
    addCounters_h, addCounters_outlen, zeroFilled]

end Blake2s

/-- For every key and every division of a text into pieces, the digest is
that of the whole text behind the block of the key. -/
theorem blake2s_pieces {outlen : Nat} {key : Bytes} {ctx : Blake2sCtx}
    (init : blake2sInit outlen key = some ctx) (pieces : List Bytes) :
    blake2sFinal (pieces.foldl blake2sUpdate ctx) =
      Blake2s.digest outlen (Blake2s.startState outlen key.length)
        (Blake2s.keyBlock key ++ pieces.flatten) :=
  Blake2s.final_of_hashes (Blake2s.hashes_pieces (Blake2s.hashes_init init) pieces)

theorem blake2s_pieces_keyed :
    ∃ ctx, blake2sInit 16 [1, 2, 3] = some ctx ∧
      blake2sFinal ([[4], [], [5, 6]].foldl blake2sUpdate ctx) =
        Blake2s.digest 16 (Blake2s.startState 16 [1, 2, 3].length)
          (Blake2s.keyBlock [1, 2, 3] ++ [[4], [], [5, 6]].flatten) := by
  obtain ⟨ctx, init⟩ : ∃ ctx, blake2sInit 16 [1, 2, 3] = some ctx := ⟨_, rfl⟩
  exact ⟨ctx, init, blake2s_pieces init [[4], [], [5, 6]]⟩

end EchoMic
