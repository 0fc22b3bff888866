import EchoMic.BlockBuffers
import EchoMic.Poly1305Limbs

/-!
# Poly1305

The one-time authenticator of the WireGuard library.  Its text arrives in
pieces of any size, and the tag is that of the polynomial of the whole text.
-/

namespace EchoMic

open BlockBuffers

/-- `buffer` has the `leftover` bytes that do not fill a block. -/
structure Poly1305State where
  r : Limbs
  h : Limbs
  pad : Poly1305.Words
  buffer : Bytes
  final : Bool

def poly1305Init (key : Bytes) : Poly1305State where
  r := Poly1305.clampedLimbs key
  h := Poly1305.zeroLimbs
  pad :=
    { word0 := u8To32Little (key.drop 16)
      word1 := u8To32Little (key.drop 20)
      word2 := u8To32Little (key.drop 24)
      word3 := u8To32Little (key.drop 28) }
  buffer := []
  final := false

namespace Poly1305

/-- The loop of `poly1305_blocks`. -/
def absorbBlocks (hibit : UInt32) (r h : Limbs) (m : Bytes) : Limbs :=
  if 16 ≤ m.length then absorbBlocks hibit r (absorb hibit r h (m.take 16)) (m.drop 16) else h
  termination_by m.length

end Poly1305

def poly1305Blocks (st : Poly1305State) (m : Bytes) : Poly1305State :=
  let hibit : UInt32 := if st.final then 0 else (1 : UInt32) <<< 24
  { st with h := Poly1305.absorbBlocks hibit st.r st.h m }

/-- What `poly1305_update` does when nothing is left over. -/
def Poly1305State.updateWhole (st : Poly1305State) (m : Bytes) : Poly1305State :=
  let want := m.length - m.length % 16
  let st := if 16 ≤ m.length then poly1305Blocks st (m.take want) else st
  { st with buffer := m.drop want }

def poly1305Update (st : Poly1305State) (m : Bytes) : Poly1305State :=
  if st.buffer ≠ [] then
    let want := min (16 - st.buffer.length) m.length
    let buffer := st.buffer ++ m.take want
    if buffer.length < 16 then { st with buffer := buffer }
    else (poly1305Blocks st buffer).updateWhole (m.drop want)
  else st.updateWhole m

/-- The tag; the clearing of the state is left out. -/
def poly1305Finish (st : Poly1305State) : Bytes :=
  let st :=
    if st.buffer ≠ [] then
      let buffer := st.buffer ++ [1] ++ List.replicate (16 - (st.buffer.length + 1)) 0
      poly1305Blocks { st with final := true } buffer
    else st
  Poly1305.tagOf st.h st.pad

namespace Poly1305

/-! ## The polynomial -/

/-- A block of the text, with a one behind its last byte. -/
def accumulate (r acc : Nat) (block : Bytes) : Nat :=
  (acc + littleEndian (block ++ [1])) * r % prime

/-- The tag of a text, as a number. -/
def authenticate (r s : Nat) (text : Bytes) : Nat :=
  ((chunks 16 text).foldl (accumulate r) 0 + s) % 2 ^ 128

/-- The bits of the first half of the key that are kept. -/
def clampMask : Nat :=
  0x0ffffffc0ffffffc0ffffffc0fffffff

def multiplier (key : Bytes) : Nat :=
  littleEndian (key.take 16) &&& clampMask

def summand (key : Bytes) : Nat :=
  littleEndian (key.drop 16)

/-! ## The key -/

theorem and_eq_mod_and {mask width : Nat} (small : mask < 2 ^ width) (number : Nat) :
    number &&& mask = number % 2 ^ width &&& mask := by
  have cut : number &&& mask < 2 ^ width := Nat.lt_of_le_of_lt Nat.and_le_right small
  rw [← Nat.mod_eq_of_lt cut, Nat.and_mod_two_pow, Nat.mod_eq_of_lt small]

/-- A field of a masked number. -/
theorem field_and (number mask position width : Nat) :
    (number &&& mask) / 2 ^ position % 2 ^ width =
      number / 2 ^ position % 2 ^ width &&& mask / 2 ^ position % 2 ^ width := by
  rw [Nat.and_div_two_pow, Nat.and_mod_two_pow]

theorem mod_div_mod {position width top : Nat} (inside : position + width ≤ top) (number : Nat) :
    number % 2 ^ top / 2 ^ position % 2 ^ width = number / 2 ^ position % 2 ^ width := by
  have split : 2 ^ top = 2 ^ position * 2 ^ (top - position) := by
    rw [← Nat.pow_add, Nat.add_sub_cancel' (by omega)]
  rw [split, Nat.mod_mul_right_div_self,
    Nat.mod_mod_of_dvd _ (Nat.pow_dvd_pow 2 (show width ≤ top - position by omega))]

/-- A limb of the key has the bits of its field that the mask keeps. -/
theorem toNat_clampedField {key : Bytes} {offset shift width : Nat} (count mask : UInt32)
    (length : key.length = 32) (amount : count.toNat = shift) (narrow : mask.toNat < 2 ^ width)
    (inWord : shift + width ≤ 32) (inHalf : 8 * offset + shift + width ≤ 128) :
    ((u8To32Little (key.drop offset) >>> count) &&& mask).toNat =
      littleEndian (key.take 16) / 2 ^ (8 * offset + shift) % 2 ^ width &&& mask.toNat := by
  have half := littleEndian_take_drop key 16 (by omega)
  have first := littleEndian_lt_two_pow (key.take 16)
  have sixteen : (key.take 16).length = 16 := by
    rw [List.length_take]
    omega
  have low : littleEndian (key.take 16) = littleEndian key % 2 ^ 128 := by
    rw [sixteen] at first
    omega
  rw [UInt32.toNat_and, and_eq_mod_and narrow]
  congr 1
  by_cases none : width = 0
  · rw [none, Nat.pow_zero, Nat.mod_one, Nat.mod_one]
  · rw [UInt32.toNat_shiftRight, amount, Nat.mod_eq_of_lt (show shift < 32 by omega),
      Nat.shiftRight_eq_div_pow, toNat_u8To32Little_drop key (by omega), mod_div_mod inWord, low,
      mod_div_mod inHalf, Nat.pow_add, ← Nat.div_div_eq_div_mul, Nat.pow_mul]

/-- The limbs of the multiplier stand for the masked number. -/
theorem clampedLimbs_spec {key : Bytes} (length : key.length = 32) :
    (clampedLimbs key).IsClamped ∧ (clampedLimbs key).value = multiplier key := by
  have limb0 : (clampedLimbs key).limb0.toNat =
      littleEndian (key.take 16) / 2 ^ 0 % 2 ^ 26 &&& 0x3ffffff := by
    have field : ((u8To32Little (key.drop 0) >>> 0) &&& 0x3ffffff).toNat = _ :=
      toNat_clampedField 0 0x3ffffff length rfl (show _ < 2 ^ 26 by decide) (by decide) (by decide)
    rwa [List.drop_zero, UInt32.shiftRight_zero] at field
  have limb1 : (clampedLimbs key).limb1.toNat =
      littleEndian (key.take 16) / 2 ^ 26 % 2 ^ 26 &&& 0x3ffff03 :=
    toNat_clampedField 2 0x3ffff03 length rfl (by decide) (by decide) (by decide)
  have limb2 : (clampedLimbs key).limb2.toNat =
      littleEndian (key.take 16) / 2 ^ 52 % 2 ^ 26 &&& 0x3ffc0ff :=
    toNat_clampedField 4 0x3ffc0ff length rfl (by decide) (by decide) (by decide)
  have limb3 : (clampedLimbs key).limb3.toNat =
      littleEndian (key.take 16) / 2 ^ 78 % 2 ^ 26 &&& 0x3f03fff :=
    toNat_clampedField 6 0x3f03fff length rfl (by decide) (by decide) (by decide)
  have limb4 : (clampedLimbs key).limb4.toNat =
      littleEndian (key.take 16) / 2 ^ 104 % 2 ^ 20 &&& 0x00fffff :=
    toNat_clampedField 8 0x00fffff length rfl (by decide) (by decide) (by decide)
  have field0 := field_and (littleEndian (key.take 16)) clampMask 0 26
  have field1 := field_and (littleEndian (key.take 16)) clampMask 26 26
  have field2 := field_and (littleEndian (key.take 16)) clampMask 52 26
  have field3 := field_and (littleEndian (key.take 16)) clampMask 78 26
  have field4 := field_and (littleEndian (key.take 16)) clampMask 104 20
  change _ = _ &&& 0x3ffffff at field0
  change _ = _ &&& 0x3ffff03 at field1
  change _ = _ &&& 0x3ffc0ff at field2
  change _ = _ &&& 0x3f03fff at field3
  change _ = _ &&& 0x00fffff at field4
  rw [← field0] at limb0
  rw [← field1] at limb1
  rw [← field2] at limb2
  rw [← field3] at limb3
  rw [← field4] at limb4
  have bounded : multiplier key < 2 ^ 124 :=
    Nat.lt_of_le_of_lt Nat.and_le_right (show clampMask < 2 ^ 124 by decide)
  unfold multiplier at bounded ⊢
  refine ⟨⟨?_, ?_, ?_, ?_, ?_⟩, ?_⟩
  all_goals simp only [Limbs.value, limb0, limb1, limb2, limb3, limb4]
  all_goals omega

/-! ## Pieces -/

/-- The high bit of a whole block. -/
def wholeBit : UInt32 :=
  (1 : UInt32) <<< 24

/-- The limbs of whole blocks that are absorbed. -/
def Takes (r : Limbs) (text : Bytes) (h : Limbs) (held : Bytes) : Prop :=
  Absorbed 16 (absorb wholeBit r) zeroLimbs text h held

theorem absorbBlocks_takes {r h : Limbs} {text : Bytes} (m rest : Bytes)
    (takes : Takes r text h (m ++ rest)) (blocks : 16 ∣ m.length) :
    Takes r text (absorbBlocks wholeBit r h m) rest := by
  induction h, m using absorbBlocks.induct wholeBit r with
  | case1 h m more ih =>
      have first : (m.take 16).length = 16 := by
        rw [List.length_take]
        omega
      rw [absorbBlocks, if_pos more]
      rw [← List.take_append_drop 16 m, List.append_assoc] at takes
      exact ih (takes.block (by decide) first) (by rw [List.length_drop]; omega)
  | case2 h m short =>
      obtain rfl := List.length_eq_zero_iff.mp (show m.length = 0 by omega)
      rw [absorbBlocks, if_neg short]
      exact takes

/-- What the state knows of the text that has arrived. -/
structure Receives (key text : Bytes) (st : Poly1305State) : Prop where
  r : st.r = clampedLimbs key
  pad : st.pad = (poly1305Init key).pad
  final : st.final = false
  takes : Takes (clampedLimbs key) text st.h st.buffer
  short : st.buffer.length < 16

theorem receives_init (key : Bytes) : Receives key [] (poly1305Init key) where
  r := rfl
  pad := rfl
  final := rfl
  takes := Absorbed.nothing
  short := Nat.zero_lt_succ 15

variable {key text : Bytes} {st : Poly1305State}

theorem h_blocks (r : st.r = clampedLimbs key) (final : st.final = false) (m : Bytes) :
    (poly1305Blocks st m).h = absorbBlocks wholeBit (clampedLimbs key) st.h m := by
  simp only [poly1305Blocks, final, r, wholeBit, Bool.false_eq_true, if_false]

theorem receives_updateWhole (r : st.r = clampedLimbs key) (pad : st.pad = (poly1305Init key).pad)
    (final : st.final = false) (m : Bytes) (takes : Takes (clampedLimbs key) text st.h m) :
    Receives key text (st.updateWhole m) := by
  have cut : (m.take (m.length - m.length % 16)).length = m.length - m.length % 16 := by
    rw [List.length_take]
    omega
  have short : (m.drop (m.length - m.length % 16)).length < 16 := by
    rw [List.length_drop]
    omega
  by_cases whole : 16 ≤ m.length
  · simp only [Poly1305State.updateWhole, if_pos whole]
    rw [← List.take_append_drop (m.length - m.length % 16) m] at takes
    have absorbed := absorbBlocks_takes _ _ takes (by rw [cut]; omega)
    constructor
    · exact r
    · exact pad
    · exact final
    · simpa only [h_blocks r final] using absorbed
    · exact short
  · simp only [Poly1305State.updateWhole, if_neg whole]
    have nothing : m.length - m.length % 16 = 0 := by omega
    constructor
    · exact r
    · exact pad
    · exact final
    · simpa only [nothing, List.drop_zero] using takes
    · exact short

/-- A piece is added to the text. -/
theorem receives_update (receives : Receives key text st) (m : Bytes) :
    Receives key (text ++ m) (poly1305Update st m) := by
  obtain ⟨r, pad, final, takes, short⟩ := receives
  have held : Takes (clampedLimbs key) (text ++ m) st.h (st.buffer ++ m) := takes.hold m
  unfold poly1305Update
  by_cases leftover : st.buffer ≠ []
  · rw [if_pos leftover]
    extract_lets want buffer
    have size : buffer.length = st.buffer.length + want := by
      rw [List.length_append, List.length_take]
      omega
    by_cases partialBlock : buffer.length < 16
    · have all : m.take want = m := List.take_of_length_le (by omega)
      rw [if_pos partialBlock]
      constructor
      · exact r
      · exact pad
      · exact final
      · simpa only [buffer, all] using held
      · exact partialBlock
    · rw [if_neg partialBlock]
      have full : buffer.length = 16 := by omega
      rw [← List.take_append_drop want m, ← List.append_assoc, ← List.append_assoc] at held
      have absorbed := absorbBlocks_takes buffer (m.drop want) held (by omega)
      rw [List.append_assoc, List.take_append_drop] at absorbed
      apply receives_updateWhole
      · exact r
      · exact pad
      · exact final
      · simpa only [h_blocks r final] using absorbed
  · have empty : st.buffer = [] := not_not.mp leftover
    rw [if_neg leftover]
    rw [empty, List.nil_append] at held
    exact receives_updateWhole r pad final m held

/-- The pieces of a text, one after the other. -/
theorem receives_pieces (receives : Receives key text st) (pieces : List Bytes) :
    Receives key (text ++ pieces.flatten) (pieces.foldl poly1305Update st) := by
  induction pieces generalizing text st with
  | nil => simpa using receives
  | cons piece pieces ih =>
      rw [List.flatten_cons, ← List.append_assoc, List.foldl_cons]
      exact ih (receives_update receives piece)

/-! ## The tag -/

theorem absorb_whole {r h : Limbs} {acc : Nat} {block : Bytes} (clamped : r.IsClamped)
    (carried : h.IsCarried) (same : h.value % prime = acc % prime) (full : block.length = 16) :
    (absorb wholeBit r h block).IsCarried ∧
      (absorb wholeBit r h block).value % prime = accumulate r.value acc block % prime := by
  obtain ⟨bounds, value⟩ :=
    absorb_spec full (show wholeBit = 0 ∨ wholeBit = 0x1000000 from Or.inr rfl) clamped carried
  refine ⟨bounds, ?_⟩
  have high : littleEndian (block ++ [1]) = littleEndian block + 2 ^ 104 * 2 ^ 24 := by
    rw [littleEndian_concat, full]
    rfl
  change _ = (h.value + littleEndian block + 2 ^ 104 * 2 ^ 24) * r.value % prime at value
  rw [value, accumulate, high, Nat.mod_mod, Nat.add_assoc, Nat.mul_mod, Nat.add_mod, same,
    ← Nat.add_mod, ← Nat.mul_mod]

theorem fold_whole {r h : Limbs} {acc : Nat} (blocks : List Bytes) (clamped : r.IsClamped)
    (carried : h.IsCarried) (same : h.value % prime = acc % prime)
    (full : ∀ block ∈ blocks, block.length = 16) :
    (blocks.foldl (absorb wholeBit r) h).IsCarried ∧
      (blocks.foldl (absorb wholeBit r) h).value % prime =
        blocks.foldl (accumulate r.value) acc % prime := by
  induction blocks generalizing h acc with
  | nil => exact ⟨carried, same⟩
  | cons block blocks ih =>
      rw [List.forall_mem_cons] at full
      obtain ⟨bounds, value⟩ := absorb_whole clamped carried same full.1
      exact ih bounds value full.2

theorem littleEndian_zeros (bytes : Bytes) (count : Nat) :
    littleEndian (bytes ++ List.replicate count 0) = littleEndian bytes := by
  have zero : littleEndian (List.replicate count 0) = 0 := by
    induction count with
    | zero => rfl
    | succ count ih => rw [List.replicate_succ, littleEndian_cons, ih]; rfl
  rw [littleEndian_append, zero, Nat.mul_zero, Nat.add_zero]

theorem zeroLimbs_isCarried : zeroLimbs.IsCarried := by
  constructor <;> decide

/-- The accumulator behind the last block, which `poly1305_finish` fills up. -/
theorem finish_accumulator (length : key.length = 32) (receives : Receives key text st) :
    ∃ h : Limbs, h.IsCarried ∧ poly1305Finish st = tagOf h (poly1305Init key).pad ∧
      h.value % prime =
        (chunks 16 text).foldl (accumulate (multiplier key)) 0 % prime := by
  obtain ⟨r, pad, final, takes, short⟩ := receives
  obtain ⟨clamped, stands⟩ := clampedLimbs_spec length
  obtain ⟨before, full, split, folded⟩ := takes.chunks_eq (by decide) (Nat.le_of_lt short)
  obtain ⟨bounds, value⟩ := fold_whole before clamped zeroLimbs_isCarried
    (show zeroLimbs.value % prime = 0 % prime from rfl) full
  rw [← folded, stands] at value
  rw [← folded] at bounds
  by_cases nothing : st.buffer = []
  · refine ⟨st.h, bounds, ?_, ?_⟩
    · simp only [poly1305Finish, nothing, ne_eq, not_true, if_false, pad]
    · rw [split, if_pos nothing, List.append_nil, value]
  · let last := st.buffer ++ [1] ++ List.replicate (16 - (st.buffer.length + 1)) 0
    have size : last.length = 16 := by
      simp only [last, List.length_append, List.length_replicate, List.length_singleton]
      omega
    obtain ⟨finalBounds, finalValue⟩ := absorb_spec size (Or.inl rfl) clamped bounds
    refine ⟨absorb 0 (clampedLimbs key) st.h last, finalBounds, ?_, ?_⟩
    · have once : absorbBlocks 0 (clampedLimbs key) st.h last =
          absorb 0 (clampedLimbs key) st.h last := by
        rw [absorbBlocks, if_pos (Nat.le_of_eq size.symm), absorbBlocks,
          if_neg (by rw [List.length_drop]; omega), List.take_of_length_le (Nat.le_of_eq size)]
      simp only [poly1305Finish, nothing, ne_eq, not_false_eq_true, if_true, poly1305Blocks, r,
        pad]
      rw [← once]
    · rw [finalValue, split, if_neg nothing, List.foldl_append, List.foldl_cons, List.foldl_nil,
        stands, littleEndian_zeros, UInt32.toNat_zero, Nat.mul_zero, Nat.add_zero, accumulate,
        Nat.mod_mod, Nat.mul_mod, Nat.add_mod, value, ← Nat.add_mod, ← Nat.mul_mod]

theorem value_pad (length : key.length = 32) : (poly1305Init key).pad.value = summand key := by
  have split := littleEndian_take_drop key 16 (by omega)
  have bounded := littleEndian_lt_two_pow key
  have low := littleEndian_lt_two_pow (key.take 16)
  have half : (key.take 16).length = 16 := by
    rw [List.length_take]
    omega
  rw [half] at low
  rw [length] at bounded
  simp only [Words.value, poly1305Init, summand, toNat_u8To32Little_drop key
    (show 16 ≤ key.length by omega), toNat_u8To32Little_drop key (show 20 ≤ key.length by omega),
    toNat_u8To32Little_drop key (show 24 ≤ key.length by omega),
    toNat_u8To32Little_drop key (show 28 ≤ key.length by omega)]
  omega

/-- Whatever the pieces are in which a text arrives, its tag is that of the
polynomial. -/
theorem tag_of_receives (length : key.length = 32) (receives : Receives key text st) :
    (poly1305Finish st).length = 16 ∧
      littleEndian (poly1305Finish st) = authenticate (multiplier key) (summand key) text := by
  obtain ⟨h, carried, tag, value⟩ := finish_accumulator length receives
  obtain ⟨size, number⟩ := littleEndian_tagOf carried (poly1305Init key).pad
  have reduced : (chunks 16 text).foldl (accumulate (multiplier key)) 0 % prime =
      (chunks 16 text).foldl (accumulate (multiplier key)) 0 := by
    obtain none | ⟨blocks, last, listed⟩ := (chunks 16 text).eq_nil_or_concat
    · rw [none]
      rfl
    · rw [listed, List.concat_eq_append, List.foldl_append, List.foldl_cons, List.foldl_nil]
      exact Nat.mod_mod _ _
  refine ⟨tag ▸ size, ?_⟩
  rw [tag, number, value, reduced, value_pad length, authenticate]

end Poly1305

/-- Whatever the pieces are in which a text arrives, its tag is that of the
polynomial of RFC 7539. -/
theorem poly1305_pieces {key : Bytes} (length : key.length = 32) (pieces : List Bytes) :
    littleEndian (poly1305Finish (pieces.foldl poly1305Update (poly1305Init key))) =
      Poly1305.authenticate (Poly1305.multiplier key) (Poly1305.summand key) pieces.flatten := by
  have receives := Poly1305.receives_pieces (Poly1305.receives_init key) pieces
  exact (Poly1305.tag_of_receives length receives).2

theorem poly1305_pieces_three :
    littleEndian (poly1305Finish ([[1, 2], [], [3]].foldl poly1305Update
        (poly1305Init (List.replicate 32 7)))) =
      Poly1305.authenticate (Poly1305.multiplier (List.replicate 32 7))
        (Poly1305.summand (List.replicate 32 7)) [1, 2, 3] :=
  poly1305_pieces List.length_replicate [[1, 2], [], [3]]

end EchoMic
