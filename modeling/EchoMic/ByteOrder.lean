import Mathlib.Data.Nat.Digits.Defs

/-!
# Words and their bytes

The macros of the cryptographic code that put words together from bytes and
take them apart, the numbers that they stand for, and the comparison of two
buffers.
-/

namespace EchoMic

/-- A buffer of bytes. -/
abbrev Bytes :=
  List UInt8

/-- `p[index]`. -/
def byteAt (p : Bytes) (index : Nat) : UInt8 :=
  p.getD index 0

def u8To32Little (p : Bytes) : UInt32 :=
  (byteAt p 0).toUInt32 ||| ((byteAt p 1).toUInt32 <<< 8) |||
    ((byteAt p 2).toUInt32 <<< 16) ||| ((byteAt p 3).toUInt32 <<< 24)

def u8To64Little (p : Bytes) : UInt64 :=
  (byteAt p 0).toUInt64 ||| ((byteAt p 1).toUInt64 <<< 8) |||
    ((byteAt p 2).toUInt64 <<< 16) ||| ((byteAt p 3).toUInt64 <<< 24) |||
    ((byteAt p 4).toUInt64 <<< 32) ||| ((byteAt p 5).toUInt64 <<< 40) |||
    ((byteAt p 6).toUInt64 <<< 48) ||| ((byteAt p 7).toUInt64 <<< 56)

def u32To8Little (v : UInt32) : Bytes :=
  [v.toUInt8, (v >>> 8).toUInt8, (v >>> 16).toUInt8, (v >>> 24).toUInt8]

def u64To8Little (v : UInt64) : Bytes :=
  [v.toUInt8, (v >>> 8).toUInt8, (v >>> 16).toUInt8, (v >>> 24).toUInt8,
    (v >>> 32).toUInt8, (v >>> 40).toUInt8, (v >>> 48).toUInt8, (v >>> 56).toUInt8]

/-- The number that bytes stand for, the least significant one first. -/
def littleEndian (bytes : Bytes) : Nat :=
  Nat.ofDigits 256 (bytes.map UInt8.toNat)

@[simp]
theorem littleEndian_nil : littleEndian [] = 0 :=
  rfl

@[simp]
theorem littleEndian_cons (byte : UInt8) (bytes : Bytes) :
    littleEndian (byte :: bytes) = byte.toNat + 256 * littleEndian bytes := by
  simp [littleEndian, Nat.ofDigits_cons]

theorem littleEndian_append (low high : Bytes) :
    littleEndian (low ++ high) = littleEndian low + 256 ^ low.length * littleEndian high := by
  simp [littleEndian, Nat.ofDigits_append]

theorem littleEndian_lt (bytes : Bytes) : littleEndian bytes < 256 ^ bytes.length := by
  induction bytes with
  | nil => decide
  | cons byte bytes ih =>
      have bounded := byte.toNat_lt
      rw [littleEndian_cons, List.length_cons, Nat.pow_succ]
      omega

/-- Bytes of one length are determined by the number they stand for. -/
theorem littleEndian_inj {first second : Bytes} (lengths : first.length = second.length)
    (equal : littleEndian first = littleEndian second) : first = second := by
  induction first generalizing second with
  | nil => exact (List.length_eq_zero_iff.mp lengths.symm).symm
  | cons byte first ih =>
      cases second with
      | nil => cases lengths
      | cons other second =>
          have firstBounded := byte.toNat_lt
          have secondBounded := other.toNat_lt
          rw [littleEndian_cons, littleEndian_cons] at equal
          have head : byte = other := UInt8.toNat_inj.mp (by omega)
          rw [head, ih (Nat.succ.inj lengths) (by omega)]

/-! ## Disjoint parts of a word -/

theorem lor_mul_two_pow {low count : Nat} (below : low < 2 ^ count) (high : Nat) :
    low ||| high * 2 ^ count = low + high * 2 ^ count := by
  rw [Nat.or_comm, ← Nat.shiftLeft_eq, ← Nat.shiftLeft_add_eq_or_of_lt below, Nat.add_comm]

/-- Or-ing a shifted word above the bits of another one adds them. -/
theorem toNat_or_shiftLeft {low high shift : UInt32} (inside : shift.toNat < 32)
    (below : low.toNat < 2 ^ shift.toNat)
    (fits : high.toNat * 2 ^ shift.toNat < 2 ^ 32) :
    (low ||| (high <<< shift)).toNat = low.toNat + high.toNat * 2 ^ shift.toNat := by
  rw [UInt32.toNat_or, UInt32.toNat_shiftLeft, Nat.mod_eq_of_lt inside, Nat.shiftLeft_eq,
    Nat.mod_eq_of_lt fits, lor_mul_two_pow below]

theorem toNat_or_shiftLeft64 {low high shift : UInt64} (inside : shift.toNat < 64)
    (below : low.toNat < 2 ^ shift.toNat)
    (fits : high.toNat * 2 ^ shift.toNat < 2 ^ 64) :
    (low ||| (high <<< shift)).toNat = low.toNat + high.toNat * 2 ^ shift.toNat := by
  rw [UInt64.toNat_or, UInt64.toNat_shiftLeft, Nat.mod_eq_of_lt inside, Nat.shiftLeft_eq,
    Nat.mod_eq_of_lt fits, lor_mul_two_pow below]

theorem byte_mul_lt (byte : UInt8) {count width : Nat} (room : count + 8 ≤ width) :
    byte.toNat * 2 ^ count < 2 ^ width := by
  calc byte.toNat * 2 ^ count < 2 ^ 8 * 2 ^ count :=
        Nat.mul_lt_mul_of_pos_right byte.toNat_lt (Nat.two_pow_pos count)
    _ = 2 ^ (count + 8) := by rw [Nat.pow_add, Nat.mul_comm]
    _ ≤ 2 ^ width := Nat.pow_le_pow_right (by decide) room

theorem littleEndian_lt_two_pow (bytes : Bytes) : littleEndian bytes < 2 ^ (8 * bytes.length) := by
  rw [Nat.pow_mul]
  exact littleEndian_lt bytes

theorem littleEndian_concat (bytes : Bytes) (byte : UInt8) :
    littleEndian (bytes ++ [byte]) =
      littleEndian bytes + byte.toNat * 2 ^ (8 * bytes.length) := by
  rw [littleEndian_append, littleEndian_cons, littleEndian_nil, Nat.pow_mul, Nat.mul_comm]
  rfl

/-- The next byte of a word of which the bytes before it are in place. -/
theorem toNat_or_nextByte {word : UInt32} {bytes : Bytes}
    (value : word.toNat = littleEndian bytes) (byte : UInt8) (shift : UInt32)
    (position : shift.toNat = 8 * bytes.length) (inside : shift.toNat < 32) :
    (word ||| (byte.toUInt32 <<< shift)).toNat = littleEndian (bytes ++ [byte]) := by
  have below : word.toNat < 2 ^ shift.toNat := by
    rw [value, position]
    exact littleEndian_lt_two_pow bytes
  rw [toNat_or_shiftLeft inside below (byte_mul_lt byte (by omega)), littleEndian_concat,
    value, position, UInt8.toNat_toUInt32]

theorem toNat_or_nextByte64 {word : UInt64} {bytes : Bytes}
    (value : word.toNat = littleEndian bytes) (byte : UInt8) (shift : UInt64)
    (position : shift.toNat = 8 * bytes.length) (inside : shift.toNat < 64) :
    (word ||| (byte.toUInt64 <<< shift)).toNat = littleEndian (bytes ++ [byte]) := by
  have below : word.toNat < 2 ^ shift.toNat := by
    rw [value, position]
    exact littleEndian_lt_two_pow bytes
  rw [toNat_or_shiftLeft64 inside below (byte_mul_lt byte (by omega)), littleEndian_concat,
    value, position, UInt8.toNat_toUInt64]

/-! ## The words of the macros -/

theorem toNat_u8To32Little (p : Bytes) :
    (u8To32Little p).toNat =
      littleEndian [byteAt p 0, byteAt p 1, byteAt p 2, byteAt p 3] := by
  have one : (byteAt p 0).toUInt32.toNat = littleEndian [byteAt p 0] := by simp
  have two := toNat_or_nextByte one (byteAt p 1) 8 rfl (by decide)
  have three := toNat_or_nextByte two (byteAt p 2) 16 rfl (by decide)
  exact toNat_or_nextByte three (byteAt p 3) 24 rfl (by decide)

theorem toNat_u8To64Little (p : Bytes) :
    (u8To64Little p).toNat =
      littleEndian [byteAt p 0, byteAt p 1, byteAt p 2, byteAt p 3,
        byteAt p 4, byteAt p 5, byteAt p 6, byteAt p 7] := by
  have one : (byteAt p 0).toUInt64.toNat = littleEndian [byteAt p 0] := by simp
  have two := toNat_or_nextByte64 one (byteAt p 1) 8 rfl (by decide)
  have three := toNat_or_nextByte64 two (byteAt p 2) 16 rfl (by decide)
  have four := toNat_or_nextByte64 three (byteAt p 3) 24 rfl (by decide)
  have five := toNat_or_nextByte64 four (byteAt p 4) 32 rfl (by decide)
  have six := toNat_or_nextByte64 five (byteAt p 5) 40 rfl (by decide)
  have seven := toNat_or_nextByte64 six (byteAt p 6) 48 rfl (by decide)
  exact toNat_or_nextByte64 seven (byteAt p 7) 56 rfl (by decide)

theorem littleEndian_take_drop (bytes : Bytes) (count : Nat) (inside : count ≤ bytes.length) :
    littleEndian bytes =
      littleEndian (bytes.take count) + 256 ^ count * littleEndian (bytes.drop count) := by
  have split := littleEndian_append (bytes.take count) (bytes.drop count)
  rwa [List.take_append_drop, List.length_take, Nat.min_eq_left inside] at split

/-- The word at an offset of a buffer, as a part of the number that the buffer
stands for. -/
theorem toNat_u8To32Little_drop (p : Bytes) {offset : Nat} (inside : offset ≤ p.length) :
    (u8To32Little (p.drop offset)).toNat = littleEndian p / 256 ^ offset % 2 ^ 32 := by
  have first := littleEndian_lt (p.take offset)
  rw [List.length_take, Nat.min_eq_left inside] at first
  rw [littleEndian_take_drop p offset inside, Nat.add_mul_div_left _ _ (Nat.pow_pos (by decide)),
    Nat.div_eq_of_lt first, Nat.zero_add, toNat_u8To32Little]
  obtain _ | ⟨p0, _ | ⟨p1, _ | ⟨p2, _ | ⟨p3, more⟩⟩⟩⟩ := p.drop offset
  · rfl
  · simp [byteAt]
  · have bound0 := p0.toNat_lt
    have bound1 := p1.toNat_lt
    simp [byteAt]
    omega
  · have bound0 := p0.toNat_lt
    have bound1 := p1.toNat_lt
    have bound2 := p2.toNat_lt
    simp [byteAt]
    omega
  · have bound0 := p0.toNat_lt
    have bound1 := p1.toNat_lt
    have bound2 := p2.toNat_lt
    have bound3 := p3.toNat_lt
    simp [byteAt]
    omega

theorem littleEndian_u32To8Little (v : UInt32) : littleEndian (u32To8Little v) = v.toNat := by
  have bounded := v.toNat_lt
  simp [u32To8Little, Nat.shiftRight_eq_div_pow]
  omega

theorem littleEndian_u64To8Little (v : UInt64) : littleEndian (u64To8Little v) = v.toNat := by
  have bounded := v.toNat_lt
  simp [u64To8Little, Nat.shiftRight_eq_div_pow]
  omega

@[simp]
theorem u8To32Little_u32To8Little (v : UInt32) : u8To32Little (u32To8Little v) = v :=
  UInt32.toNat_inj.mp ((toNat_u8To32Little _).trans (littleEndian_u32To8Little v))

@[simp]
theorem u8To64Little_u64To8Little (v : UInt64) : u8To64Little (u64To8Little v) = v :=
  UInt64.toNat_inj.mp ((toNat_u8To64Little _).trans (littleEndian_u64To8Little v))

theorem length_flatMap_u32To8Little (words : List UInt32) :
    (words.flatMap u32To8Little).length = 4 * words.length := by
  induction words with
  | nil => rfl
  | cons word words ih =>
      rw [List.flatMap_cons, List.length_append, ih, List.length_cons]
      change 4 + _ = _
      omega

/-! ## Comparing buffers -/

/-- Whether the first `size` bytes are the same, read without an early end. -/
def cryptoEqual (a b : Bytes) (size : Nat) : Bool :=
  let neq := (List.range size).foldl (fun neq index =>
    neq ||| (byteAt a index ^^^ byteAt b index)) 0
  if neq ≠ 0 then false else true

theorem or_eq_zero_iff (first second : UInt8) : first ||| second = 0 ↔ first = 0 ∧ second = 0 := by
  rw [← UInt8.toNat_inj, ← UInt8.toNat_inj, ← UInt8.toNat_inj, UInt8.toNat_or]
  exact Nat.or_eq_zero_iff

theorem cryptoEqual_iff (a b : Bytes) (size : Nat) :
    cryptoEqual a b size = true ↔ ∀ index < size, byteAt a index = byteAt b index := by
  have folded : ∀ indices : List Nat, ∀ neq : UInt8,
      indices.foldl (fun neq index => neq ||| (byteAt a index ^^^ byteAt b index)) neq = 0 ↔
        neq = 0 ∧ ∀ index ∈ indices, byteAt a index = byteAt b index := by
    intro indices
    induction indices with
    | nil => simp
    | cons index indices ih =>
        intro neq
        rw [List.foldl_cons, ih, or_eq_zero_iff, UInt8.xor_eq_zero_iff, List.forall_mem_cons,
          and_assoc]
  unfold cryptoEqual
  simp only [ne_eq, ite_not, Bool.if_false_right, Bool.and_true, decide_eq_true_eq, folded,
    true_and, List.mem_range]

theorem eq_of_cryptoEqual {a b : Bytes} {size : Nat} (first : a.length = size)
    (second : b.length = size) (equal : cryptoEqual a b size = true) : a = b := by
  apply List.ext_getElem (first.trans second.symm)
  intro index inFirst inSecond
  have same := (cryptoEqual_iff a b size).mp equal index (first ▸ inFirst)
  rwa [byteAt, byteAt, List.getD_eq_getElem?_getD, List.getD_eq_getElem?_getD,
    List.getElem?_eq_getElem inFirst, List.getElem?_eq_getElem inSecond] at same

@[simp]
theorem cryptoEqual_self (a : Bytes) (size : Nat) : cryptoEqual a a size = true :=
  (cryptoEqual_iff a a size).mpr fun _ _ => rfl

end EchoMic
