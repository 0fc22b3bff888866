import EchoMic.ByteOrder
import Mathlib.Tactic.Ring

/-!
# The limbs of Poly1305

The accumulator of the authenticator consists of five limbs of 26 bits in
32-bit words, with products in 64-bit words.  This file proves that no sum or
product of a block overflows, and that a block does the arithmetic of
2^130 - 5 on the numbers that the limbs stand for.
-/

namespace EchoMic

/-- `r[5]` or `h[5]`. -/
structure Limbs where
  limb0 : UInt32
  limb1 : UInt32
  limb2 : UInt32
  limb3 : UInt32
  limb4 : UInt32
  deriving DecidableEq

/-- `d0` to `d4`. -/
structure Products where
  d0 : UInt64
  d1 : UInt64
  d2 : UInt64
  d3 : UInt64
  d4 : UInt64

namespace Poly1305

def zeroLimbs : Limbs where
  limb0 := 0
  limb1 := 0
  limb2 := 0
  limb3 := 0
  limb4 := 0

/-- The limbs of `r` in `poly1305_init`. -/
def clampedLimbs (key : Bytes) : Limbs where
  limb0 := u8To32Little key &&& 0x3ffffff
  limb1 := (u8To32Little (key.drop 3) >>> 2) &&& 0x3ffff03
  limb2 := (u8To32Little (key.drop 6) >>> 4) &&& 0x3ffc0ff
  limb3 := (u8To32Little (key.drop 9) >>> 6) &&& 0x3f03fff
  limb4 := (u8To32Little (key.drop 12) >>> 8) &&& 0x00fffff

/-! ## A block -/

/-- `h += m[i]`. -/
def addBlock (hibit : UInt32) (m : Bytes) (h : Limbs) : Limbs where
  limb0 := h.limb0 + (u8To32Little m &&& 0x3ffffff)
  limb1 := h.limb1 + ((u8To32Little (m.drop 3) >>> 2) &&& 0x3ffffff)
  limb2 := h.limb2 + ((u8To32Little (m.drop 6) >>> 4) &&& 0x3ffffff)
  limb3 := h.limb3 + ((u8To32Little (m.drop 9) >>> 6) &&& 0x3ffffff)
  limb4 := h.limb4 + ((u8To32Little (m.drop 12) >>> 8) ||| hibit)

/-- A sum of five products in 64 bits. -/
def dot (h : Limbs) (b0 b1 b2 b3 b4 : UInt32) : UInt64 :=
  h.limb0.toUInt64 * b0.toUInt64 + h.limb1.toUInt64 * b1.toUInt64 +
    h.limb2.toUInt64 * b2.toUInt64 + h.limb3.toUInt64 * b3.toUInt64 +
    h.limb4.toUInt64 * b4.toUInt64

/-- `h *= r`. -/
def multiply (h r : Limbs) : Products :=
  let s1 := r.limb1 * 5
  let s2 := r.limb2 * 5
  let s3 := r.limb3 * 5
  let s4 := r.limb4 * 5
  { d0 := dot h r.limb0 s4 s3 s2 s1
    d1 := dot h r.limb1 r.limb0 s4 s3 s2
    d2 := dot h r.limb2 r.limb1 r.limb0 s4 s3
    d3 := dot h r.limb3 r.limb2 r.limb1 r.limb0 s4
    d4 := dot h r.limb4 r.limb3 r.limb2 r.limb1 r.limb0 }

def carryOf (d : UInt64) : UInt32 :=
  (d >>> 26).toUInt32

def lowOf (d : UInt64) : UInt32 :=
  d.toUInt32 &&& 0x3ffffff

/-- `(partial) h %= p`. -/
def carryProducts (d : Products) : Limbs :=
  let d1 := d.d1 + (carryOf d.d0).toUInt64
  let d2 := d.d2 + (carryOf d1).toUInt64
  let d3 := d.d3 + (carryOf d2).toUInt64
  let d4 := d.d4 + (carryOf d3).toUInt64
  let h0 := lowOf d.d0 + carryOf d4 * 5
  { limb0 := h0 &&& 0x3ffffff
    limb1 := lowOf d1 + (h0 >>> 26)
    limb2 := lowOf d2
    limb3 := lowOf d3
    limb4 := lowOf d4 }

/-- One turn of the loop of `poly1305_blocks`. -/
def absorb (hibit : UInt32) (r h : Limbs) (m : Bytes) : Limbs :=
  carryProducts (multiply (addBlock hibit m h) r)

/-! ## The numbers of the limbs -/

end Poly1305

/-- The number that limbs stand for. -/
def Limbs.value (limbs : Limbs) : Nat :=
  limbs.limb0.toNat + 2 ^ 26 * limbs.limb1.toNat + 2 ^ 52 * limbs.limb2.toNat +
    2 ^ 78 * limbs.limb3.toNat + 2 ^ 104 * limbs.limb4.toNat

/-- The number that products stand for. -/
def Products.value (d : Products) : Nat :=
  d.d0.toNat + 2 ^ 26 * d.d1.toNat + 2 ^ 52 * d.d2.toNat + 2 ^ 78 * d.d3.toNat +
    2 ^ 104 * d.d4.toNat

/-- What a block leaves in the accumulator: only the second limb may exceed
its 26 bits, and by less than 64. -/
structure Limbs.IsCarried (h : Limbs) : Prop where
  limb0 : h.limb0.toNat < 2 ^ 26
  limb1 : h.limb1.toNat < 2 ^ 26 + 64
  limb2 : h.limb2.toNat < 2 ^ 26
  limb3 : h.limb3.toNat < 2 ^ 26
  limb4 : h.limb4.toNat < 2 ^ 26

/-- The size of a clamped multiplier. -/
structure Limbs.IsClamped (r : Limbs) : Prop where
  limb0 : r.limb0.toNat < 2 ^ 26
  limb1 : r.limb1.toNat < 2 ^ 26
  limb2 : r.limb2.toNat < 2 ^ 26
  limb3 : r.limb3.toNat < 2 ^ 26
  limb4 : r.limb4.toNat < 2 ^ 20

namespace Poly1305

def prime : Nat :=
  2 ^ 130 - 5

theorem toNat_and_low (word : UInt32) : (word &&& 0x3ffffff).toNat = word.toNat % 2 ^ 26 := by
  rw [UInt32.toNat_and]
  exact Nat.and_two_pow_sub_one_eq_mod _ 26

theorem toNat_lowOf (d : UInt64) : (lowOf d).toNat = d.toNat % 2 ^ 26 := by
  rw [lowOf, toNat_and_low, UInt64.toNat_toUInt32]
  omega

theorem toNat_carryOf {d : UInt64} (small : d.toNat < 2 ^ 58) :
    (carryOf d).toNat = d.toNat / 2 ^ 26 := by
  rw [carryOf, UInt64.toNat_toUInt32, UInt64.toNat_shiftRight, Nat.shiftRight_eq_div_pow]
  change d.toNat / 2 ^ 26 % 2 ^ 32 = _
  omega

/-- How large the limbs are when a block has been added. -/
structure IsAdded (h : Limbs) : Prop where
  limb0 : h.limb0.toNat ≤ 2 ^ 27 + 64
  limb1 : h.limb1.toNat ≤ 2 ^ 27 + 64
  limb2 : h.limb2.toNat ≤ 2 ^ 27 + 64
  limb3 : h.limb3.toNat ≤ 2 ^ 27 + 64
  limb4 : h.limb4.toNat ≤ 2 ^ 27 + 64

/-! ## Adding a block -/

/-- A field of 26 bits of the number of a block. -/
theorem toNat_blockField {m : Bytes} {offset shift : Nat} (count : UInt32)
    (inside : offset ≤ m.length) (amount : count.toNat = shift) (small : shift ≤ 6) :
    ((u8To32Little (m.drop offset) >>> count) &&& 0x3ffffff).toNat =
      littleEndian m / 2 ^ (8 * offset + shift) % 2 ^ 26 := by
  have word := toNat_u8To32Little_drop m inside
  rw [toNat_and_low, UInt32.toNat_shiftRight, amount,
    Nat.mod_eq_of_lt (show shift < 32 by omega), word,
    Nat.shiftRight_eq_div_pow, Nat.pow_add, ← Nat.div_div_eq_div_mul, Nat.pow_mul]
  generalize littleEndian m / (2 ^ 8) ^ offset = rest
  obtain rfl | rfl | rfl | rfl | rfl | rfl | rfl : shift = 0 ∨ shift = 1 ∨ shift = 2 ∨ shift = 3 ∨
      shift = 4 ∨ shift = 5 ∨ shift = 6 := by omega
  all_goals omega

/-- The limbs of a block of 16 bytes. -/
theorem value_addBlock {hibit : UInt32} {m : Bytes} {h : Limbs} (length : m.length = 16)
    (carried : h.IsCarried) (high : hibit = 0 ∨ hibit = 0x1000000) :
    IsAdded (addBlock hibit m h) ∧
      (addBlock hibit m h).value =
        h.value + littleEndian m + 2 ^ 104 * hibit.toNat := by
  have bounded := littleEndian_lt m
  rw [length] at bounded
  obtain ⟨h0, h1, h2, h3, h4⟩ := carried
  have field0 : (u8To32Little m &&& 0x3ffffff).toNat = littleEndian m % 2 ^ 26 := by
    have word := toNat_u8To32Little_drop m (Nat.zero_le _)
    rw [List.drop_zero] at word
    rw [toNat_and_low, word]
    omega
  have field1 := toNat_blockField 2 (show 3 ≤ m.length by omega) rfl (by decide)
  have field2 := toNat_blockField 4 (show 6 ≤ m.length by omega) rfl (by decide)
  have field3 := toNat_blockField 6 (show 9 ≤ m.length by omega) rfl (by decide)
  have field4 : ((u8To32Little (m.drop 12) >>> 8) ||| hibit).toNat =
      littleEndian m / 2 ^ 104 + hibit.toNat := by
    have word := toNat_u8To32Little_drop m (show 12 ≤ m.length by omega)
    have top : (u8To32Little (m.drop 12) >>> 8).toNat = littleEndian m / 2 ^ 104 := by
      rw [UInt32.toNat_shiftRight, word, Nat.shiftRight_eq_div_pow]
      change littleEndian m / 256 ^ 12 % 2 ^ 32 / 2 ^ 8 = _
      omega
    obtain rfl | rfl := high
    · rw [UInt32.or_zero, top]
      rfl
    · have fits : (u8To32Little (m.drop 12) >>> 8).toNat < 2 ^ 24 := by
        rw [top]
        omega
      rw [show (0x1000000 : UInt32) = (1 : UInt32) <<< (24 : UInt32) from rfl,
        toNat_or_shiftLeft (by decide) fits (by decide), top]
      rfl
  have hibit_le : hibit.toNat ≤ 2 ^ 24 := by
    obtain rfl | rfl := high <;> decide
  change _ = littleEndian m / 2 ^ 26 % 2 ^ 26 at field1
  change _ = littleEndian m / 2 ^ 52 % 2 ^ 26 at field2
  change _ = littleEndian m / 2 ^ 78 % 2 ^ 26 at field3
  have limb0 : (addBlock hibit m h).limb0.toNat = h.limb0.toNat + littleEndian m % 2 ^ 26 := by
    rw [addBlock, UInt32.toNat_add, field0]
    omega
  have limb1 : (addBlock hibit m h).limb1.toNat =
      h.limb1.toNat + littleEndian m / 2 ^ 26 % 2 ^ 26 := by
    rw [addBlock, UInt32.toNat_add, field1]
    omega
  have limb2 : (addBlock hibit m h).limb2.toNat =
      h.limb2.toNat + littleEndian m / 2 ^ 52 % 2 ^ 26 := by
    rw [addBlock, UInt32.toNat_add, field2]
    omega
  have limb3 : (addBlock hibit m h).limb3.toNat =
      h.limb3.toNat + littleEndian m / 2 ^ 78 % 2 ^ 26 := by
    rw [addBlock, UInt32.toNat_add, field3]
    omega
  have limb4 : (addBlock hibit m h).limb4.toNat =
      h.limb4.toNat + (littleEndian m / 2 ^ 104 + hibit.toNat) := by
    rw [addBlock, UInt32.toNat_add, field4]
    omega
  constructor
  · constructor <;> omega
  · rw [Limbs.value, limb0, limb1, limb2, limb3, limb4, Limbs.value]
    omega

/-! ## Multiplying -/

theorem mul_le_bound {a b : Nat} (first : a ≤ 2 ^ 27 + 64) (second : b ≤ 5 * 2 ^ 26) :
    a * b ≤ (2 ^ 27 + 64) * (5 * 2 ^ 26) :=
  Nat.mul_le_mul first second

/-- The five products and their sum fit in 64 bits. -/
theorem toNat_dot {h : Limbs} (added : IsAdded h) (b0 b1 b2 b3 b4 : UInt32)
    (bound0 : b0.toNat ≤ 5 * 2 ^ 26) (bound1 : b1.toNat ≤ 5 * 2 ^ 26)
    (bound2 : b2.toNat ≤ 5 * 2 ^ 26) (bound3 : b3.toNat ≤ 5 * 2 ^ 26)
    (bound4 : b4.toNat ≤ 5 * 2 ^ 26) :
    (dot h b0 b1 b2 b3 b4).toNat =
        h.limb0.toNat * b0.toNat + h.limb1.toNat * b1.toNat + h.limb2.toNat * b2.toNat +
          h.limb3.toNat * b3.toNat + h.limb4.toNat * b4.toNat ∧
      (dot h b0 b1 b2 b3 b4).toNat + 2 ^ 32 < 2 ^ 58 := by
  have product0 := mul_le_bound added.limb0 bound0
  have product1 := mul_le_bound added.limb1 bound1
  have product2 := mul_le_bound added.limb2 bound2
  have product3 := mul_le_bound added.limb3 bound3
  have product4 := mul_le_bound added.limb4 bound4
  have exactSum : (dot h b0 b1 b2 b3 b4).toNat =
      h.limb0.toNat * b0.toNat + h.limb1.toNat * b1.toNat + h.limb2.toNat * b2.toNat +
        h.limb3.toNat * b3.toNat + h.limb4.toNat * b4.toNat := by
    simp only [dot, UInt64.toNat_add, UInt64.toNat_mul, UInt32.toNat_toUInt64]
    omega
  refine ⟨exactSum, ?_⟩
  rw [exactSum]
  omega

/-- What multiplication leaves in each product. -/
structure ProductsFit (d : Products) : Prop where
  d0 : d.d0.toNat + 2 ^ 32 < 2 ^ 58
  d1 : d.d1.toNat + 2 ^ 32 < 2 ^ 58
  d2 : d.d2.toNat + 2 ^ 32 < 2 ^ 58
  d3 : d.d3.toNat + 2 ^ 32 < 2 ^ 58
  d4 : d.d4.toNat + 2 ^ 32 < 2 ^ 55 + 2 ^ 50

theorem toNat_timesFive {limb : UInt32} (small : limb.toNat < 2 ^ 26) :
    (limb * 5).toNat = limb.toNat * 5 := by
  rw [UInt32.toNat_mul]
  change limb.toNat * 5 % 2 ^ 32 = _
  omega

/-- The products are those of 2^130 - 5. -/
theorem multiply_spec {h r : Limbs} (added : IsAdded h) (clamped : r.IsClamped) :
    ProductsFit (multiply h r) ∧
      ∃ quotient, h.value * r.value + 5 * quotient =
        (multiply h r).value + 2 ^ 130 * quotient := by
  obtain ⟨r0, r1, r2, r3, r4⟩ := clamped
  have s1 := toNat_timesFive r1
  have s2 := toNat_timesFive r2
  have s3 := toNat_timesFive r3
  have s4 := toNat_timesFive (show r.limb4.toNat < 2 ^ 26 by omega)
  obtain ⟨value0, fits0⟩ := toNat_dot added r.limb0 (r.limb4 * 5) (r.limb3 * 5)
    (r.limb2 * 5) (r.limb1 * 5)
    (by omega) (by omega) (by omega) (by omega) (by omega)
  obtain ⟨value1, fits1⟩ := toNat_dot added r.limb1 r.limb0 (r.limb4 * 5)
    (r.limb3 * 5) (r.limb2 * 5)
    (by omega) (by omega) (by omega) (by omega) (by omega)
  obtain ⟨value2, fits2⟩ := toNat_dot added r.limb2 r.limb1 r.limb0
    (r.limb4 * 5) (r.limb3 * 5)
    (by omega) (by omega) (by omega) (by omega) (by omega)
  obtain ⟨value3, fits3⟩ := toNat_dot added r.limb3 r.limb2 r.limb1
    r.limb0 (r.limb4 * 5)
    (by omega) (by omega) (by omega) (by omega) (by omega)
  obtain ⟨value4, fits4⟩ := toNat_dot added r.limb4 r.limb3 r.limb2
    r.limb1 r.limb0
    (by omega) (by omega) (by omega) (by omega) (by omega)
  have top : (multiply h r).d4.toNat + 2 ^ 32 < 2 ^ 55 + 2 ^ 50 := by
    have product0 := Nat.mul_le_mul added.limb0 (show r.limb4.toNat ≤ 2 ^ 20 by omega)
    have product1 := Nat.mul_le_mul added.limb1 (show r.limb3.toNat ≤ 2 ^ 26 by omega)
    have product2 := Nat.mul_le_mul added.limb2 (show r.limb2.toNat ≤ 2 ^ 26 by omega)
    have product3 := Nat.mul_le_mul added.limb3 (show r.limb1.toNat ≤ 2 ^ 26 by omega)
    have product4 := Nat.mul_le_mul added.limb4 (show r.limb0.toNat ≤ 2 ^ 26 by omega)
    rw [multiply, value4]
    omega
  refine ⟨⟨fits0, fits1, fits2, fits3, top⟩, ?_⟩
  refine ⟨h.limb1.toNat * r.limb4.toNat + h.limb2.toNat * r.limb3.toNat +
      h.limb3.toNat * r.limb2.toNat + h.limb4.toNat * r.limb1.toNat +
    2 ^ 26 * (h.limb2.toNat * r.limb4.toNat + h.limb3.toNat * r.limb3.toNat +
      h.limb4.toNat * r.limb2.toNat) +
    2 ^ 52 * (h.limb3.toNat * r.limb4.toNat + h.limb4.toNat * r.limb3.toNat) +
    2 ^ 78 * (h.limb4.toNat * r.limb4.toNat), ?_⟩
  simp only [Products.value, Limbs.value, multiply, value0, value1, value2, value3, value4, s1, s2,
    s3, s4]
  ring

/-! ## Carrying -/

/-- Carrying leaves limbs in their bounds and takes a multiple of 2^130 - 5
away. -/
theorem carryProducts_spec {d : Products} (fit : ProductsFit d) :
    (carryProducts d).IsCarried ∧
      ∃ quotient, (carryProducts d).value + 2 ^ 130 * quotient = d.value + 5 * quotient := by
  obtain ⟨fit0, fit1, fit2, fit3, fit4⟩ := fit
  unfold carryProducts
  extract_lets d1 d2 d3 d4 h0
  have carry0 := toNat_carryOf (d := d.d0) (by omega)
  have sum1 : d1.toNat = d.d1.toNat + (carryOf d.d0).toNat := by
    have bounded := (carryOf d.d0).toNat_lt
    simp only [d1, UInt64.toNat_add, UInt32.toNat_toUInt64]
    omega
  have carry1 := toNat_carryOf (d := d1) (by have := (carryOf d.d0).toNat_lt; omega)
  have sum2 : d2.toNat = d.d2.toNat + (carryOf d1).toNat := by
    have bounded := (carryOf d1).toNat_lt
    simp only [d2, UInt64.toNat_add, UInt32.toNat_toUInt64]
    omega
  have carry2 := toNat_carryOf (d := d2) (by have := (carryOf d1).toNat_lt; omega)
  have sum3 : d3.toNat = d.d3.toNat + (carryOf d2).toNat := by
    have bounded := (carryOf d2).toNat_lt
    simp only [d3, UInt64.toNat_add, UInt32.toNat_toUInt64]
    omega
  have carry3 := toNat_carryOf (d := d3) (by have := (carryOf d2).toNat_lt; omega)
  have sum4 : d4.toNat = d.d4.toNat + (carryOf d3).toNat := by
    have bounded := (carryOf d3).toNat_lt
    simp only [d4, UInt64.toNat_add, UInt32.toNat_toUInt64]
    omega
  have carry4 := toNat_carryOf (d := d4) (by have := (carryOf d3).toNat_lt; omega)
  have low0 := toNat_lowOf d.d0
  have low1 := toNat_lowOf d1
  have low2 := toNat_lowOf d2
  have low3 := toNat_lowOf d3
  have low4 := toNat_lowOf d4
  have bounded3 := (carryOf d3).toNat_lt
  have wrapped : h0.toNat = d.d0.toNat % 2 ^ 26 + 5 * (carryOf d4).toNat := by
    simp only [h0, UInt32.toNat_add, UInt32.toNat_mul, low0]
    change (d.d0.toNat % 2 ^ 26 + (carryOf d4).toNat * 5 % 2 ^ 32) % 2 ^ 32 = _
    omega
  have kept := toNat_and_low h0
  have carried : (h0 >>> 26).toNat = h0.toNat / 2 ^ 26 := by
    rw [UInt32.toNat_shiftRight, Nat.shiftRight_eq_div_pow]
    rfl
  have second : (lowOf d1 + (h0 >>> 26)).toNat = d1.toNat % 2 ^ 26 + h0.toNat / 2 ^ 26 := by
    rw [UInt32.toNat_add, low1, carried]
    omega
  refine ⟨⟨?_, ?_, ?_, ?_, ?_⟩, (carryOf d4).toNat, ?_⟩
  · rw [kept]
    omega
  · rw [second]
    omega
  · rw [low2]
    omega
  · rw [low3]
    omega
  · rw [low4]
    omega
  · simp only [Limbs.value, Products.value, kept, second, low2, low3, low4]
    omega

/-- One block: the limbs stay in their bounds, and the number that they stand
for is that of the polynomial modulo 2^130 - 5. -/
theorem absorb_spec {hibit : UInt32} {r h : Limbs} {m : Bytes} (length : m.length = 16)
    (high : hibit = 0 ∨ hibit = 0x1000000) (clamped : r.IsClamped) (carried : h.IsCarried) :
    (absorb hibit r h m).IsCarried ∧
      (absorb hibit r h m).value % prime =
        (h.value + littleEndian m + 2 ^ 104 * hibit.toNat) * r.value % prime := by
  obtain ⟨added, sum⟩ := value_addBlock (m := m) length carried high
  obtain ⟨fit, first, product⟩ := multiply_spec added clamped
  obtain ⟨bounds, second, reduced⟩ := carryProducts_spec fit
  refine ⟨bounds, ?_⟩
  rw [← sum]
  unfold absorb prime
  omega

/-! ## The end of a message -/

/-- `fully carry h`. -/
def fullyCarry (h : Limbs) : Limbs :=
  let h2 : UInt32 := h.limb2 + (h.limb1 >>> 26)
  let h3 : UInt32 := h.limb3 + (h2 >>> 26)
  let h4 : UInt32 := h.limb4 + (h3 >>> 26)
  let h0 : UInt32 := h.limb0 + (h4 >>> 26) * 5
  { limb0 := h0 &&& 0x3ffffff
    limb1 := (h.limb1 &&& (0x3ffffff : UInt32)) + (h0 >>> 26)
    limb2 := h2 &&& 0x3ffffff
    limb3 := h3 &&& 0x3ffffff
    limb4 := h4 &&& 0x3ffffff }

/-- `compute h + -p`. -/
def plusMinusPrime (h : Limbs) : Limbs :=
  let g0 : UInt32 := h.limb0 + 5
  let g1 : UInt32 := h.limb1 + (g0 >>> 26)
  let g2 : UInt32 := h.limb2 + (g1 >>> 26)
  let g3 : UInt32 := h.limb3 + (g2 >>> 26)
  { limb0 := g0 &&& 0x3ffffff
    limb1 := g1 &&& 0x3ffffff
    limb2 := g2 &&& 0x3ffffff
    limb3 := g3 &&& 0x3ffffff
    limb4 := h.limb4 + (g3 >>> 26) - ((1 : UInt32) <<< 26) }

/-- `select h if h < p, or h + -p if h >= p`. -/
def selectLimbs (h g : Limbs) : Limbs :=
  let mask : UInt32 := (g.limb4 >>> 31) - 1
  { limb0 := (h.limb0 &&& ~~~mask) ||| (g.limb0 &&& mask)
    limb1 := (h.limb1 &&& ~~~mask) ||| (g.limb1 &&& mask)
    limb2 := (h.limb2 &&& ~~~mask) ||| (g.limb2 &&& mask)
    limb3 := (h.limb3 &&& ~~~mask) ||| (g.limb3 &&& mask)
    limb4 := (h.limb4 &&& ~~~mask) ||| (g.limb4 &&& mask) }

/-- `pad[4]`, or the accumulator in words of 32 bits. -/
structure Words where
  word0 : UInt32
  word1 : UInt32
  word2 : UInt32
  word3 : UInt32
  deriving DecidableEq

/-- `h = h % (2^128)`. -/
def packLimbs (h : Limbs) : Words where
  word0 := h.limb0 ||| (h.limb1 <<< 26)
  word1 := (h.limb1 >>> 6) ||| (h.limb2 <<< 20)
  word2 := (h.limb2 >>> 12) ||| (h.limb3 <<< 14)
  word3 := (h.limb3 >>> 18) ||| (h.limb4 <<< 8)

/-- `mac = (h + pad) % (2^128)`. -/
def addPad (h pad : Words) : Bytes :=
  let f0 : UInt64 := h.word0.toUInt64 + pad.word0.toUInt64
  let f1 : UInt64 := h.word1.toUInt64 + pad.word1.toUInt64 + (f0 >>> 32)
  let f2 : UInt64 := h.word2.toUInt64 + pad.word2.toUInt64 + (f1 >>> 32)
  let f3 : UInt64 := h.word3.toUInt64 + pad.word3.toUInt64 + (f2 >>> 32)
  u32To8Little f0.toUInt32 ++ u32To8Little f1.toUInt32 ++ u32To8Little f2.toUInt32 ++
    u32To8Little f3.toUInt32

def tagOf (h : Limbs) (pad : Words) : Bytes :=
  let carried := fullyCarry h
  addPad (packLimbs (selectLimbs carried (plusMinusPrime carried))) pad

/-- The number that words stand for. -/
def Words.value (words : Words) : Nat :=
  words.word0.toNat + 2 ^ 32 * words.word1.toNat + 2 ^ 64 * words.word2.toNat +
    2 ^ 96 * words.word3.toNat

/-- Every limb keeps to its 26 bits. -/
structure IsPlainLimbs (h : Limbs) : Prop where
  limb0 : h.limb0.toNat < 2 ^ 26
  limb1 : h.limb1.toNat < 2 ^ 26
  limb2 : h.limb2.toNat < 2 ^ 26
  limb3 : h.limb3.toNat < 2 ^ 26
  limb4 : h.limb4.toNat < 2 ^ 26

theorem toNat_carry (word : UInt32) : (word >>> 26).toNat = word.toNat / 2 ^ 26 := by
  rw [UInt32.toNat_shiftRight, Nat.shiftRight_eq_div_pow]
  rfl

theorem fullyCarry_spec {h : Limbs} (carried : h.IsCarried) :
    IsPlainLimbs (fullyCarry h) ∧ (fullyCarry h).value % prime = h.value % prime := by
  obtain ⟨limb0, limb1, limb2, limb3, limb4⟩ := carried
  unfold fullyCarry
  extract_lets h2 h3 h4 h0
  have value2 : h2.toNat = h.limb2.toNat + h.limb1.toNat / 2 ^ 26 := by
    rw [UInt32.toNat_add, toNat_carry]
    omega
  have value3 : h3.toNat = h.limb3.toNat + h2.toNat / 2 ^ 26 := by
    rw [UInt32.toNat_add, toNat_carry]
    omega
  have value4 : h4.toNat = h.limb4.toNat + h3.toNat / 2 ^ 26 := by
    rw [UInt32.toNat_add, toNat_carry]
    omega
  have value0 : h0.toNat = h.limb0.toNat + 5 * (h4.toNat / 2 ^ 26) := by
    rw [UInt32.toNat_add, UInt32.toNat_mul, toNat_carry]
    change (_ + _ * 5 % 2 ^ 32) % 2 ^ 32 = _
    omega
  have value1 : ((h.limb1 &&& (0x3ffffff : UInt32)) + (h0 >>> 26)).toNat =
      h.limb1.toNat % 2 ^ 26 + h0.toNat / 2 ^ 26 := by
    rw [UInt32.toNat_add, toNat_carry, toNat_and_low]
    omega
  have low0 := toNat_and_low h0
  have low2 := toNat_and_low h2
  have low3 := toNat_and_low h3
  have low4 := toNat_and_low h4
  constructor
  · constructor
    · rw [low0]
      omega
    · rw [value1]
      omega
    · rw [low2]
      omega
    · rw [low3]
      omega
    · rw [low4]
      omega
  · simp only [Limbs.value, low0, value1, low2, low3, low4]
    unfold prime
    omega

/-- With a mask of ones the second word is selected. -/
theorem select_second (h g : UInt32) : (h &&& ~~~(0 - 1)) ||| (g &&& (0 - 1)) = g := by
  simp

/-- With a mask of zeros the first word is selected. -/
theorem select_first (h g : UInt32) : (h &&& ~~~(1 - 1)) ||| (g &&& (1 - 1)) = h := by
  simp

/-- The number is reduced modulo 2^130 - 5. -/
theorem selectLimbs_spec {h : Limbs} (plain : IsPlainLimbs h) :
    IsPlainLimbs (selectLimbs h (plusMinusPrime h)) ∧
      (selectLimbs h (plusMinusPrime h)).value = h.value % prime := by
  obtain ⟨limb0, limb1, limb2, limb3, limb4⟩ := plain
  unfold plusMinusPrime
  extract_lets g0 g1 g2 g3
  have value0 : g0.toNat = h.limb0.toNat + 5 := by
    rw [UInt32.toNat_add]
    change (_ + 5) % 2 ^ 32 = _
    omega
  have value1 : g1.toNat = h.limb1.toNat + g0.toNat / 2 ^ 26 := by
    rw [UInt32.toNat_add, toNat_carry]
    omega
  have value2 : g2.toNat = h.limb2.toNat + g1.toNat / 2 ^ 26 := by
    rw [UInt32.toNat_add, toNat_carry]
    omega
  have value3 : g3.toNat = h.limb3.toNat + g2.toNat / 2 ^ 26 := by
    rw [UInt32.toNat_add, toNat_carry]
    omega
  have sum4 : (h.limb4 + (g3 >>> 26)).toNat = h.limb4.toNat + g3.toNat / 2 ^ 26 := by
    rw [UInt32.toNat_add, toNat_carry]
    omega
  have value4 : (h.limb4 + (g3 >>> 26) - ((1 : UInt32) <<< 26)).toNat =
      (2 ^ 32 - 2 ^ 26 + (h.limb4.toNat + g3.toNat / 2 ^ 26)) % 2 ^ 32 := by
    rw [UInt32.toNat_sub, sum4]
    rfl
  have sign : ((h.limb4 + (g3 >>> 26) - ((1 : UInt32) <<< 26)) >>> 31).toNat =
      (2 ^ 32 - 2 ^ 26 + (h.limb4.toNat + g3.toNat / 2 ^ 26)) % 2 ^ 32 / 2 ^ 31 := by
    rw [UInt32.toNat_shiftRight, Nat.shiftRight_eq_div_pow, value4]
    rfl
  have low0 := toNat_and_low g0
  have low1 := toNat_and_low g1
  have low2 := toNat_and_low g2
  have low3 := toNat_and_low g3
  unfold selectLimbs
  by_cases reaches : 2 ^ 26 ≤ h.limb4.toNat + g3.toNat / 2 ^ 26
  · -- the number is at least 2^130 - 5
    have zero : (h.limb4 + (g3 >>> 26) - ((1 : UInt32) <<< 26)) >>> 31 = 0 :=
      UInt32.toNat_inj.mp (by rw [sign, UInt32.toNat_zero]; omega)
    have top : (h.limb4 + (g3 >>> 26) - ((1 : UInt32) <<< 26)).toNat =
        h.limb4.toNat + g3.toNat / 2 ^ 26 - 2 ^ 26 := by
      rw [value4]
      omega
    simp only [zero, select_second]
    constructor
    · constructor
      · rw [low0]
        omega
      · rw [low1]
        omega
      · rw [low2]
        omega
      · rw [low3]
        omega
      · rw [top]
        omega
    · have less : h.value - prime < prime := by
        unfold Limbs.value prime
        omega
      have atLeast : prime ≤ h.value := by
        unfold Limbs.value prime
        omega
      rw [Nat.mod_eq_sub_mod atLeast, Nat.mod_eq_of_lt less]
      simp only [Limbs.value, low0, low1, low2, low3, top]
      unfold prime
      omega
  · have one : (h.limb4 + (g3 >>> 26) - ((1 : UInt32) <<< 26)) >>> 31 = 1 :=
      UInt32.toNat_inj.mp (by rw [sign, UInt32.toNat_one]; omega)
    simp only [one, select_first]
    refine ⟨⟨limb0, limb1, limb2, limb3, limb4⟩, ?_⟩
    simp only [Limbs.value]
    unfold prime
    omega

/-- Or-ing a shifted word above the bits of another one, with the bits that
do not fit cut off. -/
theorem toNat_or_shiftLeft_cut {low : UInt32} (high shift : UInt32) (inside : shift.toNat < 32)
    (below : low.toNat < 2 ^ shift.toNat) :
    (low ||| (high <<< shift)).toNat =
      low.toNat + high.toNat % 2 ^ (32 - shift.toNat) * 2 ^ shift.toNat := by
  have cut : high.toNat * 2 ^ shift.toNat % 2 ^ 32 =
      high.toNat % 2 ^ (32 - shift.toNat) * 2 ^ shift.toNat := by
    rw [← Nat.mul_mod_mul_right, ← Nat.pow_add, Nat.sub_add_cancel (Nat.le_of_lt inside)]
  rw [UInt32.toNat_or, UInt32.toNat_shiftLeft, Nat.mod_eq_of_lt inside, Nat.shiftLeft_eq, cut,
    lor_mul_two_pow below]

theorem value_packLimbs {h : Limbs} (plain : IsPlainLimbs h) :
    (packLimbs h).value = h.value % 2 ^ 128 := by
  obtain ⟨limb0, limb1, limb2, limb3, limb4⟩ := plain
  have shifted (word count : UInt32) (inside : count.toNat < 32) :
      (word >>> count).toNat = word.toNat / 2 ^ count.toNat := by
    rw [UInt32.toNat_shiftRight, Nat.mod_eq_of_lt inside, Nat.shiftRight_eq_div_pow]
  have second := shifted h.limb1 6 (by decide)
  have third := shifted h.limb2 12 (by decide)
  have fourth := shifted h.limb3 18 (by decide)
  change _ = h.limb1.toNat / 2 ^ 6 at second
  change _ = h.limb2.toNat / 2 ^ 12 at third
  change _ = h.limb3.toNat / 2 ^ 18 at fourth
  have word0 := toNat_or_shiftLeft_cut h.limb1 26 (by decide) limb0
  have word1 := toNat_or_shiftLeft_cut h.limb2 20 (by decide)
    (show (h.limb1 >>> 6).toNat < 2 ^ 20 by omega)
  have word2 := toNat_or_shiftLeft_cut h.limb3 14 (by decide)
    (show (h.limb2 >>> 12).toNat < 2 ^ 14 by omega)
  have word3 := toNat_or_shiftLeft_cut h.limb4 8 (by decide)
    (show (h.limb3 >>> 18).toNat < 2 ^ 8 by omega)
  change _ = h.limb0.toNat + h.limb1.toNat % 2 ^ 6 * 2 ^ 26 at word0
  change _ = (h.limb1 >>> 6).toNat + h.limb2.toNat % 2 ^ 12 * 2 ^ 20 at word1
  change _ = (h.limb2 >>> 12).toNat + h.limb3.toNat % 2 ^ 18 * 2 ^ 14 at word2
  change _ = (h.limb3 >>> 18).toNat + h.limb4.toNat % 2 ^ 24 * 2 ^ 8 at word3
  simp only [Words.value, packLimbs, word0, word1, word2, word3, second, third, fourth,
    Limbs.value]
  omega

theorem littleEndian_addPad (h pad : Words) :
    (addPad h pad).length = 16 ∧ littleEndian (addPad h pad) = (h.value + pad.value) % 2 ^ 128 := by
  refine ⟨rfl, ?_⟩
  unfold addPad
  extract_lets f0 f1 f2 f3
  have carry (word : UInt64) : (word >>> 32).toNat = word.toNat / 2 ^ 32 := by
    rw [UInt64.toNat_shiftRight, Nat.shiftRight_eq_div_pow]
    rfl
  have h0 := h.word0.toNat_lt
  have h1 := h.word1.toNat_lt
  have h2 := h.word2.toNat_lt
  have h3 := h.word3.toNat_lt
  have pad0 := pad.word0.toNat_lt
  have pad1 := pad.word1.toNat_lt
  have pad2 := pad.word2.toNat_lt
  have pad3 := pad.word3.toNat_lt
  have value0 : f0.toNat = h.word0.toNat + pad.word0.toNat := by
    simp only [f0, UInt64.toNat_add, UInt32.toNat_toUInt64]
    omega
  have value1 : f1.toNat = h.word1.toNat + pad.word1.toNat + f0.toNat / 2 ^ 32 := by
    simp only [f1, UInt64.toNat_add, UInt32.toNat_toUInt64, carry]
    omega
  have value2 : f2.toNat = h.word2.toNat + pad.word2.toNat + f1.toNat / 2 ^ 32 := by
    simp only [f2, UInt64.toNat_add, UInt32.toNat_toUInt64, carry]
    omega
  have value3 : f3.toNat = h.word3.toNat + pad.word3.toNat + f2.toNat / 2 ^ 32 := by
    simp only [f3, UInt64.toNat_add, UInt32.toNat_toUInt64, carry]
    omega
  have size (v : UInt32) : (u32To8Little v).length = 4 := rfl
  simp only [littleEndian_append, List.length_append, size, littleEndian_u32To8Little,
    UInt64.toNat_toUInt32, Words.value]
  omega

/-- The tag is the reduced number plus the pad, in 128 bits. -/
theorem littleEndian_tagOf {h : Limbs} (carried : h.IsCarried) (pad : Words) :
    (tagOf h pad).length = 16 ∧
      littleEndian (tagOf h pad) = (h.value % prime + pad.value) % 2 ^ 128 := by
  obtain ⟨plain, same⟩ := fullyCarry_spec carried
  obtain ⟨selected, reduced⟩ := selectLimbs_spec plain
  obtain ⟨length, sum⟩ := littleEndian_addPad
    (packLimbs (selectLimbs (fullyCarry h) (plusMinusPrime (fullyCarry h)))) pad
  refine ⟨length, ?_⟩
  rw [tagOf, sum, value_packLimbs selected, reduced, same, Nat.mod_add_mod]

end Poly1305

end EchoMic
