import EchoMic.MontgomeryLadders
import EchoMic.PrimeCertificates
import EchoMic.X25519
import Mathlib.FieldTheory.Finite.Basic

/-!
# The curve of X25519

The numbers modulo 2^255 - 19 are a field, and the ladder of the source
multiplies points of `y² = x³ + 486662 x² + x` over it.  So both ends of a key
agreement compute the same secret.
-/

namespace EchoMic

namespace X25519

open PrimeCertificates MontgomeryLadders

/-! ## The field -/

def smallPrimes : List Nat :=
  [2, 3, 5, 7, 13, 19, 31, 47, 107, 127, 223, 353, 2437, 4153, 57467, 65147, 75707, 132049, 430751,
    569003, 1923133, 8574133]

theorem smallPrimes_prime : ∀ number ∈ smallPrimes, number.Prime := by
  simp only [smallPrimes, List.forall_mem_cons, List.not_mem_nil, false_imp_iff, implies_true,
    and_true]
  norm_num

/-- The primes that `prime - 1` leads to. -/
def primeChain : List ((number : Nat) × Certificate number) :=
  [⟨31757755568855353, 55, 10, [2, 2, 2, 3, 31, 107, 223, 4153, 430751]⟩,
    ⟨2773320623, 32, 5, [2, 2437, 569003]⟩,
    ⟨72106336199, 37, 7, [2, 13, 2773320623]⟩,
    ⟨1919519569386763, 51, 2, [2, 3, 7, 19, 47, 47, 127, 8574133]⟩,
    ⟨75445702479781427272750846543864801, 116, 7,
      [2, 2, 2, 2, 2, 3, 3, 5, 5, 75707, 72106336199, 1919519569386763]⟩,
    ⟨74058212732561358302231226437062788676166966415465897661863160754340907, 236, 2,
      [2, 3, 353, 57467, 132049, 1923133, 31757755568855353,
        75445702479781427272750846543864801]⟩,
    ⟨prime, 255, 2,
      [2, 2, 3, 65147,
        74058212732561358302231226437062788676166966415465897661863160754340907]⟩]

theorem prime_is_prime : Nat.Prime prime := by
  have checked : checkChain smallPrimes primeChain = true := by decide +kernel
  exact prime_of_checkChain smallPrimes_prime checked primeChain[6]
    (List.getElem_mem (show 6 < primeChain.length by decide))

instance factPrime : Fact (Nat.Prime prime) :=
  ⟨prime_is_prime⟩

/-! ## The ladder -/

/-- The state of a ladder, over the field. -/
def Ladder.rungs (s : Ladder) : Rungs (ZMod prime) where
  x := s.x2
  z := s.z2
  x' := s.x3
  z' := s.z3

structure Ladder.IsSmall (s : Ladder) : Prop where
  x2 : s.x2 < prime
  z2 : s.z2 < prime
  x3 : s.x3 < prime
  z3 : s.z3 < prime

@[simp]
theorem cast_plus (m n : Nat) : ((plus m n : Nat) : ZMod prime) = m + n := by
  rw [plus, ZMod.natCast_mod, Nat.cast_add]

@[simp]
theorem cast_times (m n : Nat) : ((times m n : Nat) : ZMod prime) = m * n := by
  rw [times, ZMod.natCast_mod, Nat.cast_mul]

theorem cast_minus (m : Nat) {n : Nat} (small : n < prime) :
    ((minus m n : Nat) : ZMod prime) = m - n := by
  rw [minus, ZMod.natCast_mod, Nat.cast_add, Nat.cast_sub (Nat.le_of_lt small),
    ZMod.natCast_self, zero_sub, sub_eq_add_neg]

theorem Ladder.IsSmall.step {s : Ladder} (u : Nat) : (s.step u).IsSmall where
  x2 := times_lt _ _
  z2 := times_lt _ _
  x3 := times_lt _ _
  z3 := times_lt _ _

theorem Ladder.IsSmall.swap {s : Ladder} (small : s.IsSmall) : s.swap.IsSmall where
  x2 := small.x3
  z2 := small.z3
  x3 := small.x2
  z3 := small.z2

theorem Ladder.IsSmall.rungs_step {s : Ladder} (small : s.IsSmall) (u : Nat) :
    (s.step u).rungs = s.rungs.step (486662 : ZMod prime) u := by
  have product (m n : Nat) : times m n < prime := times_lt m n
  apply Rungs.ext
  · simp only [Ladder.rungs, Ladder.step, Rungs.step, doubled, cast_times, cast_plus,
      cast_minus _ small.z2]
    ring
  · simp only [Ladder.rungs, Ladder.step, Rungs.step, doubled, cast_times, cast_plus,
      cast_minus _ small.z2, cast_minus _ (product _ _)]
    push_cast
    ring
  · simp only [Ladder.rungs, Ladder.step, Rungs.step, summed, cast_times, cast_plus,
      cast_minus _ small.z2, cast_minus _ small.z3]
    ring
  · simp only [Ladder.rungs, Ladder.step, Rungs.step, summed, cast_times, cast_plus,
      cast_minus _ small.z2, cast_minus _ small.z3, cast_minus _ (product _ _)]
    ring

theorem Ladder.IsSmall.turn {s : Ladder} (small : s.IsSmall) (u : Nat) (bit : Bool) :
    (s.turn u bit).IsSmall ∧
      (s.turn u bit).rungs = s.rungs.turn (486662 : ZMod prime) u bit := by
  cases bit with
  | false => exact ⟨Ladder.IsSmall.step u, small.rungs_step u⟩
  | true =>
      refine ⟨(Ladder.IsSmall.step u).swap, ?_⟩
      exact congrArg Rungs.swap (small.swap.rungs_step u)

theorem rungs_ladder {u : Nat} (small : u < prime) (bits : List Bool) :
    (ladder u bits).rungs = MontgomeryLadders.ladder 486662 (u : ZMod prime) bits := by
  have run (s : Ladder) (start : s.IsSmall) :
      (bits.foldl (Ladder.turn u) s).rungs =
        bits.foldl (Rungs.turn 486662 (u : ZMod prime)) s.rungs := by
    induction bits generalizing s with
    | nil => rfl
    | cons bit bits ih =>
        obtain ⟨next, turned⟩ := start.turn u bit
        rw [List.foldl_cons, List.foldl_cons, ih _ next, turned]
  have start : Ladder.IsSmall ⟨1, 0, u, 1⟩ :=
    ⟨prime_is_prime.one_lt, prime_is_prime.pos, small, prime_is_prime.one_lt⟩
  rw [ladder, run _ start, MontgomeryLadders.ladder]
  simp [Ladder.rungs]

/-- The power of the source is the inverse, which is zero for zero. -/
theorem pow_eq_inv (z : ZMod prime) : z ^ (prime - 2) = z⁻¹ := by
  have size : 2 < prime := by norm_num [prime]
  by_cases zero : z = 0
  · rw [zero, inv_zero]
    exact zero_pow (by omega)
  · apply eq_inv_of_mul_eq_one_left
    rw [← pow_succ, show prime - 2 + 1 = prime - 1 by omega]
    exact ZMod.pow_card_sub_one_eq_one zero

/-! ## Points -/

theorem cast_ne_zero {n : Nat} (positive : 0 < n) (small : n < prime) : (n : ZMod prime) ≠ 0 := by
  rw [ne_eq, ZMod.natCast_eq_zero_iff]
  exact Nat.not_dvd_of_pos_of_lt positive small

theorem isMontgomery : IsMontgomery (486662 : ZMod prime) := by
  have large : 486664 < prime := by norm_num [prime]
  constructor
  · have two := cast_ne_zero (show 0 < 2 by decide) (show 2 < prime by omega)
    exact_mod_cast two
  · have distance := cast_ne_zero (show 0 < 486660 by decide) (show 486660 < prime by omega)
    rw [show (2 : ZMod prime) - 486662 = -((486660 : Nat) : ZMod prime) by push_cast; ring]
    exact neg_ne_zero.mpr distance
  · have total := cast_ne_zero (show 0 < 486664 by decide) large
    rw [show (2 : ZMod prime) + 486662 = ((486664 : Nat) : ZMod prime) by push_cast; ring]
    exact total

/-- Points of the curve over the integers modulo 2^255 - 19. -/
abbrev Curve25519 :=
  (curve (486662 : ZMod prime)).Point

theorem cast_agreement (k : Nat) {u : Nat} {P : Curve25519} (on : (u : ZMod prime) = abscissa P) :
    (agreement k u : ZMod prime) = abscissa ((k % 2 ^ 256) • P) := by
  have small : u % prime < prime := Nat.mod_lt _ prime_is_prime.pos
  have residue : ((u % prime : Nat) : ZMod prime) = abscissa P := by rw [ZMod.natCast_mod, on]
  rw [agreement, ZMod.natCast_mod, Nat.cast_mul, Nat.cast_pow, pow_eq_inv, ← binary_testBits,
    ← ladder_eq_nsmul isMontgomery, ← residue, ← rungs_ladder small, div_eq_mul_inv]
  rfl

/-- The height of the base point. -/
def baseY : Nat :=
  14781619447589544791020593568409986887264606134616475288964881837755586237401

theorem base_on_curve : (baseY : ZMod prime) ^ 2 =
    (9 : ZMod prime) ^ 3 + 486662 * (9 : ZMod prime) ^ 2 + 9 := by
  have numbers : ((baseY * baseY : Nat) : ZMod prime) = ((39420360 : Nat) : ZMod prime) :=
    (ZMod.natCast_eq_natCast_iff' _ _ _).mpr (by decide +kernel)
  rw [Nat.cast_mul, ← sq] at numbers
  rw [numbers]
  norm_num

def base : Curve25519 :=
  .some 9 baseY (isMontgomery.nonsingular base_on_curve)

theorem agreement_lt (k u : Nat) : agreement k u < prime :=
  Nat.mod_lt _ prime_is_prime.pos

/-- The inverse by squaring, so that an agreement can be evaluated. -/
theorem agreement_eq_powMod (k u : Nat) :
    agreement k u =
      (ladder (u % prime) ((List.range 256).reverse.map k.testBit)).x2 *
        powMod prime (ladder (u % prime) ((List.range 256).reverse.map k.testBit)).z2 255
          (prime - 2) % prime := by
  rw [powMod_eq _ _ (show prime - 2 < 2 ^ 255 by decide), Nat.mul_mod_mod]
  rfl

/-- Two private numbers agree from every point. -/
theorem agreement_comm (k l : Nat) {u : Nat} {P : Curve25519}
    (on : (u : ZMod prime) = abscissa P) :
    agreement k (agreement l u) = agreement l (agreement k u) := by
  have both (m n : Nat) : (agreement m (agreement n u) : ZMod prime) =
      abscissa (((m % 2 ^ 256) * (n % 2 ^ 256)) • P) := by
    rw [cast_agreement m (cast_agreement n on), mul_nsmul']
  have residues := (ZMod.natCast_eq_natCast_iff' _ _ prime).mp
    ((both k l).trans (Nat.mul_comm _ _ ▸ (both l k).symm))
  rwa [Nat.mod_eq_of_lt (agreement_lt _ _), Nat.mod_eq_of_lt (agreement_lt _ _)] at residues

theorem privateNumber_lt (scalar : Bytes) (clamp : Bool) :
    privateNumber scalar clamp < 2 ^ 256 := by
  have bounded := littleEndian_lt ((List.range 32).map (clampedByte scalar clamp))
  rwa [List.length_map, List.length_range] at bounded

end X25519

open X25519 MontgomeryLadders

/-- The function of the source multiplies a point of the curve by the number
that the private key stands for. -/
theorem x25519_multiplies (scalar : Bytes) {x1 : Bytes} (length : x1.length = 32)
    {P : Curve25519} (on : (littleEndian x1 : ZMod X25519.prime) = abscissa P) :
    (littleEndian (x25519 scalar x1 true).1 : ZMod X25519.prime) =
      abscissa (privateNumber scalar true • P) := by
  have number := Nat.mod_eq_of_lt (privateNumber_lt scalar true)
  rw [littleEndian_x25519 scalar length, cast_agreement _ on, number]

theorem x25519_multiplies_base :
    (littleEndian (x25519 (List.replicate 32 119) (9 :: List.replicate 31 0) true).1 :
        ZMod X25519.prime) =
      abscissa (privateNumber (List.replicate 32 119) true • base) := by
  apply x25519_multiplies (List.replicate 32 119)
    (show (9 :: List.replicate 31 0).length = 32 from rfl)
  have number : littleEndian (9 :: List.replicate 31 0) = 9 := by decide
  rw [number]
  exact Nat.cast_ofNat

theorem x25519_comm (scalar other : Bytes) {x1 : Bytes} (length : x1.length = 32)
    {P : Curve25519} (on : (littleEndian x1 : ZMod X25519.prime) = abscissa P) :
    (x25519 scalar (x25519 other x1 true).1 true).1 =
      (x25519 other (x25519 scalar x1 true).1 true).1 := by
  have lengthScalar := length_x25519 scalar length
  have lengthOther := length_x25519 other length
  apply littleEndian_inj
  · rw [length_x25519 scalar lengthOther, length_x25519 other lengthScalar]
  · rw [littleEndian_x25519 scalar lengthOther, littleEndian_x25519 other lengthScalar,
      littleEndian_x25519 other length, littleEndian_x25519 scalar length]
    exact agreement_comm _ _ on

end EchoMic
