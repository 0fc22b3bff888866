import Mathlib.Data.List.Prime
import Mathlib.NumberTheory.LucasPrimality
import Mathlib.Tactic.NormNum.Prime

/-!
# Certificates of primes

Lucas' test with powers that are computed by squaring, so that a certificate
of a number of some hundred bits is checked by evaluation.
-/

namespace EchoMic

namespace PrimeCertificates

/-- `base ^ exponent % modulus`, for an exponent of at most `bits` bits. -/
def powMod (modulus base : Nat) : Nat → Nat → Nat
  | 0, _ => 1 % modulus
  | bits + 1, exponent =>
      let half := powMod modulus base bits (exponent / 2)
      half * half % modulus * (if exponent % 2 = 1 then base else 1) % modulus

theorem powMod_eq (modulus base : Nat) {bits exponent : Nat} (fits : exponent < 2 ^ bits) :
    powMod modulus base bits exponent = base ^ exponent % modulus := by
  induction bits generalizing exponent with
  | zero =>
      obtain rfl : exponent = 0 := by omega
      rfl
  | succ bits ih =>
      rw [pow_succ] at fits
      have square : base ^ (exponent / 2) * base ^ (exponent / 2) = base ^ (2 * (exponent / 2)) := by
        rw [← pow_add, two_mul]
      have split := Nat.div_add_mod exponent 2
      rw [powMod, ih (show exponent / 2 < 2 ^ bits by omega), ← Nat.mul_mod, square]
      by_cases odd : exponent % 2 = 1
      · rw [if_pos odd, Nat.mod_mul_mod, ← pow_succ, ← odd, split]
      · rw [if_neg odd, Nat.mul_one, Nat.mod_mod, show 2 * (exponent / 2) = exponent by omega]

/-- The prime factors of `number - 1`, and a base whose order is `number - 1`. -/
structure Certificate (number : Nat) where
  bits : Nat
  base : Nat
  factors : List Nat

def Certificate.check {number : Nat} (certificate : Certificate number) : Bool :=
  decide (2 ≤ number) && decide (number ≤ 2 ^ certificate.bits) &&
    decide (certificate.factors.prod = number - 1) &&
    decide (powMod number certificate.base certificate.bits (number - 1) = 1) &&
    certificate.factors.all fun factor =>
      decide (powMod number certificate.base certificate.bits ((number - 1) / factor) ≠ 1)

theorem pow_eq_one_iff {number : Nat} (atLeastTwo : 2 ≤ number) (base exponent : Nat) :
    (base : ZMod number) ^ exponent = 1 ↔ base ^ exponent % number = 1 := by
  rw [← Nat.cast_pow, ← Nat.cast_one, ZMod.natCast_eq_natCast_iff',
    Nat.mod_eq_of_lt (show 1 < number by omega)]

theorem Certificate.prime {number : Nat} (certificate : Certificate number)
    (primes : ∀ factor ∈ certificate.factors, factor.Prime)
    (checked : certificate.check = true) : number.Prime := by
  simp only [Certificate.check, Bool.and_eq_true, decide_eq_true_eq, List.all_eq_true] at checked
  obtain ⟨⟨⟨⟨atLeastTwo, fits⟩, product⟩, whole⟩, parts⟩ := checked
  apply lucas_primality number (certificate.base : ZMod number)
  · rw [pow_eq_one_iff atLeastTwo, ← powMod_eq _ _ (show number - 1 < 2 ^ certificate.bits by omega)]
    exact whole
  · intro factor factorPrime divides
    rw [← product] at divides
    have member : factor ∈ certificate.factors :=
      mem_list_primes_of_dvd_prod factorPrime.prime (fun q inList => (primes q inList).prime) divides
    have small : (number - 1) / factor < 2 ^ certificate.bits :=
      Nat.lt_of_le_of_lt (Nat.div_le_self _ _) (by omega)
    rw [ne_eq, pow_eq_one_iff atLeastTwo, ← powMod_eq _ _ small]
    exact parts factor member

/-- A chain of certificates, where the factors of each number are known primes
or numbers that come before it. -/
def checkChain (known : List Nat) : List ((number : Nat) × Certificate number) → Bool
  | [] => true
  | ⟨number, certificate⟩ :: chain =>
      certificate.check && certificate.factors.all known.contains &&
        checkChain (number :: known) chain

theorem prime_of_checkChain {known : List Nat}
    {chain : List ((number : Nat) × Certificate number)} (primes : ∀ number ∈ known, number.Prime)
    (checked : checkChain known chain = true) : ∀ entry ∈ chain, entry.1.Prime := by
  induction chain generalizing known with
  | nil => exact fun _ impossible => nomatch impossible
  | cons entry chain ih =>
      obtain ⟨number, certificate⟩ := entry
      rw [checkChain, Bool.and_eq_true, Bool.and_eq_true, List.all_eq_true] at checked
      obtain ⟨⟨certified, factors⟩, rest⟩ := checked
      have numberPrime : number.Prime :=
        certificate.prime
          (fun factor member => primes factor (List.contains_iff_mem.mp (factors factor member)))
          certified
      rw [List.forall_mem_cons]
      exact ⟨numberPrime, ih (List.forall_mem_cons.mpr ⟨numberPrime, primes⟩) rest⟩

end PrimeCertificates

end EchoMic
