import Mathlib.Algebra.Ring.Nat
import Mathlib.Data.List.Basic

/-!
# Patterns for whole texts

The part of regular expressions that validates form fields: runs of
characters from a set with a bounded length, one after the other, from the
first to the last character.  A run of decimal digits has a value.
-/

namespace EchoMic

namespace TextPatterns

/-- `run` is a set with a quantifier, such as `[0-9]{1,3}`. -/
inductive Pattern
  | run (allowed : Char → Bool) (low : Nat) (high : Option Nat)
  | seq (first second : Pattern)

namespace Pattern

def matchesText : Pattern → List Char → Bool
  | .run allowed low high, text =>
      low ≤ text.length && high.all (text.length ≤ ·) && text.all allowed
  | .seq first second, text =>
      (List.range (text.length + 1)).any fun count =>
        first.matchesText (text.take count) && second.matchesText (text.drop count)

def literal (char : Char) : Pattern :=
  .run (· = char) 1 (some 1)

/-- One or more repetitions of a group, `more` after the first. -/
def repeated (group : Pattern) : Nat → Pattern
  | 0 => group
  | more + 1 => .seq group (group.repeated more)

variable {allowed : Char → Bool} {low : Nat} {text : List Char}

theorem matchesText_run_iff {high : Nat} :
    (run allowed low (some high)).matchesText text = true ↔
      low ≤ text.length ∧ text.length ≤ high ∧ ∀ char ∈ text, allowed char = true := by
  simp [matchesText, and_assoc]

theorem matchesText_unbounded_iff :
    (run allowed low none).matchesText text = true ↔
      low ≤ text.length ∧ ∀ char ∈ text, allowed char = true := by
  simp [matchesText]

theorem matchesText_literal_iff {char : Char} :
    (literal char).matchesText text = true ↔ text = [char] := by
  rw [literal, matchesText_run_iff]
  constructor
  · rintro ⟨atLeast, atMost, same⟩
    obtain ⟨only, rfl⟩ := List.length_eq_one_iff.mp (Nat.le_antisymm atMost atLeast)
    simpa using same
  · rintro rfl
    simp

theorem matchesText_seq_iff {first second : Pattern} :
    (seq first second).matchesText text = true ↔
      ∃ before after, text = before ++ after ∧
        first.matchesText before = true ∧ second.matchesText after = true := by
  simp only [matchesText, List.any_eq_true, List.mem_range, Bool.and_eq_true]
  constructor
  · rintro ⟨count, -, firstMatches, secondMatches⟩
    exact ⟨_, _, (List.take_append_drop count text).symm, firstMatches, secondMatches⟩
  · rintro ⟨before, after, rfl, firstMatches, secondMatches⟩
    refine ⟨before.length, ?_, ?_, ?_⟩
    · rw [List.length_append]
      omega
    · simpa using firstMatches
    · simpa using secondMatches

end Pattern

/-! ## Decimal digits -/

/-- The value of decimal digits. -/
def decimal (digits : List Char) : Nat :=
  Nat.ofDigitChars 10 digits 0

/-- Between `low` and `high` decimal digits. -/
structure IsDecimal (low high : Nat) (digits : List Char) : Prop where
  low_le : low ≤ digits.length
  le_high : digits.length ≤ high
  digit : ∀ char ∈ digits, char.isDigit = true

theorem matchesText_digits_iff {low high : Nat} {text : List Char} :
    (Pattern.run Char.isDigit low (some high)).matchesText text = true ↔
      IsDecimal low high text := by
  rw [Pattern.matchesText_run_iff]
  constructor
  · rintro ⟨atLeast, atMost, digits⟩
    exact ⟨atLeast, atMost, digits⟩
  · rintro ⟨atLeast, atMost, digits⟩
    exact ⟨atLeast, atMost, digits⟩

theorem isDigit_iff {char : Char} :
    char.isDigit = true ↔ 48 ≤ char.toNat ∧ char.toNat ≤ 57 := by
  simp only [Char.isDigit, Bool.and_eq_true, decide_eq_true_eq, UInt32.le_iff_toNat_le]
  exact Iff.rfl

theorem ne_of_isDigit {char other : Char} (digit : char.isDigit = true)
    (notDigit : other.isDigit = false) : char ≠ other := by
  rintro rfl
  rw [digit] at notDigit
  cases notDigit

theorem IsDecimal.notMem {low high : Nat} {digits : List Char} (isDecimal : IsDecimal low high digits)
    {char : Char} (notDigit : char.isDigit = false) : char ∉ digits := by
  intro member
  exact ne_of_isDigit (isDecimal.digit char member) notDigit rfl

theorem decimal_lt (digits : List Char) (digit : ∀ char ∈ digits, char.isDigit = true) :
    decimal digits < 10 ^ digits.length := by
  induction digits with
  | nil => simp [decimal]
  | cons char digits ih =>
      have tail := ih fun other member => digit other (List.mem_cons_of_mem _ member)
      have bounds := isDigit_iff.mp (digit char List.mem_cons_self)
      have split : decimal (char :: digits) =
          10 ^ digits.length * (char.toNat - 48) + decimal digits := by
        rw [decimal, Nat.ofDigitChars_cons, Nat.ofDigitChars_eq_ofDigitChars_zero]
        simp [decimal]
      have leading : 10 ^ digits.length * (char.toNat - 48) ≤ 10 ^ digits.length * 9 :=
        Nat.mul_le_mul_left _ (by omega)
      rw [split, List.length_cons, Nat.pow_succ]
      omega

theorem IsDecimal.decimal_lt {low high : Nat} {digits : List Char}
    (isDecimal : IsDecimal low high digits) : decimal digits < 10 ^ high :=
  Nat.lt_of_lt_of_le (TextPatterns.decimal_lt digits isDecimal.digit)
    (Nat.pow_le_pow_right (by decide) isDecimal.le_high)

theorem decimal_toDigits (value : Nat) : decimal (Nat.toDigits 10 value) = value :=
  Nat.ofDigitChars_ten_toDigits

end TextPatterns

end EchoMic
