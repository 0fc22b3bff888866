import EchoMic.DeviceSettings
import EchoMic.TextPatterns
import Mathlib.Algebra.Ring.Int.Defs
import Mathlib.Algebra.Ring.Nat
import Mathlib.Data.List.TakeWhile

/-!
# Decimal texts on the device

What `String::toInt` makes of the digits that a web page writes.
-/

namespace EchoMic

open ByteSearch TextPatterns

/-- The byte of an ASCII character. -/
def asciiByte (char : Char) : UInt8 :=
  UInt8.ofNat char.toNat

theorem toNat_asciiByte {char : Char} (digit : char.isDigit = true) :
    (asciiByte char).toNat = char.toNat := by
  have bounds := isDigit_iff.mp digit
  rw [asciiByte, UInt8.toNat_ofNat']
  omega

theorem isDigit_asciiByte {char : Char} (digit : char.isDigit = true) :
    isDigit (asciiByte char) = true := by
  have bounds := isDigit_iff.mp digit
  have value := toNat_asciiByte digit
  simp only [isDigit, Bool.decide_and, Bool.and_eq_true, decide_eq_true_eq,
    UInt8.le_iff_toNat_le, value, UInt8.reduceToNat]
  exact bounds

theorem flatMap_utf8EncodeChar {digits : List Char}
    (digit : ∀ char ∈ digits, char.isDigit = true) :
    digits.flatMap String.utf8EncodeChar = digits.map asciiByte := by
  induction digits with
  | nil => rfl
  | cons char digits ih =>
      have tail := ih fun other member => digit other (List.mem_cons_of_mem _ member)
      have bounds := isDigit_iff.mp (digit char List.mem_cons_self)
      have single : String.utf8EncodeChar char = [asciiByte char] := by
        have oneByte : char.val.toNat ≤ 127 := Nat.le_trans bounds.2 (by decide)
        exact if_pos oneByte
      rw [List.flatMap_cons, tail, single]
      rfl

theorem digitsValue_eq {digits : List Char} (digit : ∀ char ∈ digits, char.isDigit = true) :
    digitsValue (digits.map asciiByte) = decimal digits := by
  have fold (start : Nat) :
      (digits.map asciiByte).foldl (fun value digit => 10 * value + (digit.toNat - 48)) start =
        Nat.ofDigitChars 10 digits start := by
    induction digits generalizing start with
    | nil => rfl
    | cons char digits ih =>
        have value := toNat_asciiByte (digit char List.mem_cons_self)
        rw [List.map_cons, List.foldl_cons, value, Nat.ofDigitChars_cons]
        exact ih (fun other member => digit other (List.mem_cons_of_mem _ member)) _
  exact fold 0

theorem takeWhile_asciiByte {digits : List Char}
    (digit : ∀ char ∈ digits, char.isDigit = true) :
    (digits.map asciiByte).takeWhile isDigit = digits.map asciiByte := by
  rw [List.takeWhile_eq_self_iff]
  intro byte member
  obtain ⟨char, inDigits, rfl⟩ := List.mem_map.mp member
  exact isDigit_asciiByte (digit char inDigits)

/-- A digit is neither a space nor a sign. -/
theorem le_asciiByte {digits : List Char} (digit : ∀ char ∈ digits, char.isDigit = true)
    {byte : UInt8} {rest : List UInt8} (bytes : digits.map asciiByte = byte :: rest) :
    48 ≤ byte.toNat := by
  have member : byte ∈ digits.map asciiByte := by
    rw [bytes]
    exact List.mem_cons_self
  obtain ⟨char, inDigits, rfl⟩ := List.mem_map.mp member
  rw [toNat_asciiByte (digit char inDigits)]
  exact (isDigit_iff.mp (digit char inDigits)).1

theorem atoi_digits {digits : List Char} (digit : ∀ char ∈ digits, char.isDigit = true) :
    atoi (digits.map asciiByte) = min intMax (decimal digits) := by
  have noSpace : (digits.map asciiByte).dropWhile isSpace = digits.map asciiByte := by
    cases bytes : digits.map asciiByte with
    | nil => rfl
    | cons byte rest =>
        have low := le_asciiByte digit bytes
        apply List.dropWhile_cons_of_neg
        simp only [isSpace, Bool.decide_or, Bool.decide_and, Bool.or_eq_true, Bool.and_eq_true,
          decide_eq_true_eq, UInt8.le_iff_toNat_le, UInt8.reduceToNat, not_or, not_and]
        refine ⟨?_, fun _ => by omega⟩
        rintro rfl
        exact absurd low (by decide)
  rw [atoi, noSpace]
  split
  · rename_i rest bytes
    exact absurd (le_asciiByte digit bytes) (by decide)
  · rename_i rest bytes
    exact absurd (le_asciiByte digit bytes) (by decide)
  · rw [takeWhile_asciiByte digit, digitsValue_eq digit]

theorem atoi_minus {digits : List Char} (digit : ∀ char ∈ digits, char.isDigit = true) :
    atoi (45 :: digits.map asciiByte) = max intMin (-(decimal digits : Int)) := by
  have noSpace : (45 :: digits.map asciiByte).dropWhile isSpace =
      45 :: digits.map asciiByte := rfl
  rw [atoi, noSpace]
  simp only [takeWhile_asciiByte digit, digitsValue_eq digit]

/-- `toInt` reads what the page wrote as digits. -/
theorem toInt_decimal {low high : Nat} {digits : List Char}
    (isDecimal : IsDecimal low high digits) (short : high ≤ 9) :
    toInt (String.ofList digits) = decimal digits := by
  have small : decimal digits < 10 ^ 9 :=
    Nat.lt_of_lt_of_le isDecimal.decimal_lt (Nat.pow_le_pow_right (by decide) short)
  rw [toInt, String.toList_ofList, flatMap_utf8EncodeChar isDecimal.digit,
    atoi_digits isDecimal.digit, intMax]
  omega

/-- `toInt` reads every number that fits in a 32-bit `long`. -/
theorem toInt_toString {v : Int} (low : -2 ^ 31 ≤ v) (high : v < 2 ^ 31) :
    toInt (toString v) = v := by
  have digit (value : Nat) : ∀ char ∈ Nat.toDigits 10 value, char.isDigit = true :=
    fun char member => Nat.isDigit_of_mem_toDigits (by decide) (by decide) member
  cases v with
  | ofNat value =>
      have text : toString (Int.ofNat value) = String.ofList (Nat.toDigits 10 value) := rfl
      rw [text, toInt, String.toList_ofList, flatMap_utf8EncodeChar (digit value),
        atoi_digits (digit value), decimal_toDigits, intMax]
      simp only [Int.ofNat_eq_natCast] at high ⊢
      omega
  | negSucc value =>
      have text : (toString (Int.negSucc value)).toList =
          '-' :: Nat.toDigits 10 (value + 1) := by
        have parts : toString (Int.negSucc value) =
            "-" ++ String.ofList (Nat.toDigits 10 (value + 1)) := rfl
        rw [parts, String.toList_append, String.toList_ofList, String.toList_ofList]
        rfl
      have bytes : ('-' :: Nat.toDigits 10 (value + 1)).flatMap String.utf8EncodeChar =
          45 :: (Nat.toDigits 10 (value + 1)).map asciiByte := by
        rw [List.flatMap_cons, flatMap_utf8EncodeChar (digit (value + 1))]
        rfl
      rw [toInt, text, bytes, atoi_minus (digit (value + 1)), decimal_toDigits, intMin]
      omega

end EchoMic
