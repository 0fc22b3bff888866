import Mathlib.Data.List.Basic
import Mathlib.Data.List.Infix
import Mathlib.Data.List.TakeWhile
import Mathlib.Data.Nat.Find

/-!
# Searching a sequence for the first occurrence of a pattern

The position found by a left-to-right search, how it behaves when the
sequence is extended or cut, and the C string functions built on it.
-/

namespace EchoMic

namespace ByteSearch

variable {α : Type*} [DecidableEq α]

/-- The position of the first occurrence of `pattern`. -/
def firstOccurrence (pattern : List α) : List α → Option Nat
  | [] => if pattern = [] then some 0 else none
  | symbol :: symbols =>
      if pattern.isPrefixOf (symbol :: symbols) then some 0
      else (firstOccurrence pattern symbols).map (· + 1)

theorem firstOccurrence_eq_some_iff (pattern text : List α) (position : Nat) :
    firstOccurrence pattern text = some position ↔
      position ≤ text.length ∧ pattern <+: text.drop position ∧
        ∀ earlier < position, ¬ pattern <+: text.drop earlier := by
  induction text generalizing position with
  | nil =>
      simp only [firstOccurrence, List.length_nil, Nat.le_zero, List.drop_nil,
        List.prefix_nil]
      constructor
      · intro found
        split at found
        · cases found
          simpa using ‹pattern = []›
        · cases found
      · rintro ⟨rfl, rfl, -⟩
        rfl
  | cons symbol symbols ih =>
      simp only [firstOccurrence, List.isPrefixOf_iff_prefix]
      by_cases here : pattern <+: symbol :: symbols
      · rw [if_pos here]
        constructor
        · intro found
          cases found
          exact ⟨Nat.zero_le _, here, fun _ impossible => absurd impossible (by omega)⟩
        · rintro ⟨-, -, noEarlier⟩
          cases position with
          | zero => rfl
          | succ position => exact absurd here (noEarlier 0 (by omega))
      · rw [if_neg here]
        cases position with
        | zero =>
            simp only [Option.map_eq_some_iff, List.drop_zero]
            constructor
            · rintro ⟨_, _, impossible⟩
              omega
            · rintro ⟨-, found, -⟩
              exact absurd found here
        | succ position =>
            have shifted : (firstOccurrence pattern symbols).map (· + 1) =
                some (position + 1) ↔
                firstOccurrence pattern symbols = some position := by
              cases firstOccurrence pattern symbols <;> simp
            rw [shifted, ih]
            simp only [List.length_cons, List.drop_succ_cons,
              Nat.add_le_add_iff_right]
            refine and_congr_right fun _ => and_congr_right fun _ => ?_
            constructor
            · rintro noEarlier earlier before
              cases earlier with
              | zero => exact here
              | succ earlier => exact noEarlier earlier (by omega)
            · intro noEarlier earlier before
              exact noEarlier (earlier + 1) (by omega)

theorem firstOccurrence_isSome_iff (pattern text : List α) :
    (firstOccurrence pattern text).isSome = true ↔ pattern <:+: text := by
  induction text with
  | nil => by_cases empty : pattern = [] <;> simp [firstOccurrence, empty]
  | cons symbol symbols ih =>
      rw [List.infix_cons_iff, ← ih]
      by_cases here : pattern <+: symbol :: symbols
      · simp [firstOccurrence, here]
      · simp [firstOccurrence, here]

theorem firstOccurrence_end_le {pattern text : List α} {position : Nat}
    (found : firstOccurrence pattern text = some position) :
    position + pattern.length ≤ text.length := by
  obtain ⟨bound, occurs, -⟩ :=
    (firstOccurrence_eq_some_iff pattern text position).mp found
  have lengthLe := occurs.length_le
  rw [List.length_drop] at lengthLe
  omega

omit [DecidableEq α] in
/-- An occurrence inside a prefix is an occurrence in the whole, and
conversely when it ends inside the prefix. -/
theorem prefix_drop_append_iff {pattern first second : List α} {position : Nat}
    (inside : position + pattern.length ≤ first.length) :
    pattern <+: (first ++ second).drop position ↔
      pattern <+: first.drop position := by
  rw [List.drop_append_of_le_length (by omega)]
  constructor
  · intro occurs
    exact List.prefix_of_prefix_length_le occurs (List.prefix_append _ _)
      (by rw [List.length_drop]; omega)
  · exact fun occurs => occurs.trans (List.prefix_append _ _)

/-- Extending the sequence does not move the first occurrence. -/
theorem firstOccurrence_append {pattern first : List α} {position : Nat}
    (found : firstOccurrence pattern first = some position) (second : List α) :
    firstOccurrence pattern (first ++ second) = some position := by
  have inside := firstOccurrence_end_le found
  obtain ⟨bound, occurs, noEarlier⟩ :=
    (firstOccurrence_eq_some_iff pattern first position).mp found
  rw [firstOccurrence_eq_some_iff]
  refine ⟨by rw [List.length_append]; omega, ?_, ?_⟩
  · exact (prefix_drop_append_iff inside).mpr occurs
  · intro earlier before occursEarlier
    exact noEarlier earlier before
      ((prefix_drop_append_iff (by omega)).mp occursEarlier)

/-- Cutting the sequence behind the first occurrence keeps it. -/
theorem firstOccurrence_of_append {pattern first second : List α} {position : Nat}
    (found : firstOccurrence pattern (first ++ second) = some position)
    (inside : position + pattern.length ≤ first.length) :
    firstOccurrence pattern first = some position := by
  obtain ⟨-, occurs, noEarlier⟩ :=
    (firstOccurrence_eq_some_iff pattern (first ++ second) position).mp found
  rw [firstOccurrence_eq_some_iff]
  refine ⟨by omega, (prefix_drop_append_iff inside).mp occurs, ?_⟩
  intro earlier before occursEarlier
  exact noEarlier earlier before
    ((prefix_drop_append_iff (by omega)).mpr occursEarlier)

/-! ## What follows the first occurrence -/

/-- What stands behind the first occurrence of `pattern`. -/
def behindFirst (pattern text : List α) : Option (List α) :=
  (firstOccurrence pattern text).map fun position => text.drop (position + pattern.length)

theorem exists_front_of_behindFirst {pattern text behind : List α}
    (found : behindFirst pattern text = some behind) :
    ∃ front, text = front ++ pattern ++ behind := by
  obtain ⟨position, occurrence, rfl⟩ := Option.map_eq_some_iff.mp found
  obtain ⟨-, ⟨rest, restEq⟩, -⟩ :=
    (firstOccurrence_eq_some_iff pattern text position).mp occurrence
  refine ⟨text.take position, ?_⟩
  have behindEq : text.drop (position + pattern.length) = rest := by
    rw [← List.drop_drop, ← restEq, List.drop_left]
  rw [behindEq, List.append_assoc, restEq, List.take_append_drop]

theorem behindFirst_append {pattern first behind : List α}
    (found : behindFirst pattern first = some behind) (second : List α) :
    behindFirst pattern (first ++ second) = some (behind ++ second) := by
  obtain ⟨position, occurrence, rfl⟩ := Option.map_eq_some_iff.mp found
  rw [behindFirst, firstOccurrence_append occurrence, Option.map_some,
    List.drop_append_of_le_length (firstOccurrence_end_le occurrence)]

theorem firstOccurrence_cons_of_not {pattern symbols : List α} {symbol : α}
    (notHere : ¬ pattern <+: symbol :: symbols) :
    firstOccurrence pattern (symbol :: symbols) =
      (firstOccurrence pattern symbols).map (· + 1) :=
  if_neg fun here => notHere (List.isPrefixOf_iff_prefix.mp here)

omit [DecidableEq α] in
/-- An occurrence does not reach over a symbol that is not in the pattern. -/
theorem prefix_of_prefix_append_cons {pattern first second : List α} {separator : α}
    (avoids : separator ∉ pattern) (occurs : pattern <+: first ++ separator :: second) :
    pattern <+: first := by
  have upTo : first ++ [separator] <+: first ++ separator :: second :=
    ⟨second, by rw [List.append_assoc, List.singleton_append]⟩
  rcases List.prefix_or_prefix_of_prefix occurs upTo with short | long
  · rcases List.prefix_concat_iff.mp short with rfl | inside
    · exact absurd (List.mem_append_right _ (List.mem_singleton_self _)) avoids
    · exact inside
  · exact absurd (long.subset (List.mem_append_right _ (List.mem_singleton_self _))) avoids

/-- A search that fails before the separator goes on behind it. -/
theorem firstOccurrence_append_cons {pattern first : List α} {separator : α}
    (nonempty : pattern ≠ []) (avoids : separator ∉ pattern)
    (absent : firstOccurrence pattern first = none) (second : List α) :
    firstOccurrence pattern (first ++ separator :: second) =
      (firstOccurrence pattern second).map (· + (first.length + 1)) := by
  induction first with
  | nil =>
      have notHere : ¬ pattern <+: separator :: second := fun occurs =>
        nonempty (List.prefix_nil.mp (prefix_of_prefix_append_cons avoids occurs))
      exact firstOccurrence_cons_of_not notHere
  | cons symbol first ih =>
      simp only [firstOccurrence, List.isPrefixOf_iff_prefix] at absent
      have notHere : ¬ pattern <+: symbol :: first := by
        intro occurs
        rw [if_pos occurs] at absent
        cases absent
      rw [if_neg notHere, Option.map_eq_none_iff] at absent
      have stillNotHere : ¬ pattern <+: symbol :: (first ++ separator :: second) :=
        fun occurs => notHere (prefix_of_prefix_append_cons avoids occurs)
      rw [List.cons_append, firstOccurrence_cons_of_not stillNotHere, ih absent, Option.map_map]
      rfl

theorem behindFirst_append_cons {pattern first : List α} {separator : α}
    (nonempty : pattern ≠ []) (avoids : separator ∉ pattern)
    (absent : behindFirst pattern first = none) (second : List α) :
    behindFirst pattern (first ++ separator :: second) = behindFirst pattern second := by
  rw [behindFirst, firstOccurrence_append_cons nonempty avoids (Option.map_eq_none_iff.mp absent),
    Option.map_map, behindFirst]
  congr 1
  funext position
  have cut : (first ++ separator :: second).drop (first.length + 1) = second := by
    rw [List.drop_append, List.drop_of_length_le (Nat.le_succ _), Nat.add_sub_cancel_left]
    rfl
  have split : position + (first.length + 1) + pattern.length =
      first.length + 1 + (position + pattern.length) := by
    omega
  rw [Function.comp_apply, split, ← List.drop_drop, cut]

theorem behindFirst_self (pattern rest : List α) :
    behindFirst pattern (pattern ++ rest) = some rest := by
  have atStart : firstOccurrence pattern (pattern ++ rest) = some 0 := by
    rw [firstOccurrence_eq_some_iff]
    exact ⟨Nat.zero_le _, List.prefix_append _ _,
      fun _ impossible => absurd impossible (Nat.not_lt_zero _)⟩
  rw [behindFirst, atStart, Option.map_some, Nat.zero_add, List.drop_left]

theorem takeWhile_ne_of_notMem {cut : α} {symbols : List α} (clean : cut ∉ symbols) :
    symbols.takeWhile (· ≠ cut) = symbols := by
  rw [List.takeWhile_eq_self_iff]
  intro symbol member
  have different : symbol ≠ cut := fun same => clean (same ▸ member)
  simpa using different

theorem takeWhile_ne_append_cons {cut : α} {symbols : List α} (clean : cut ∉ symbols)
    (rest : List α) : (symbols ++ cut :: rest).takeWhile (· ≠ cut) = symbols := by
  rw [List.takeWhile_append, takeWhile_ne_of_notMem clean]
  simp

/-- In lines that end with `cut` and `feed`, the search comes to the first line
that has the pattern, and what follows there up to `cut` is the rest of the
line. -/
theorem behindFirst_lines {pattern : List α} {cut feed : α} (nonempty : pattern ≠ [])
    (noCut : cut ∉ pattern) (noFeed : feed ∉ pattern) (first : List α)
    (rest : List (List α)) (lines : ∀ line ∈ first :: rest, cut ∉ line) :
    (behindFirst pattern (first ++ rest.flatMap fun line => cut :: feed :: line)).map
        (fun behind => behind.takeWhile (· ≠ cut)) =
      (first :: rest).findSome? (behindFirst pattern) := by
  have emptyLine : behindFirst pattern [] = none := by
    simp [behindFirst, firstOccurrence, nonempty]
  induction rest generalizing first with
  | nil =>
      rw [List.flatMap_nil, List.append_nil, List.findSome?_singleton]
      cases found : behindFirst pattern first with
      | none => rfl
      | some behind =>
          obtain ⟨front, rfl⟩ := exists_front_of_behindFirst found
          have clean := lines _ List.mem_cons_self
          rw [Option.map_some,
            takeWhile_ne_of_notMem fun member => clean (List.mem_append_right _ member)]
  | cons second rest ih =>
      rw [List.flatMap_cons, List.findSome?_cons]
      cases found : behindFirst pattern first with
      | none =>
          rw [List.cons_append, behindFirst_append_cons nonempty noCut found, List.cons_append,
            ← List.nil_append (feed :: _),
            behindFirst_append_cons nonempty noFeed emptyLine]
          exact ih second fun line member => lines line (List.mem_cons_of_mem _ member)
      | some behind =>
          obtain ⟨front, rfl⟩ := exists_front_of_behindFirst found
          have clean := lines _ List.mem_cons_self
          have cleanBehind : cut ∉ behind := fun member =>
            clean (List.mem_append_right _ member)
          rw [behindFirst_append found, Option.map_some, List.cons_append,
            takeWhile_ne_append_cons cleanBehind]

/-- The first occurrence of a single symbol ends what is taken before it. -/
theorem firstOccurrence_singleton (symbol : α) (text : List α) :
    firstOccurrence [symbol] text =
      if symbol ∈ text then some (text.takeWhile (· ≠ symbol)).length else none := by
  induction text with
  | nil => rfl
  | cons other text ih =>
      by_cases same : symbol = other
      · subst same
        simp [firstOccurrence]
      · have different : other ≠ symbol := fun equal => same equal.symm
        by_cases member : symbol ∈ text
        · simp [firstOccurrence, ih, same, different, member]
        · simp [firstOccurrence, ih, same, member]

/-! ## C strings -/

/-- The bytes before the first NUL. -/
def cString (bytes : List UInt8) : List UInt8 :=
  bytes.takeWhile (· ≠ 0)

def strstr (haystack needle : List UInt8) : Option Nat :=
  firstOccurrence needle (cString haystack)

theorem cString_append_zero {bytes : List UInt8} (nulFree : 0 ∉ bytes)
    (rest : List UInt8) : cString (bytes ++ 0 :: rest) = bytes :=
  takeWhile_ne_append_cons nulFree rest

theorem cString_append_nul (bytes : List UInt8) : cString (bytes ++ [0]) = cString bytes := by
  rw [cString, List.takeWhile_append]
  split
  · rename_i nulFree
    rw [cString, (List.takeWhile_prefix _).eq_of_length nulFree]
    simp
  · rfl

theorem strstr_isSome_iff (haystack needle : List UInt8) :
    (strstr haystack needle).isSome = true ↔ needle <:+: cString haystack :=
  firstOccurrence_isSome_iff needle (cString haystack)

/-- The largest and the smallest `int`. -/
def intMax : Int := 2147483647
def intMin : Int := -2147483648

def isSpace (byte : UInt8) : Bool :=
  byte = 32 ∨ 9 ≤ byte ∧ byte ≤ 13

def isDigit (byte : UInt8) : Bool :=
  48 ≤ byte ∧ byte ≤ 57

def digitsValue (digits : List UInt8) : Nat :=
  digits.foldl (fun value digit => 10 * value + (digit.toNat - 48)) 0

/-- `atoi` of the target's C library, which goes through a 32-bit `strtol`
and so stops at the limits of `long`. -/
def atoi (text : List UInt8) : Int :=
  match text.dropWhile isSpace with
  | 45 :: rest => max intMin (-(digitsValue (rest.takeWhile isDigit) : Int))
  | 43 :: rest => min intMax (digitsValue (rest.takeWhile isDigit))
  | rest => min intMax (digitsValue (rest.takeWhile isDigit))

/-- The bytes of an ASCII text. -/
def ascii (text : String) : List UInt8 :=
  text.toList.map fun char => UInt8.ofNat char.toNat

end ByteSearch

end EchoMic
