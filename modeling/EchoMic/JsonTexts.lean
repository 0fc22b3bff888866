import Mathlib.Tactic.SplitIfs

/-!
# JSON texts

The grammar of JSON as two machines: one reads the characters into tokens,
and one reads the tokens into a value.  A string stands for the UTF-16 code
units that its characters and escapes denote.
-/

namespace EchoMic

namespace JsonTexts

/-! ## Characters -/

def utf16 (char : Char) : List UInt16 :=
  if char.toNat < 0x10000 then [UInt16.ofNat char.toNat]
  else
    [UInt16.ofNat (0xD800 + (char.toNat - 0x10000) / 0x400),
      UInt16.ofNat (0xDC00 + (char.toNat - 0x10000) % 0x400)]

def utf16Units (text : List Char) : List UInt16 :=
  text.flatMap utf16

theorem length_utf16_pos (char : Char) : 0 < (utf16 char).length := by
  unfold utf16
  split <;> exact Nat.zero_lt_succ _

@[simp]
theorem utf16Units_cons (char : Char) (text : List Char) :
    utf16Units (char :: text) = utf16 char ++ utf16Units text :=
  rfl

@[simp]
theorem utf16Units_append (first second : List Char) :
    utf16Units (first ++ second) = utf16Units first ++ utf16Units second :=
  List.flatMap_append

/-! ## Numbers -/

inductive NumberState where
  | start
  | minus
  | zero
  | integer
  | point
  | fraction
  | exponent
  | sign
  | power
  deriving DecidableEq

def numberStep : NumberState → Char → Option NumberState
  | .start, char =>
      if char = '-' then some .minus
      else if char = '0' then some .zero
      else if char.isDigit then some .integer
      else none
  | .minus, char =>
      if char = '0' then some .zero
      else if char.isDigit then some .integer
      else none
  | .zero, char =>
      if char = '.' then some .point
      else if char = 'e' ∨ char = 'E' then some .exponent
      else none
  | .integer, char =>
      if char.isDigit then some .integer
      else if char = '.' then some .point
      else if char = 'e' ∨ char = 'E' then some .exponent
      else none
  | .point, char => if char.isDigit then some .fraction else none
  | .fraction, char =>
      if char.isDigit then some .fraction
      else if char = 'e' ∨ char = 'E' then some .exponent
      else none
  | .exponent, char =>
      if char = '+' ∨ char = '-' then some .sign
      else if char.isDigit then some .power
      else none
  | .sign, char => if char.isDigit then some .power else none
  | .power, char => if char.isDigit then some .power else none

def NumberState.isNumber : NumberState → Bool
  | .zero | .integer | .fraction | .power => true
  | _ => false

def isNumber (text : List Char) : Bool :=
  (text.foldlM numberStep .start).any NumberState.isNumber

theorem numberStep_digitChar {digit : Nat} (small : digit < 10) :
    numberStep .integer digit.digitChar = some .integer := by
  have isDigit : digit.digitChar.isDigit = true := by
    simpa [Nat.isDigit_digitChar] using small
  exact if_pos isDigit

theorem numberStep_firstDigit :
    ∀ digit < 10, 0 < digit → numberStep .start digit.digitChar = some .integer := by
  decide

/-- The decimal digits of a number have no leading zero. -/
theorem foldlM_toDigits {value : Nat} (positive : 0 < value) :
    (Nat.toDigits 10 value).foldlM numberStep .start = some .integer := by
  induction value using Nat.strongRecOn with
  | ind value ih =>
      rcases Nat.lt_or_ge value 10 with small | large
      · rw [Nat.toDigits_of_lt_base small, List.foldlM_cons,
          numberStep_firstDigit value small positive]
        rfl
      · rw [Nat.toDigits_of_base_le (by decide) large, List.foldlM_append,
          ih (value / 10) (by omega) (by omega)]
        simp [numberStep_digitChar (Nat.mod_lt value (by decide : 0 < 10))]

theorem toList_toString (value : Nat) : (toString value).toList = Nat.toDigits 10 value := by
  simp [toString, Nat.repr]

theorem isDigit_of_mem_toString {value : Nat} {char : Char}
    (member : char ∈ (toString value).toList) : char.isDigit = true := by
  rw [toList_toString] at member
  exact Nat.isDigit_of_mem_toDigits (by decide) (by decide) member

theorem isNumber_toString (value : Nat) : isNumber (toString value).toList = true := by
  rw [toList_toString]
  rcases Nat.eq_zero_or_pos value with rfl | positive
  · rfl
  · rw [isNumber, foldlM_toDigits positive]
    rfl

/-! ## Tokens -/

inductive Scalar where
  | null
  | bool (value : Bool)
  | number (text : List Char)
  deriving DecidableEq

/-- What a bare word is: a keyword, a number or nothing. -/
def readScalar (word : List Char) : Option Scalar :=
  if word = ['n', 'u', 'l', 'l'] then some .null
  else if word = ['t', 'r', 'u', 'e'] then some (.bool true)
  else if word = ['f', 'a', 'l', 's', 'e'] then some (.bool false)
  else if isNumber word then some (.number word)
  else none

inductive Token where
  | openObject
  | closeObject
  | openArray
  | closeArray
  | colon
  | comma
  | string (units : List UInt16)
  | scalar (value : Scalar)
  deriving DecidableEq

def punctuation (char : Char) : Option Token :=
  if char = '\x7b' then some .openObject
  else if char = '\x7d' then some .closeObject
  else if char = '[' then some .openArray
  else if char = ']' then some .closeArray
  else if char = ':' then some .colon
  else if char = ',' then some .comma
  else none

def isSpace (char : Char) : Bool :=
  char = ' ' ∨ char = '\t' ∨ char = '\n' ∨ char = '\r'

/-- A character that a bare word does not go over. -/
def endsWord (char : Char) : Bool :=
  isSpace char ∨ char = '"' ∨ (punctuation char).isSome

def escapedUnit (char : Char) : Option UInt16 :=
  if char = '"' then some 0x22
  else if char = '\\' then some 0x5C
  else if char = '/' then some 0x2F
  else if char = 'b' then some 0x08
  else if char = 'f' then some 0x0C
  else if char = 'n' then some 0x0A
  else if char = 'r' then some 0x0D
  else if char = 't' then some 0x09
  else none

def hexDigit (char : Char) : Option Nat :=
  if '0' ≤ char ∧ char ≤ '9' then some (char.toNat - '0'.toNat)
  else if 'a' ≤ char ∧ char ≤ 'f' then some (char.toNat - 'a'.toNat + 10)
  else if 'A' ≤ char ∧ char ≤ 'F' then some (char.toNat - 'A'.toNat + 10)
  else none

/-- Where the reader is: between tokens, in a bare word, or in a string whose
units so far it keeps. -/
inductive LexState where
  | between
  | word (text : List Char)
  | inString (units : List UInt16)
  | escape (units : List UInt16)
  | hex (units : List UInt16) (digits value : Nat)
  deriving DecidableEq

def lexBetween (char : Char) : List Token × LexState :=
  if isSpace char then ([], .between)
  else if char = '"' then ([], .inString [])
  else
    match punctuation char with
    | some token => ([token], .between)
    | none => ([], .word [char])

def lexStep : LexState → Char → Option (List Token × LexState)
  | .between, char => some (lexBetween char)
  | .word text, char =>
      if endsWord char then
        (readScalar text).map fun value =>
          (.scalar value :: (lexBetween char).1, (lexBetween char).2)
      else some ([], .word (text ++ [char]))
  | .inString units, char =>
      if char = '"' then some ([.string units], .between)
      else if char = '\\' then some ([], .escape units)
      else if char.toNat < 0x20 then none
      else some ([], .inString (units ++ utf16 char))
  | .escape units, char =>
      if char = 'u' then some ([], .hex units 0 0)
      else (escapedUnit char).map fun unit => ([], .inString (units ++ [unit]))
  | .hex units digits value, char =>
      (hexDigit char).map fun digit =>
        if digits = 3 then ([], .inString (units ++ [UInt16.ofNat (16 * value + digit)]))
        else ([], .hex units (digits + 1) (16 * value + digit))

def lexFrom (state : LexState) : List Char → Option (List Token × LexState)
  | [] => some ([], state)
  | char :: text =>
      (lexStep state char).bind fun first =>
        (lexFrom first.2 text).map fun rest => (first.1 ++ rest.1, rest.2)

/-- The tokens that the end of the text adds. -/
def LexState.finish : LexState → Option (List Token)
  | .between => some []
  | .word text => (readScalar text).map fun value => [.scalar value]
  | _ => none

def lex (text : List Char) : Option (List Token) :=
  (lexFrom .between text).bind fun read =>
    read.2.finish.map fun last => read.1 ++ last

/-! ## Values -/

inductive JsonValue where
  | scalar (value : Scalar)
  | string (units : List UInt16)
  | array (elements : List JsonValue)
  | object (members : List (List UInt16 × JsonValue))

/-- An array or an object whose next value is still to come. -/
inductive Frame where
  | array (done : List JsonValue)
  | object (done : List (List UInt16 × JsonValue)) (name : List UInt16)

inductive ParseState where
  | value (frames : List Frame)
  | firstElement (frames : List Frame)
  | afterElement (done : List JsonValue) (frames : List Frame)
  | firstName (frames : List Frame)
  | name (done : List (List UInt16 × JsonValue)) (frames : List Frame)
  | colon (done : List (List UInt16 × JsonValue)) (name : List UInt16) (frames : List Frame)
  | afterMember (done : List (List UInt16 × JsonValue)) (frames : List Frame)
  | finished (value : JsonValue)

/-- The value goes into the innermost array or object. -/
def deliver (value : JsonValue) : List Frame → ParseState
  | [] => .finished value
  | .array done :: frames => .afterElement (done ++ [value]) frames
  | .object done name :: frames => .afterMember (done ++ [(name, value)]) frames

def startValue (frames : List Frame) : Token → Option ParseState
  | .openObject => some (.firstName frames)
  | .openArray => some (.firstElement frames)
  | .string units => some (deliver (.string units) frames)
  | .scalar value => some (deliver (.scalar value) frames)
  | _ => none

def parseStep : ParseState → Token → Option ParseState
  | .value frames, token => startValue frames token
  | .firstElement frames, .closeArray => some (deliver (.array []) frames)
  | .firstElement frames, token => startValue (.array [] :: frames) token
  | .afterElement done frames, .comma => some (.value (.array done :: frames))
  | .afterElement done frames, .closeArray => some (deliver (.array done) frames)
  | .firstName frames, .closeObject => some (deliver (.object []) frames)
  | .firstName frames, .string name => some (.colon [] name frames)
  | .name done frames, .string name => some (.colon done name frames)
  | .colon done name frames, .colon => some (.value (.object done name :: frames))
  | .afterMember done frames, .comma => some (.name done frames)
  | .afterMember done frames, .closeObject => some (deliver (.object done) frames)
  | _, _ => none

def ParseState.finish : ParseState → Option JsonValue
  | .finished result => some result
  | _ => none

def parseTokens (tokens : List Token) : Option JsonValue :=
  (tokens.foldlM parseStep (.value [])).bind ParseState.finish

def parse (text : List Char) : Option JsonValue :=
  (lex text).bind parseTokens

/-! ## Reading in parts -/

/-- The text gives these tokens and takes the reader to this state. -/
def Reads (state : LexState) (text : List Char) (tokens : List Token) (next : LexState) :
    Prop :=
  lexFrom state text = some (tokens, next)

section Reads

variable {state middle next last : LexState} {char : Char} {text first second : List Char}
variable {tokens firstTokens secondTokens : List Token}

theorem reads_nil_iff : Reads state [] tokens next ↔ tokens = [] ∧ next = state := by
  simp [Reads, lexFrom, eq_comm]

theorem reads_cons_iff : Reads state (char :: text) tokens last ↔
    ∃ stepTokens next rest, lexStep state char = some (stepTokens, next) ∧
      Reads next text rest last ∧ tokens = stepTokens ++ rest := by
  simp only [Reads, lexFrom, Option.bind_eq_some_iff, Option.map_eq_some_iff, Prod.exists,
    Prod.mk.injEq]
  constructor
  · rintro ⟨stepTokens, next, step, rest, final, more, rfl, rfl⟩
    exact ⟨stepTokens, next, rest, step, more, rfl⟩
  · rintro ⟨stepTokens, next, rest, step, more, rfl⟩
    exact ⟨stepTokens, next, step, rest, last, more, rfl, rfl⟩

theorem Reads.cons (step : lexStep state char = some (firstTokens, next))
    (rest : Reads next text secondTokens last) :
    Reads state (char :: text) (firstTokens ++ secondTokens) last :=
  reads_cons_iff.mpr ⟨_, _, _, step, rest, rfl⟩

theorem Reads.append (start : Reads state first firstTokens middle)
    (rest : Reads middle second secondTokens last) :
    Reads state (first ++ second) (firstTokens ++ secondTokens) last := by
  induction first generalizing state firstTokens with
  | nil =>
      obtain ⟨rfl, rfl⟩ := reads_nil_iff.mp start
      exact rest
  | cons char first ih =>
      obtain ⟨stepTokens, next, others, step, more, rfl⟩ := reads_cons_iff.mp start
      rw [List.append_assoc]
      exact Reads.cons step (ih more)

theorem Reads.split (reads : Reads state (first ++ second) tokens last) :
    ∃ firstTokens middle secondTokens, Reads state first firstTokens middle ∧
      Reads middle second secondTokens last ∧ tokens = firstTokens ++ secondTokens := by
  induction first generalizing state tokens with
  | nil => exact ⟨[], state, tokens, reads_nil_iff.mpr ⟨rfl, rfl⟩, reads, rfl⟩
  | cons char first ih =>
      obtain ⟨stepTokens, next, others, step, more, rfl⟩ := reads_cons_iff.mp reads
      obtain ⟨firstTokens, middle, secondTokens, start, rest, rfl⟩ := ih more
      exact ⟨_, middle, secondTokens, start.cons step, rest, (List.append_assoc ..).symm⟩

theorem Reads.unique (read : Reads state text firstTokens next)
    (again : Reads state text secondTokens last) : secondTokens = firstTokens ∧ last = next := by
  simpa using again.symm.trans read

/-- What is known about the start of a text says how the rest is read. -/
theorem Reads.rest (start : Reads state first firstTokens middle)
    (reads : Reads state (first ++ second) tokens last) :
    ∃ secondTokens, Reads middle second secondTokens last ∧
      tokens = firstTokens ++ secondTokens := by
  obtain ⟨_, _, secondTokens, startAgain, rest, rfl⟩ := reads.split
  obtain ⟨rfl, rfl⟩ := start.unique startAgain
  exact ⟨secondTokens, rest, rfl⟩

end Reads

/-! ## Strings -/

/-- A character that stands for itself in a string. -/
def IsVerbatim (char : Char) : Prop :=
  char ≠ '"' ∧ char ≠ '\\' ∧ 0x20 ≤ char.toNat

instance : DecidablePred IsVerbatim :=
  fun _ => inferInstanceAs (Decidable (_ ∧ _))

section Strings

variable {char : Char} {text : List Char} {units final : List UInt16} {tokens : List Token}

theorem lexStep_verbatim (verbatim : IsVerbatim char) :
    lexStep (.inString units) char = some ([], .inString (units ++ utf16 char)) := by
  obtain ⟨noQuote, noBackslash, printed⟩ := verbatim
  rw [lexStep, if_neg noQuote, if_neg noBackslash, if_neg (Nat.not_lt.mpr printed)]

theorem reads_verbatim (verbatim : ∀ char ∈ text, IsVerbatim char) :
    Reads (.inString units) text [] (.inString (units ++ utf16Units text)) := by
  induction text generalizing units with
  | nil => exact reads_nil_iff.mpr ⟨rfl, congrArg _ (List.append_nil units)⟩
  | cons char text ih =>
      have rest : Reads (.inString (units ++ utf16 char)) text [] _ :=
        ih fun other member => verbatim other (List.mem_cons_of_mem _ member)
      rw [utf16Units_cons, ← List.append_assoc]
      exact Reads.cons (lexStep_verbatim (verbatim char List.mem_cons_self)) rest

/-- The text of a string with these characters between the quotes. -/
def quoted (text : List Char) : List Char :=
  '"' :: (text ++ ['"'])

theorem reads_quoted (body : Reads (.inString []) text [] (.inString units)) :
    Reads .between (quoted text) [.string units] .between := by
  have opening : lexStep .between '"' = some ([], .inString []) := rfl
  have closing : Reads (.inString units) ['"'] [.string units] .between := rfl
  exact Reads.cons opening (body.append closing)

theorem parse_quoted (body : Reads (.inString []) text [] (.inString units)) :
    parse (quoted text) = some (.string units) := by
  rw [parse, lex, reads_quoted body]
  rfl

example : parse "\"a\\u0009b\\n\"".toList = some (.string (utf16Units "a\tb\n".toList)) :=
  rfl

theorem exists_reads_of_parse {value : JsonValue} (parsed : parse text = some value) :
    ∃ tokens last ending, Reads .between text tokens last ∧ last.finish = some ending ∧
      parseTokens (tokens ++ ending) = some value := by
  obtain ⟨_, lexed, parsed⟩ := Option.bind_eq_some_iff.mp parsed
  obtain ⟨⟨tokens, last⟩, reads, finished⟩ := Option.bind_eq_some_iff.mp lexed
  obtain ⟨ending, ends, rfl⟩ := Option.map_eq_some_iff.mp finished
  exact ⟨tokens, last, ending, reads, ends, parsed⟩

/-! Every character brings at most its own units into a string, and a string
takes two more for its quotes. -/

def Token.weight : Token → Nat
  | .string units => units.length + 2
  | _ => 0

def weight : List Token → Nat
  | [] => 0
  | token :: tokens => token.weight + weight tokens

def LexState.weight : LexState → Nat
  | .inString units | .escape units | .hex units _ _ => units.length + 1
  | .between | .word _ => 0

@[simp]
theorem weight_nil : weight [] = 0 :=
  rfl

@[simp]
theorem weight_cons (token : Token) (tokens : List Token) :
    weight (token :: tokens) = token.weight + weight tokens :=
  rfl

@[simp]
theorem weight_append (first second : List Token) :
    weight (first ++ second) = weight first + weight second := by
  induction first with
  | nil => exact (Nat.zero_add _).symm
  | cons token first ih => rw [List.cons_append, weight_cons, weight_cons, ih, Nat.add_assoc]

theorem weight_lexBetween (char : Char) :
    weight (lexBetween char).1 + (lexBetween char).2.weight ≤ 1 := by
  unfold lexBetween punctuation
  split_ifs <;> simp [weight, Token.weight, LexState.weight]

theorem weight_lexStep {state next : LexState}
    (step : lexStep state char = some (tokens, next)) :
    weight tokens + next.weight ≤ state.weight + (utf16 char).length := by
  have unit := length_utf16_pos char
  have between := weight_lexBetween char
  cases state with
  | between =>
      simp only [lexStep, Option.some.injEq] at step
      rw [step] at between
      exact Nat.le_trans between (Nat.le_trans unit (Nat.le_add_left _ _))
  | word text =>
      simp only [lexStep] at step
      split at step
      · simp only [Option.map_eq_some_iff, Prod.mk.injEq] at step
        obtain ⟨value, -, rfl, rfl⟩ := step
        simp only [weight_cons, Token.weight, Nat.zero_add]
        exact Nat.le_trans between (Nat.le_trans unit (Nat.le_add_left _ _))
      · cases step
        exact Nat.zero_le _
  | inString units =>
      simp only [lexStep] at step
      split_ifs at step <;> cases step <;>
        simp only [weight_cons, weight_nil, Token.weight, LexState.weight, List.length_append] <;>
        omega
  | escape units =>
      simp only [lexStep] at step
      split at step
      · cases step
        simp [LexState.weight]
      · simp only [Option.map_eq_some_iff] at step
        obtain ⟨unit, -, rfl, rfl⟩ := step
        simp only [weight_nil, LexState.weight, List.length_append, List.length_singleton]
        omega
  | hex units digits value =>
      simp only [lexStep, Option.map_eq_some_iff] at step
      obtain ⟨digit, -, step⟩ := step
      split at step <;> cases step <;>
        simp only [weight_nil, LexState.weight, List.length_append, List.length_singleton] <;>
        omega

theorem Reads.weight_le {state next : LexState} (reads : Reads state text tokens next) :
    weight tokens + next.weight ≤ state.weight + (utf16Units text).length := by
  induction text generalizing state tokens with
  | nil =>
      obtain ⟨rfl, rfl⟩ := reads_nil_iff.mp reads
      simp
  | cons char text ih =>
      obtain ⟨stepTokens, middle, rest, step, more, rfl⟩ := reads_cons_iff.mp reads
      have first := weight_lexStep step
      have others := ih more
      rw [weight_append, utf16Units_cons, List.length_append]
      omega

/-- A string that is as long as its text has no escapes and was never left. -/
theorem verbatim_of_reads (reads : Reads (.inString units) text tokens (.inString final))
    (full : units.length + (utf16Units text).length ≤ final.length) :
    ∀ char ∈ text, IsVerbatim char := by
  induction text generalizing units tokens with
  | nil => exact fun _ member => absurd member List.not_mem_nil
  | cons char text ih =>
      obtain ⟨stepTokens, middle, rest, step, more, rfl⟩ := reads_cons_iff.mp reads
      have unit := length_utf16_pos char
      have others := more.weight_le
      rw [utf16Units_cons, List.length_append] at full
      simp only [lexStep] at step
      split_ifs at step with isQuote isBackslash isControl
      · cases step
        simp only [LexState.weight] at others
        omega
      · cases step
        simp only [LexState.weight] at others
        omega
      · cases step
        have tail := ih more (by rw [List.length_append]; omega)
        exact List.forall_mem_cons.mpr ⟨⟨isQuote, isBackslash, Nat.not_lt.mp isControl⟩, tail⟩

end Strings

end JsonTexts

end EchoMic
