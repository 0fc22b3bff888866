import EchoMic.JsonMembers
import EchoMic.PrivateKeyMasking

/-!
# What `jsonEscape` makes of a text

The quotation mark, the backslash and the newline are escaped, and every other
character is copied.  Between quotes, the result reads back as the text unless
a control character other than the newline was copied.
-/

namespace EchoMic

open JsonTexts

def escapeChar (char : Char) : List Char :=
  if char = '"' ∨ char = '\\' then ['\\', char]
  else if char = '\n' then ['\\', 'n']
  else [char]

theorem toList_jsonEscape (s : String) : (jsonEscape s).toList = s.toList.flatMap escapeChar :=
  String.toList_ofList

/-- The characters that `jsonEscape` copies rightly or escapes. -/
def IsEscapable (char : Char) : Prop :=
  char = '\n' ∨ 0x20 ≤ char.toNat

section Characters

variable {char : Char} {text rest : List Char} {units : List UInt16}

theorem reads_escapeChar (escapable : IsEscapable char) :
    Reads (.inString units) (escapeChar char) [] (.inString (units ++ utf16 char)) := by
  by_cases isQuote : char = '"'
  · subst char
    rfl
  by_cases isBackslash : char = '\\'
  · subst char
    rfl
  by_cases isNewline : char = '\n'
  · subst char
    rfl
  have copied : escapeChar char = [char] := by
    simp [escapeChar, isQuote, isBackslash, isNewline]
  have verbatim : IsVerbatim char := ⟨isQuote, isBackslash, escapable.resolve_left isNewline⟩
  have step : lexStep (.inString units) char = some ([], .inString (units ++ utf16 char)) :=
    lexStep_verbatim verbatim
  rw [copied]
  exact Reads.cons step (reads_nil_iff.mpr ⟨rfl, rfl⟩)

/-- A control character that is copied is not allowed in a string. -/
theorem lexStep_control (control : ¬ IsEscapable char) :
    escapeChar char = [char] ∧ lexStep (.inString units) char = none := by
  simp only [IsEscapable, not_or, Nat.not_le] at control
  obtain ⟨notNewline, small⟩ := control
  have notQuote : char ≠ '"' := by
    rintro rfl
    exact absurd small (by decide)
  have notBackslash : char ≠ '\\' := by
    rintro rfl
    exact absurd small (by decide)
  simp [escapeChar, lexStep, notNewline, notQuote, notBackslash, small]

theorem reads_escaped (escapable : ∀ char ∈ text, IsEscapable char) :
    Reads (.inString units) (text.flatMap escapeChar) []
      (.inString (units ++ utf16Units text)) := by
  induction text generalizing units with
  | nil => exact reads_nil_iff.mpr ⟨rfl, congrArg _ (List.append_nil units)⟩
  | cons char text ih =>
      obtain ⟨first, others⟩ := List.forall_mem_cons.mp escapable
      rw [List.flatMap_cons, utf16Units_cons, ← List.append_assoc]
      exact (reads_escapeChar first).append (ih others)

theorem escapable_of_reads {tokens : List Token} {last : LexState}
    (reads : Reads (.inString units) (text.flatMap escapeChar ++ rest) tokens last) :
    ∀ char ∈ text, IsEscapable char := by
  induction text generalizing units tokens with
  | nil => exact fun _ member => absurd member List.not_mem_nil
  | cons char text ih =>
      rw [List.flatMap_cons, List.append_assoc] at reads
      by_cases escapable : IsEscapable char
      · obtain ⟨others, more, -⟩ := (reads_escapeChar escapable).rest reads
        exact List.forall_mem_cons.mpr ⟨escapable, ih more⟩
      · obtain ⟨copied, stops⟩ := lexStep_control escapable
        rw [copied] at reads
        obtain ⟨_, _, _, step, -, -⟩ := reads_cons_iff.mp reads
        rw [stops] at step
        cases step

end Characters

/-- Between quotes, the escaped text is a JSON string that stands for the text. -/
def ReadsBack (s : String) : Prop :=
  parse ("\"" ++ jsonEscape s ++ "\"").toList = some (.string (utf16Units s.toList))

theorem toList_quoted_jsonEscape (s : String) :
    ("\"" ++ jsonEscape s ++ "\"").toList = quoted (s.toList.flatMap escapeChar) := by
  rw [String.toList_append, String.toList_append, toList_jsonEscape]
  rfl

theorem readsBack_iff (s : String) : ReadsBack s ↔ ∀ char ∈ s.toList, IsEscapable char := by
  rw [ReadsBack, toList_quoted_jsonEscape]
  constructor
  · intro parsed
    obtain ⟨tokens, last, ending, reads, -, -⟩ := exists_reads_of_parse parsed
    have opening : Reads .between ['"'] [] (.inString []) := rfl
    obtain ⟨others, inside, -⟩ := opening.rest reads
    exact escapable_of_reads inside
  · exact fun escapable => parse_quoted (reads_escaped escapable)

/-- A tab in the key of the server reaches the status page as it is. -/
theorem not_readsBack_tab : ¬ ReadsBack "a\tb" := by
  intro parsed
  have stops : parse ("\"" ++ jsonEscape "a\tb" ++ "\"").toList = none := by decide
  rw [ReadsBack, stops] at parsed
  cases parsed

end EchoMic
