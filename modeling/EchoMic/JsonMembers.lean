import EchoMic.JsonTexts
import EchoMic.TextPatterns

/-!
# Members of JSON objects

The string members of an object stand in its text as three tokens each.  An
object whose values are single tokens reads back as what was written, and a
text that leaves the string it is in can only bring short strings of its own.
-/

namespace EchoMic

namespace JsonTexts

/-! ## Members -/

abbrev Member := List UInt16 × Token

def memberTokens (member : Member) : List Token :=
  [.string member.1, .colon, member.2]

theorem infix_of_not_mem {α : Type*} {piece before after : List α} {separator : α}
    (isInfix : piece <:+: before ++ separator :: after) (absent : separator ∉ piece) :
    piece <:+: before ∨ piece <:+: after := by
  have noStart {part : List α} (isPrefix : part <+: separator :: after)
      (absent : separator ∉ part) : part = [] := by
    rcases List.prefix_cons_iff.mp isPrefix with rfl | ⟨rest, rfl, -⟩
    · rfl
    · exact absurd List.mem_cons_self absent
  rcases List.infix_append_iff.mp isInfix with
    inBefore | inRest | ⟨front, back, rfl, atEnd, atStart⟩
  · exact .inl inBefore
  · rcases List.infix_cons_iff.mp inRest with atStart | inAfter
    · rw [noStart atStart absent]
      exact .inl List.nil_infix
    · exact .inr inAfter
  · rw [noStart atStart fun member => absent (List.mem_append_right _ member), List.append_nil]
    exact .inl atEnd.isInfix

def membersTokens (members : List Member) : List Token :=
  members.flatMap fun member => memberTokens member ++ [.comma]

theorem mem_or_infix_of_isInfix {members : List Member} {name units : List UInt16}
    {rest : List Token}
    (isInfix : memberTokens (name, .string units) <:+: membersTokens members ++ rest) :
    (name, .string units) ∈ members ∨ memberTokens (name, .string units) <:+: rest := by
  induction members with
  | nil => exact .inr isInfix
  | cons member members ih =>
      rw [membersTokens, List.flatMap_cons, List.append_assoc, List.append_assoc] at isInfix
      rcases infix_of_not_mem isInfix (by simp [memberTokens]) with inMember | inRest
      · have equal := inMember.eq_of_length rfl
        simp only [memberTokens, List.cons.injEq, Token.string.injEq, and_true, true_and] at equal
        exact .inl (List.mem_cons.mpr (.inl (Prod.ext equal.1 equal.2)))
      · exact (ih inRest).imp_left (List.mem_cons_of_mem _)

/-! Every string member of a value stands as three tokens in its text. -/

def MembersStand (read : List Token) (members : List (List UInt16 × JsonValue)) : Prop :=
  ∀ name units, (name, .string units) ∈ members →
    memberTokens (name, .string units) <:+: read

def Frame.Stands (read : List Token) : Frame → Prop
  | .array _ => True
  | .object done _ => MembersStand read done

def FramesStand (read : List Token) (frames : List Frame) : Prop :=
  ∀ frame ∈ frames, frame.Stands read

/-- The tokens end with what introduces the value of the innermost object. -/
def Introduced (read : List Token) : List Frame → Prop
  | .object _ name :: _ => [.string name, .colon] <:+ read
  | _ => True

def ParseState.Stands (read : List Token) : ParseState → Prop
  | .value frames => FramesStand read frames ∧ Introduced read frames
  | .firstElement frames | .afterElement _ frames | .firstName frames => FramesStand read frames
  | .name done frames | .afterMember done frames =>
      MembersStand read done ∧ FramesStand read frames
  | .colon done key frames =>
      MembersStand read done ∧ FramesStand read frames ∧ [.string key] <:+ read
  | .finished (.object members) => MembersStand read members
  | .finished _ => True

section Standing

variable {read : List Token} {token : Token} {frames : List Frame}
variable {members : List (List UInt16 × JsonValue)}

theorem MembersStand.more (stand : MembersStand read members) :
    MembersStand (read ++ [token]) members :=
  fun name units member =>
    (stand name units member).trans (List.prefix_append read [token]).isInfix

theorem FramesStand.more (stand : FramesStand read frames) :
    FramesStand (read ++ [token]) frames := by
  intro frame member
  have before := stand frame member
  cases frame with
  | array done => trivial
  | object done name => exact MembersStand.more before

theorem FramesStand.inArray {done : List JsonValue} (stand : FramesStand read frames) :
    FramesStand read (.array done :: frames) :=
  List.forall_mem_cons.mpr ⟨trivial, stand⟩

theorem stands_deliver {value : JsonValue} (framesStand : FramesStand read frames)
    (objectStands : ∀ members, value = .object members → MembersStand read members)
    (stringStands : ∀ done name rest units, frames = .object done name :: rest →
      value = .string units → memberTokens (name, .string units) <:+: read) :
    (deliver value frames).Stands read := by
  cases frames with
  | nil =>
      cases value with
      | object members => exact objectStands members rfl
      | _ => trivial
  | cons frame frames =>
      obtain ⟨inner, others⟩ := List.forall_mem_cons.mp framesStand
      cases frame with
      | array done => exact others
      | object done name =>
          refine ⟨fun other units member => ?_, others⟩
          rcases List.mem_append.mp member with earlier | new
          · exact inner other units earlier
          · obtain ⟨rfl, rfl⟩ := Prod.mk.inj (List.mem_singleton.mp new)
            exact stringStands done other frames units rfl rfl

theorem stands_startValue {next : ParseState} (framesStand : FramesStand read frames)
    (introduced : Introduced read frames) (start : startValue frames token = some next) :
    next.Stands (read ++ [token]) := by
  cases token with
  | openObject =>
      cases start
      exact framesStand.more
  | openArray =>
      cases start
      exact framesStand.more
  | string units =>
      cases start
      refine stands_deliver framesStand.more (by rintro _ ⟨⟩) ?_
      rintro done name rest _ rfl ⟨⟩
      obtain ⟨before, rfl⟩ := introduced
      exact ⟨before, [], by simp [memberTokens]⟩
  | scalar value =>
      cases start
      exact stands_deliver framesStand.more (by rintro _ ⟨⟩) (by rintro _ _ _ _ _ ⟨⟩)
  | _ => cases start

theorem stands_parseStep {state next : ParseState} (stands : state.Stands read)
    (step : parseStep state token = some next) : next.Stands (read ++ [token]) := by
  cases state with
  | value frames => exact stands_startValue stands.1 stands.2 step
  | firstElement frames =>
      have started (start : startValue (.array [] :: frames) token = some next) :
          next.Stands (read ++ [token]) :=
        stands_startValue (FramesStand.inArray stands) trivial start
      cases token with
      | closeArray =>
          cases step
          exact stands_deliver (FramesStand.more stands) (by rintro _ ⟨⟩) (by rintro _ _ _ _ _ ⟨⟩)
      | _ => exact started step
  | afterElement done frames =>
      cases token with
      | comma =>
          cases step
          exact ⟨FramesStand.inArray (FramesStand.more stands), trivial⟩
      | closeArray =>
          cases step
          exact stands_deliver (FramesStand.more stands) (by rintro _ ⟨⟩) (by rintro _ _ _ _ _ ⟨⟩)
      | _ => cases step
  | firstName frames =>
      cases token with
      | closeObject =>
          cases step
          refine stands_deliver (FramesStand.more stands) ?_ (by rintro _ _ _ _ _ ⟨⟩)
          rintro _ ⟨⟩ _ _ member
          exact absurd member List.not_mem_nil
      | string name =>
          cases step
          exact ⟨fun _ _ member => absurd member List.not_mem_nil, FramesStand.more stands,
            List.suffix_append _ _⟩
      | _ => cases step
  | name done frames =>
      cases token with
      | string name =>
          cases step
          exact ⟨stands.1.more, stands.2.more, List.suffix_append _ _⟩
      | _ => cases step
  | colon done key frames =>
      cases token with
      | colon =>
          cases step
          obtain ⟨membersStand, framesStand, before, rfl⟩ := stands
          refine ⟨List.forall_mem_cons.mpr ⟨membersStand.more, framesStand.more⟩, before, ?_⟩
          rw [List.append_assoc]
          rfl
      | _ => cases step
  | afterMember done frames =>
      cases token with
      | comma =>
          cases step
          exact ⟨stands.1.more, stands.2.more⟩
      | closeObject =>
          cases step
          refine stands_deliver stands.2.more ?_ (by rintro _ _ _ _ _ ⟨⟩)
          rintro _ ⟨⟩
          exact stands.1.more
      | _ => cases step
  | finished result => cases step

theorem stands_foldlM {state last : ParseState} {tokens : List Token}
    (stands : state.Stands read) (run : tokens.foldlM parseStep state = some last) :
    last.Stands (read ++ tokens) := by
  induction tokens generalizing state read with
  | nil =>
      cases run
      rwa [List.append_nil]
  | cons token tokens ih =>
      rw [List.foldlM_cons] at run
      obtain ⟨next, step, rest⟩ := Option.bind_eq_some_iff.mp run
      have after := ih (stands_parseStep stands step) rest
      rwa [List.append_assoc] at after

end Standing

theorem infix_of_parseTokens {tokens : List Token} {members : List (List UInt16 × JsonValue)}
    {name units : List UInt16} (parsed : parseTokens tokens = some (.object members))
    (member : (name, .string units) ∈ members) :
    memberTokens (name, .string units) <:+: tokens := by
  obtain ⟨last, run, finish⟩ := Option.bind_eq_some_iff.mp parsed
  have initially : (ParseState.value []).Stands [] :=
    ⟨fun _ impossible => absurd impossible List.not_mem_nil, trivial⟩
  have stands : last.Stands ([] ++ tokens) := stands_foldlM initially run
  cases last with
  | finished result =>
      cases finish
      exact stands name units member
  | _ => cases finish

/-! ## Objects whose values are single tokens -/

/-- Read up to a delimiter, the text is one token. -/
def ReadsAs (text : List Char) (token : Token) : Prop :=
  ∀ delimiter ending, punctuation delimiter = some ending →
    Reads .between (text ++ [delimiter]) [token, ending] .between

structure Entry where
  name : List Char
  text : List Char
  token : Token
  value : JsonValue
  verbatim : ∀ char ∈ name, IsVerbatim char
  readsAs : ReadsAs text token
  delivers : ∀ frames, startValue frames token = some (deliver value frames)

def memberText (name value : List Char) : List Char :=
  quoted name ++ ':' :: value

namespace Entry

def memberText (entry : Entry) : List Char :=
  JsonTexts.memberText entry.name entry.text

def tokens (entry : Entry) : Member :=
  (utf16Units entry.name, entry.token)

def member (entry : Entry) : List UInt16 × JsonValue :=
  (utf16Units entry.name, entry.value)

end Entry

def entriesText (entries : List Entry) : List Char :=
  entries.flatMap fun entry => entry.memberText ++ [',']

@[simp]
theorem entriesText_nil : entriesText [] = [] :=
  rfl

@[simp]
theorem entriesText_cons (entry : Entry) (entries : List Entry) :
    entriesText (entry :: entries) = entry.memberText ++ ',' :: entriesText entries := by
  simp [entriesText]

def objectText (entries : List Entry) (last : Entry) : List Char :=
  '\x7b' :: (entriesText entries ++ (last.memberText ++ ['\x7d']))

theorem readsAs_quoted {text : List Char} {units : List UInt16}
    (body : Reads (.inString []) text [] (.inString units)) :
    ReadsAs (quoted text) (.string units) := by
  intro delimiter ending isDelimiter
  have ends : Reads .between [delimiter] [ending] .between := by
    unfold punctuation at isDelimiter
    split_ifs at isDelimiter <;> cases isDelimiter <;> subst delimiter <;> rfl
  exact (reads_quoted body).append ends

/-- A word that stands outside a string. -/
def IsBareWord (text : List Char) : Prop :=
  text ≠ [] ∧ ∀ char ∈ text, endsWord char = false

instance : DecidablePred IsBareWord := fun text =>
  have : Decidable (∀ char ∈ text, endsWord char = false) := List.decidableBAll _ text
  inferInstanceAs (Decidable (text ≠ [] ∧ ∀ char ∈ text, endsWord char = false))

section Words

variable {char : Char} {word text rest : List Char} {tokens : List Token} {last : LexState}

theorem reads_word (bare : ∀ char ∈ text, endsWord char = false) :
    Reads (.word word) text [] (.word (word ++ text)) := by
  induction text generalizing word with
  | nil => exact reads_nil_iff.mpr ⟨rfl, congrArg _ (List.append_nil word)⟩
  | cons char text ih =>
      have inWord : lexStep (.word word) char = some ([], .word (word ++ [char])) := by
        rw [lexStep, bare char List.mem_cons_self]
        rfl
      have tail : Reads (.word (word ++ [char])) text [] _ :=
        ih fun other member => bare other (List.mem_cons_of_mem _ member)
      rw [List.append_assoc] at tail
      exact Reads.cons inWord tail

theorem lexBetween_bare (bare : endsWord char = false) :
    lexBetween char = ([], .word [char]) := by
  simp only [endsWord, decide_eq_false_iff_not, not_or, Bool.not_eq_true,
    Option.isSome_eq_false_iff, Option.isNone_iff_eq_none] at bare
  obtain ⟨noSpace, noQuote, noPunctuation⟩ := bare
  simp [lexBetween, noSpace, noQuote, noPunctuation]

theorem reads_bare (bare : IsBareWord text) : Reads .between text [] (.word text) := by
  cases text with
  | nil => exact absurd rfl bare.1
  | cons char text =>
      obtain ⟨firstBare, restBare⟩ := List.forall_mem_cons.mp bare.2
      have first : lexStep .between char = some ([], .word [char]) :=
        congrArg some (lexBetween_bare firstBare)
      exact Reads.cons first (reads_word restBare)

theorem readsAs_scalar {value : Scalar} (bare : IsBareWord text)
    (isScalar : readScalar text = some value) : ReadsAs text (.scalar value) := by
  intro delimiter ending isDelimiter
  have ends : Reads (.word text) [delimiter] [.scalar value, ending] .between := by
    unfold punctuation at isDelimiter
    split_ifs at isDelimiter <;> cases isDelimiter <;> subst delimiter <;>
      simp [Reads, lexFrom, lexStep, isScalar, endsWord, isSpace, lexBetween, punctuation]
  exact (reads_bare bare).append ends

/-- A bare word that is no value ends the reading at its closing quote. -/
theorem not_reads_bare (bare : IsBareWord text) (noScalar : readScalar text = none) :
    ¬ Reads .between (text ++ '"' :: rest) tokens last := by
  intro reads
  obtain ⟨others, more, -⟩ := (reads_bare bare).rest reads
  obtain ⟨stepTokens, next, remaining, step, -, -⟩ := reads_cons_iff.mp more
  have stops : lexStep (.word text) '"' = none := by
    rw [lexStep, noScalar]
    rfl
  rw [stops] at step
  cases step

theorem readScalar_of_isNumber (number : isNumber text = true) :
    readScalar text = some (.number text) := by
  have notWord {word : List Char} (noNumber : isNumber word = false) : text ≠ word := by
    rintro rfl
    rw [number] at noNumber
    cases noNumber
  rw [readScalar, if_neg (notWord rfl), if_neg (notWord rfl), if_neg (notWord rfl), if_pos number]

theorem endsWord_of_isDigit (digit : char.isDigit = true) : endsWord char = false := by
  have differs (other : Char) (noDigit : other.isDigit = false) : char ≠ other :=
    TextPatterns.ne_of_isDigit digit noDigit
  simp [endsWord, isSpace, punctuation, differs ' ' rfl, differs '\t' rfl, differs '\n' rfl,
    differs '\r' rfl, differs '"' rfl, differs '\x7b' rfl, differs '\x7d' rfl, differs '[' rfl,
    differs ']' rfl, differs ':' rfl, differs ',' rfl]

end Words

namespace Entry

def ofString (name text : List Char) (units : List UInt16)
    (verbatim : ∀ char ∈ name, IsVerbatim char)
    (body : Reads (.inString []) text [] (.inString units)) : Entry where
  name := name
  text := quoted text
  token := .string units
  value := .string units
  verbatim := verbatim
  readsAs := readsAs_quoted body
  delivers := fun _ => rfl

def ofScalar (name text : List Char) (value : Scalar) (verbatim : ∀ char ∈ name, IsVerbatim char)
    (bare : IsBareWord text) (isScalar : readScalar text = some value) : Entry where
  name := name
  text := text
  token := .scalar value
  value := .scalar value
  verbatim := verbatim
  readsAs := readsAs_scalar bare isScalar
  delivers := fun _ => rfl

def ofNat (name : List Char) (value : Nat) (verbatim : ∀ char ∈ name, IsVerbatim char) : Entry :=
  ofScalar name (toString value).toList (.number (toString value).toList) verbatim
    ⟨by simp, fun _ member => endsWord_of_isDigit (isDigit_of_mem_toString member)⟩
    (readScalar_of_isNumber (isNumber_toString value))

end Entry

theorem reads_name {name : List Char} (verbatim : ∀ char ∈ name, IsVerbatim char) :
    Reads .between (quoted name ++ [':']) [.string (utf16Units name), .colon] .between := by
  have colon : Reads .between [':'] [.colon] .between := rfl
  exact (reads_quoted (reads_verbatim verbatim)).append colon

theorem reads_entry (entry : Entry) {delimiter : Char} {ending : Token}
    (isDelimiter : punctuation delimiter = some ending) :
    Reads .between (entry.memberText ++ [delimiter]) (memberTokens entry.tokens ++ [ending])
      .between := by
  have reads := (reads_name entry.verbatim).append (entry.readsAs delimiter ending isDelimiter)
  simpa [Entry.memberText, memberText, memberTokens, Entry.tokens] using reads

theorem reads_entries (entries : List Entry) :
    Reads .between (entriesText entries) (membersTokens (entries.map Entry.tokens)) .between := by
  induction entries with
  | nil => rfl
  | cons entry entries ih =>
      have isComma : punctuation ',' = some .comma := rfl
      have first := reads_entry entry isComma
      simpa [entriesText, membersTokens] using first.append ih

theorem lex_objectText (entries : List Entry) (last : Entry) :
    lex (objectText entries last) = some (.openObject ::
      (membersTokens (entries.map Entry.tokens) ++
        (memberTokens last.tokens ++ [.closeObject]))) := by
  have opening : lexStep .between '\x7b' = some ([.openObject], .between) := rfl
  have isClosing : punctuation '\x7d' = some .closeObject := rfl
  have inside := (reads_entries entries).append (reads_entry last isClosing)
  have reads : Reads .between (objectText entries last) _ .between := Reads.cons opening inside
  rw [lex, reads]
  simp [LexState.finish]

theorem run_member (entry : Entry) (done : List (List UInt16 × JsonValue)) (frames : List Frame) :
    (memberTokens entry.tokens).foldlM parseStep (.name done frames) =
      some (.afterMember (done ++ [entry.member]) frames) := by
  have delivered := entry.delivers (.object done (utf16Units entry.name) :: frames)
  simp [memberTokens, Entry.tokens, parseStep, delivered, deliver, Entry.member]

theorem run_members (entries : List Entry) (done : List (List UInt16 × JsonValue))
    (frames : List Frame) :
    (membersTokens (entries.map Entry.tokens)).foldlM parseStep (.name done frames) =
      some (.name (done ++ entries.map Entry.member) frames) := by
  induction entries generalizing done with
  | nil => simp [membersTokens]
  | cons entry entries ih =>
      have next := ih (done ++ [entry.member])
      rw [membersTokens, List.map_cons, List.flatMap_cons, List.foldlM_append,
        List.foldlM_append, run_member]
      simpa [parseStep, membersTokens] using next

/-- An object that is not empty starts with a name. -/
theorem run_firstName (entries : List Entry) (last : Entry) (frames : List Frame)
    (rest : List Token) :
    (membersTokens (entries.map Entry.tokens) ++ (memberTokens last.tokens ++ rest)).foldlM
        parseStep (.firstName frames) =
      (membersTokens (entries.map Entry.tokens) ++ (memberTokens last.tokens ++ rest)).foldlM
        parseStep (.name [] frames) := by
  cases entries <;> rfl

theorem parse_objectText (entries : List Entry) (last : Entry) :
    parse (objectText entries last) =
      some (.object (entries.map Entry.member ++ [last.member])) := by
  have opening : parseStep (.value []) .openObject = some (.firstName []) := rfl
  have members := run_members entries [] []
  have lastMember := run_member last (entries.map Entry.member) []
  rw [parse, lex_objectText, Option.bind_some, parseTokens, List.foldlM_cons, opening]
  change ((membersTokens _ ++ _).foldlM parseStep (.firstName [])).bind _ = _
  rw [run_firstName, List.foldlM_append, members, List.nil_append]
  change ((memberTokens _ ++ _).foldlM parseStep (.name _ [])).bind _ = _
  rw [List.foldlM_append, lastMember]
  rfl

/-! ## Texts that leave a string -/

section Boundaries

variable {text name rest : List Char} {tokens : List Token} {last : LexState}

/-- A quotation mark ends the string the reader is in, or the reader is in a
string behind it. -/
theorem quote_cases {state : LexState} (reads : Reads state ('"' :: rest) tokens last) :
    (∃ units, state = .inString units) ∨
      ∃ before units, Reads state ['"'] before (.inString units) := by
  obtain ⟨stepTokens, next, _, step, -, -⟩ := reads_cons_iff.mp reads
  cases state with
  | between => exact .inr ⟨[], [], rfl⟩
  | word word =>
      have stops : lexStep (.word word) '"' =
          (readScalar word).map fun value => ([.scalar value], .inString []) := rfl
      rw [stops] at step
      obtain ⟨value, isScalar, -⟩ := Option.map_eq_some_iff.mp step
      have opens : lexStep (.word word) '"' = some ([.scalar value], .inString []) := by
        rw [stops, isScalar]
        rfl
      exact .inr ⟨_, [], Reads.cons opens (reads_nil_iff.mpr ⟨rfl, rfl⟩)⟩
  | inString units => exact .inl ⟨units, rfl⟩
  | escape units => exact .inr ⟨[], units ++ [0x22], rfl⟩
  | hex units digits value => cases step

/-- Between a text in a string and the next name, the string ends: otherwise
the name would be a bare word. -/
theorem ends_before_name (bare : IsBareWord name) (noScalar : readScalar name = none)
    (reads : Reads (.inString []) (text ++ '"' :: ',' :: (quoted name ++ rest)) tokens last) :
    ∃ inside units others, Reads (.inString []) text inside (.inString units) ∧
      Reads .between (quoted name ++ rest) others last ∧
      tokens = inside ++ .string units :: .comma :: others := by
  obtain ⟨inside, middle, remaining, start, more, rfl⟩ := reads.split
  rcases quote_cases more with ⟨units, rfl⟩ | ⟨before, units, inString⟩
  · have closes : Reads (.inString units) ['"', ','] [.string units, .comma] .between := rfl
    have split : Reads (.inString units) (['"', ','] ++ (quoted name ++ rest)) remaining last :=
      more
    obtain ⟨others, after, rfl⟩ := closes.rest split
    exact ⟨inside, units, others, start, after, rfl⟩
  · have closes : Reads (.inString units) [',', '"'] [.string (units ++ utf16 ',')] .between :=
      rfl
    have split : Reads middle (['"'] ++ [',', '"'] ++ (name ++ '"' :: rest)) remaining last := by
      simpa [quoted] using more
    obtain ⟨_, bareWord, -⟩ := (inString.append closes).rest split
    exact absurd bareWord (not_reads_bare bare noScalar)

/-- At the end of an object, the string of the last member ends: otherwise the
text would end in a string. -/
theorem ends_before_close {ending : List Token}
    (reads : Reads (.inString []) (text ++ ['"', '\x7d']) tokens last)
    (finished : last.finish = some ending) :
    ∃ inside units, Reads (.inString []) text inside (.inString units) ∧
      ending = [] ∧ tokens = inside ++ [.string units, .closeObject] := by
  obtain ⟨inside, middle, remaining, start, more, rfl⟩ := reads.split
  rcases quote_cases more with ⟨units, rfl⟩ | ⟨before, units, inString⟩
  · have closes : Reads (.inString units) ['"', '\x7d'] [.string units, .closeObject] .between :=
      rfl
    obtain ⟨rfl, rfl⟩ := closes.unique more
    cases finished
    exact ⟨inside, units, start, rfl, rfl⟩
  · have stays : Reads (.inString units) ['\x7d'] [] (.inString (units ++ utf16 '\x7d')) := rfl
    obtain ⟨-, rfl⟩ := (inString.append stays).unique more
    cases finished

/-- After a name without escapes, the text of the value starts in a string. -/
theorem opens_string (verbatim : ∀ char ∈ name, IsVerbatim char)
    (reads : Reads .between (memberText name (quoted text) ++ rest) tokens last) :
    ∃ others, Reads (.inString []) (text ++ '"' :: rest) others last ∧
      tokens = .string (utf16Units name) :: .colon :: others := by
  have opening : Reads .between ['"'] [] (.inString []) := rfl
  have split : Reads .between ((quoted name ++ [':'] ++ ['"']) ++ (text ++ '"' :: rest)) tokens
      last := by
    simpa [memberText, quoted] using reads
  obtain ⟨others, inside, rfl⟩ := ((reads_name verbatim).append opening).rest split
  exact ⟨others, inside, rfl⟩

/-- A member with any text in its string, up to the next name. -/
theorem field_before_name (verbatim : ∀ char ∈ name, IsVerbatim char) {next following : List Char}
    (bare : IsBareWord next) (noScalar : readScalar next = none)
    (follows : quoted next <+: following)
    (reads : Reads .between (memberText name (quoted text) ++ ',' :: following) tokens last) :
    ∃ inside units others, Reads (.inString []) text inside (.inString units) ∧
      Reads .between following others last ∧
      tokens = .string (utf16Units name) :: .colon ::
        (inside ++ .string units :: .comma :: others) := by
  obtain ⟨rest, rfl⟩ := follows
  obtain ⟨_, started, rfl⟩ := opens_string verbatim reads
  obtain ⟨inside, units, others, field, more, rfl⟩ :=
    ends_before_name bare noScalar started
  exact ⟨inside, units, others, field, more, rfl⟩

/-- The last member with any text in its string. -/
theorem field_before_close {ending : List Token} (verbatim : ∀ char ∈ name, IsVerbatim char)
    (reads : Reads .between (memberText name (quoted text) ++ ['\x7d']) tokens last)
    (finished : last.finish = some ending) :
    ∃ inside units, Reads (.inString []) text inside (.inString units) ∧ ending = [] ∧
      tokens = .string (utf16Units name) :: .colon ::
        (inside ++ [.string units, .closeObject]) := by
  obtain ⟨_, started, rfl⟩ := opens_string verbatim reads
  obtain ⟨inside, units, field, atEnd, rfl⟩ := ends_before_close started finished
  exact ⟨inside, units, field, atEnd, rfl⟩

theorem quoted_prefix_memberText (name value rest : List Char) :
    quoted name <+: memberText name value ++ rest :=
  ⟨':' :: (value ++ rest), by simp [memberText]⟩

/-! ## The tokens of a member whose text leaves its string -/

theorem weight_le_of_isInfix {piece : List Token} (isInfix : piece <:+: tokens) :
    weight piece ≤ weight tokens := by
  obtain ⟨before, after, rfl⟩ := isInfix
  rw [weight_append, weight_append]
  omega

theorem infix_of_infix_cons_cons {member : Member} {other : List UInt16}
    (isInfix : memberTokens member <:+: .string other :: .colon :: tokens) :
    member.1 = other ∧ member.2 ∈ tokens ∨ memberTokens member <:+: tokens := by
  rcases List.infix_cons_iff.mp isInfix with ⟨rest, start⟩ | isInfix
  · simp only [memberTokens, List.cons_append, List.cons.injEq, Token.string.injEq] at start
    obtain ⟨sameName, -, rfl⟩ := start
    exact .inl ⟨sameName, List.mem_cons_self⟩
  · rcases List.infix_cons_iff.mp isInfix with ⟨rest, start⟩ | isInfix
    · cases start
    · exact .inr isInfix

theorem mem_of_isInfix {member : Member} (isInfix : memberTokens member <:+: tokens) :
    member.2 ∈ tokens :=
  isInfix.subset (by simp [memberTokens])

theorem weight_field {units : List UInt16}
    (field : Reads (.inString []) text tokens (.inString units)) :
    weight (tokens ++ [.string units]) ≤ (utf16Units text).length + 2 := by
  have total := field.weight_le
  simp only [LexState.weight, List.length_nil] at total
  simp only [weight_append, weight_cons, weight_nil, Token.weight]
  omega

theorem weight_le_of_mem {units : List UInt16} (member : .string units ∈ tokens) :
    units.length + 2 ≤ weight tokens := by
  obtain ⟨before, after, rfl⟩ := List.append_of_mem member
  rw [weight_append, weight_cons, Token.weight]
  omega

/-- No string of the field is longer than its text. -/
theorem not_mem_field {units stored : List UInt16}
    (field : Reads (.inString []) text tokens (.inString units))
    (longer : (utf16Units text).length < stored.length) :
    .string stored ∉ tokens ++ [.string units] := by
  intro member
  have total := weight_field field
  have part := weight_le_of_mem member
  omega

/-- A field that brings its own text as a string is that string alone. -/
theorem verbatim_of_mem_field {units : List UInt16}
    (field : Reads (.inString []) text tokens (.inString units))
    (member : .string (utf16Units text) ∈ tokens ++ [.string units]) :
    ∀ char ∈ text, IsVerbatim char := by
  rcases List.mem_append.mp member with inside | closing
  · have part := weight_le_of_mem inside
    have total := field.weight_le
    simp only [LexState.weight, List.length_nil] at total
    omega
  · cases List.mem_singleton.mp closing
    exact verbatim_of_reads field (Nat.le_of_eq (Nat.zero_add _))

theorem infix_of_field {name other units closing : List UInt16} {rest : List Token}
    (isInfix : memberTokens (name, .string units) <:+:
      .string other :: .colon :: (tokens ++ .string closing :: .comma :: rest)) :
    memberTokens (name, .string units) <:+:
        .string other :: .colon :: (tokens ++ [.string closing]) ∨
      memberTokens (name, .string units) <:+: rest := by
  have split : memberTokens (name, .string units) <:+:
      (.string other :: .colon :: (tokens ++ [.string closing])) ++ .comma :: rest := by
    simpa using isInfix
  exact infix_of_not_mem split (by simp [memberTokens])

end Boundaries

end JsonTexts

end EchoMic
