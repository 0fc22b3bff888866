import EchoMic.ByteSearch
import EchoMic.GuardedRuns
import EchoMic.InterleavedFrames

/-!
# RTSP commands during streaming

While a stream runs, Core 1 polls the client socket between packets.  It
reads at most 511 bytes into a local buffer, searches that one chunk for the
two commands it knows, and forgets it.  The client sends requests and
interleaved binary frames on the same connection.  This file proves exactly
when every request is answered: the reads that show a command before their
first NUL byte must follow the requests one by one.
-/

namespace EchoMic

open ByteSearch GuardedRuns InterleavedFrames

def rtspBufSize : Nat := 512

/-- A 200 response with its CSeq, after which a TEARDOWN stops the stream. -/
structure Answer where
  cseqVal : Int
  stops : Bool
  deriving DecidableEq

/-- The bytes written to the client. -/
def Answer.resp (answer : Answer) : List UInt8 :=
  ascii ("RTSP/1.0 200 OK\r\nCSeq: " ++ toString answer.cseqVal ++ "\r\n\r\n")

/-- The number behind the first `CSeq: ` of the buffer. -/
def cseqValue (rtspBuf : List UInt8) : Int :=
  match strstr rtspBuf (ascii "CSeq: ") with
  | none => 1
  | some cseqStr => atoi ((cString rtspBuf).drop (cseqStr + 6))

def namesTeardown (rtspBuf : List UInt8) : Bool :=
  (strstr rtspBuf (ascii "TEARDOWN")).isSome

def namesGetParameter (rtspBuf : List UInt8) : Bool :=
  (strstr rtspBuf (ascii "GET_PARAMETER")).isSome

/-- The bytes read and the NUL behind them. -/
def rtspBuf (chunk : List UInt8) : List UInt8 :=
  chunk ++ [0]

/-- The handler on one chunk read from the socket. -/
def handleChunk (chunk : List UInt8) : Option Answer :=
  if chunk.length > 0 then
    if namesTeardown (rtspBuf chunk) then
      some ⟨cseqValue (rtspBuf chunk), true⟩
    else if namesGetParameter (rtspBuf chunk) then
      some ⟨cseqValue (rtspBuf chunk), false⟩
    else none
  else none

/-! ## What the client sends -/

inductive RtspMethod where
  | getParameter
  | teardown
  | options
  deriving DecidableEq

def RtspMethod.name : RtspMethod → List UInt8
  | .getParameter => ascii "GET_PARAMETER"
  | .teardown => ascii "TEARDOWN"
  | .options => ascii "OPTIONS"

structure HeaderField where
  name : List UInt8
  value : List UInt8
  deriving DecidableEq

def HeaderField.bytes (field : HeaderField) : List UInt8 :=
  field.name ++ ascii ":" ++ field.value ++ ascii "\r\n"

/-- Field names are compared without regard to case. -/
def HeaderField.isNamed (name : String) (field : HeaderField) : Bool :=
  field.name.map (fun byte => if 65 ≤ byte ∧ byte ≤ 90 then byte + 32 else byte) =
    ascii name

/-- The value of the first field of a name, without leading blanks. -/
def fieldValue (name : String) (fields : List HeaderField) : Option (List UInt8) :=
  (fields.find? (·.isNamed name)).map fun field => field.value.dropWhile (· = 32)

def OnOneLine (bytes : List UInt8) : Prop :=
  13 ∉ bytes ∧ 10 ∉ bytes

instance (bytes : List UInt8) : Decidable (OnOneLine bytes) :=
  inferInstanceAs (Decidable (_ ∧ _))

/-- A complete request with its sequence number. -/
structure StreamRequest where
  method : RtspMethod
  uri : List UInt8
  fields : List HeaderField
  body : List UInt8
  cseq : Nat
  uriLine : OnOneLine uri
  fieldLines : ∀ field ∈ fields, OnOneLine field.name ∧ OnOneLine field.value
  numbered : fieldValue "cseq" fields = some (ascii (toString cseq))
  bodyLength : body = [] ∨
    fieldValue "content-length" fields = some (ascii (toString body.length))

def StreamRequest.bytes (request : StreamRequest) : List UInt8 :=
  request.method.name ++ ascii " " ++ request.uri ++ ascii " RTSP/1.0\r\n" ++
    request.fields.flatMap HeaderField.bytes ++ ascii "\r\n" ++ request.body

inductive StreamItem where
  | request (request : StreamRequest)
  | frame (frame : Frame)

def StreamItem.bytes : StreamItem → List UInt8
  | .request sent => sent.bytes
  | .frame sent => sent.encode

def streamBytes (items : List StreamItem) : List UInt8 :=
  items.flatMap StreamItem.bytes

/-- The answers a client is owed: one for every GET_PARAMETER up to the first
TEARDOWN, and one for that TEARDOWN. -/
def owed : List StreamItem → List Answer
  | [] => []
  | .frame _ :: items => owed items
  | .request request :: items =>
      match request.method with
      | .options => owed items
      | .getParameter => ⟨request.cseq, false⟩ :: owed items
      | .teardown => [⟨request.cseq, true⟩]

/-- The items that lie within the first `count` bytes. -/
def completedItems : List StreamItem → Nat → List StreamItem
  | [], _ => []
  | item :: items, count =>
      if item.bytes.length ≤ count then
        item :: completedItems items (count - item.bytes.length)
      else []

/-- The items that start within the first `count` bytes. -/
def begunItems : List StreamItem → Nat → List StreamItem
  | [], _ => []
  | item :: items, count =>
      if 0 < count then item :: begunItems items (count - item.bytes.length)
      else []

/-! ## What the reads show of it -/

/-- A request that is to be answered: where it lies in the stream, its number,
and whether it is a TEARDOWN. -/
structure Command where
  begins : Nat
  ends : Nat
  cseq : Nat
  teardown : Bool
  deriving DecidableEq

/-- The GET_PARAMETER requests up to the first TEARDOWN, and that TEARDOWN, of
items that begin at `position`. -/
def commands : Nat → List StreamItem → List Command
  | _, [] => []
  | position, .frame frame :: items => commands (position + frame.encode.length) items
  | position, .request request :: items =>
      let behind := position + request.bytes.length
      match request.method with
      | .options => commands behind items
      | .getParameter => ⟨position, behind, request.cseq, false⟩ :: commands behind items
      | .teardown => [⟨position, behind, request.cseq, true⟩]

/-- The bytes a read at `position` delivers when `available` bytes wait. -/
def chunkAt (items : List StreamItem) (position available : Nat) : List UInt8 :=
  ((streamBytes items).drop position).take (min available (rtspBufSize - 1))

/-- A text stands in the bytes of the chunk before its first NUL. -/
def Shows (chunk : List UInt8) (text : String) : Prop :=
  ascii text <:+: cString chunk

instance (chunk : List UInt8) (text : String) : Decidable (Shows chunk text) :=
  List.decidableInfix _ _

def ShowsCommand (chunk : List UInt8) : Prop :=
  Shows chunk "TEARDOWN" ∨ Shows chunk "GET_PARAMETER"

instance (chunk : List UInt8) : Decidable (ShowsCommand chunk) :=
  inferInstanceAs (Decidable (_ ∨ _))

/-- The first `CSeq: ` in the chunk before its first NUL is followed by the
number; without one the number is 1. -/
def ShowsNumber (chunk : List UInt8) (number : Nat) : Prop :=
  match behindFirst (ascii "CSeq: ") (cString chunk) with
  | none => number = 1
  | some behind => atoi behind = number

instance (chunk : List UInt8) (number : Nat) : Decidable (ShowsNumber chunk number) := by
  unfold ShowsNumber
  split <;> infer_instance

/-- A chunk that ends at `last` shows a command that has begun to arrive. -/
structure ShowsRequest (chunk : List UInt8) (last : Nat) (command : Command) : Prop where
  begun : command.begins < last
  kind : Shows chunk "TEARDOWN" ↔ command.teardown = true
  number : ShowsNumber chunk command.cseq

instance (chunk : List UInt8) (last : Nat) (command : Command) :
    Decidable (ShowsRequest chunk last command) :=
  decidable_of_iff
    (command.begins < last ∧ (Shows chunk "TEARDOWN" ↔ command.teardown = true) ∧
      ShowsNumber chunk command.cseq)
    ⟨fun shows => ⟨shows.1, shows.2.1, shows.2.2⟩,
      fun shows => ⟨shows.begun, shows.kind, shows.number⟩⟩

/-- The next of the remaining commands is not complete at `last`. -/
def NoneComplete (remaining : List Command) (last : Nat) : Prop :=
  ∀ command ∈ remaining.head?, last < command.ends

instance (remaining : List Command) (last : Nat) : Decidable (NoneComplete remaining last) :=
  inferInstanceAs (Decidable (∀ command ∈ remaining.head?, last < command.ends))

/-- A chunk that shows a command shows the next one of `remaining`, and no
command is complete at its end that has not been shown. -/
def ChunkMatches (remaining : List Command) (chunk : List UInt8) (last : Nat) : Prop :=
  if ShowsCommand chunk then
    (∃ command ∈ remaining.head?, ShowsRequest chunk last command) ∧
      NoneComplete remaining.tail last
  else NoneComplete remaining last

instance (remaining : List Command) (chunk : List UInt8) (last : Nat) :
    Decidable (ChunkMatches remaining chunk last) :=
  if shows : ShowsCommand chunk then
    decidable_of_iff
      ((∃ command ∈ remaining.head?, ShowsRequest chunk last command) ∧
        NoneComplete remaining.tail last)
      (by rw [ChunkMatches, if_pos shows])
  else decidable_of_iff (NoneComplete remaining last) (by rw [ChunkMatches, if_neg shows])

/-- From `position` on, the reads show the commands of `remaining` one by one.
Nothing is asked of the reads behind one that shows a TEARDOWN. -/
def ShownInTurn (items : List StreamItem) : Nat → List Command → List Nat → Prop
  | _, _, [] => True
  | position, remaining, available :: polls =>
      let chunk := chunkAt items position available
      let last := position + chunk.length
      ChunkMatches remaining chunk last ∧
        (¬ Shows chunk "TEARDOWN" →
          ShownInTurn items last
            (if ShowsCommand chunk then remaining.tail else remaining) polls)

instance decidableShownInTurn (items : List StreamItem) :
    ∀ position remaining polls, Decidable (ShownInTurn items position remaining polls)
  | _, _, [] => .isTrue trivial
  | position, remaining, available :: polls =>
      let chunk := chunkAt items position available
      have := decidableShownInTurn items (position + chunk.length)
        (if ShowsCommand chunk then remaining.tail else remaining) polls
      inferInstanceAs (Decidable (_ ∧ (_ → _)))

/-! ## The handler over a run of reads -/

/-- The bytes read so far, the answers given, the bytes they put on the
socket, and `isStreaming`. -/
structure InStream where
  bytesRead : Nat
  answers : List Answer
  written : List UInt8
  isStreaming : Bool
  deriving DecidableEq

def InStream.start : InStream where
  bytesRead := 0
  answers := []
  written := []
  isStreaming := true

/-- What the next poll reads when `available` bytes wait. -/
def nextChunk (items : List StreamItem) (state : InStream) (available : Nat) :
    List UInt8 :=
  chunkAt items state.bytesRead available

/-- One poll.  Core 1 polls only while it streams. -/
def pollStep (items : List StreamItem) (state : InStream) (available : Nat) :
    Option InStream :=
  if state.isStreaming then
    let chunk := nextChunk items state available
    let answer := handleChunk chunk
    some
      { bytesRead := state.bytesRead + chunk.length
        answers := state.answers ++ answer.toList
        written := state.written ++ answer.toList.flatMap Answer.resp
        isStreaming := !answer.any Answer.stops }
  else none

/-- The answers include those owed for the requests received and none beyond
those owed for the requests that have begun to arrive, their responses are
what has been written, and the stream is stopped when a TEARDOWN has been
answered. -/
structure AnsweredSoFar (items : List StreamItem) (state : InStream) : Prop where
  received : owed (completedItems items state.bytesRead) <+: state.answers
  begun : state.answers <+: owed (begunItems items state.bytesRead)
  responses : state.written = state.answers.flatMap Answer.resp
  stopped : state.isStreaming = false ↔ ∃ answer ∈ state.answers, answer.stops

/-- `AnsweredSoFar` after every poll. -/
def AnsweredThroughout (items : List StreamItem) (polls : List Nat) : Prop :=
  ∀ before rest, polls = before ++ rest →
    ∀ state, run (pollStep items) InStream.start before = some state →
      AnsweredSoFar items state

/-! ## Owed answers grow with the bytes read -/

theorem owed_isInitial {first second : List StreamItem} (front : first <+: second) :
    owed first <+: owed second := by
  obtain ⟨more, rfl⟩ := front
  induction first with
  | nil => exact List.nil_prefix
  | cons item items ih =>
      cases item with
      | frame frame => exact ih
      | request request =>
          simp only [List.cons_append, owed]
          cases request.method with
          | options => exact ih
          | getParameter => exact (List.prefix_cons_inj _).mpr ih
          | teardown => exact List.prefix_refl _

theorem begunItems_isInitial (items : List StreamItem) {first second : Nat}
    (le : first ≤ second) :
    begunItems items first <+: begunItems items second := by
  induction items generalizing first second with
  | nil => exact List.prefix_refl _
  | cons item items ih =>
      simp only [begunItems]
      by_cases started : 0 < first
      · rw [if_pos started, if_pos (by omega), List.prefix_cons_inj]
        exact ih (by omega)
      · rw [if_neg started]
        exact List.nil_prefix

theorem StreamItem.bytes_pos (item : StreamItem) : 0 < item.bytes.length := by
  cases item with
  | frame frame =>
      rw [StreamItem.bytes, Frame.encode_length]
      omega
  | request request =>
      have blank : (ascii " ").length = 1 := by decide
      simp only [StreamItem.bytes, StreamRequest.bytes, List.length_append]
      omega

theorem completedItems_prefix_begunItems (items : List StreamItem) (count : Nat) :
    completedItems items count <+: begunItems items count := by
  induction items generalizing count with
  | nil => exact List.prefix_refl _
  | cons item items ih =>
      have positive := item.bytes_pos
      simp only [completedItems, begunItems]
      by_cases inside : item.bytes.length ≤ count
      · rw [if_pos inside, if_pos (by omega), List.prefix_cons_inj]
        exact ih _
      · rw [if_neg inside]
        exact List.nil_prefix

/-! ## Owed answers are those to the commands of the stream -/

def Command.answer (command : Command) : Answer :=
  ⟨command.cseq, command.teardown⟩

theorem commands_from (position : Nat) (items : List StreamItem) :
    ∀ command ∈ commands position items,
      position ≤ command.begins ∧ command.begins < command.ends := by
  induction items generalizing position with
  | nil => exact fun _ impossible => nomatch impossible
  | cons item items ih =>
      intro command member
      have positive := item.bytes_pos
      cases item with
      | frame frame =>
          obtain ⟨begins, ends⟩ := ih _ command member
          exact ⟨by omega, ends⟩
      | request request =>
          rw [StreamItem.bytes] at positive
          simp only [commands] at member
          cases method : request.method <;> rw [method] at member
          case options =>
            obtain ⟨begins, ends⟩ := ih _ command member
            exact ⟨by omega, ends⟩
          case getParameter =>
            rcases List.mem_cons.mp member with rfl | later
            · exact ⟨le_rfl, by dsimp only; omega⟩
            · obtain ⟨begins, ends⟩ := ih _ command later
              exact ⟨by omega, ends⟩
          case teardown =>
            cases List.mem_singleton.mp member
            exact ⟨le_rfl, by dsimp only; omega⟩

/-- The commands lie in the stream one behind the other. -/
theorem commands_sorted (position : Nat) (items : List StreamItem) :
    (commands position items).Pairwise fun first second =>
      first.begins < second.begins ∧ first.ends < second.ends := by
  induction items generalizing position with
  | nil => exact List.Pairwise.nil
  | cons item items ih =>
      have positive := item.bytes_pos
      cases item with
      | frame frame => exact ih _
      | request request =>
          rw [StreamItem.bytes] at positive
          simp only [commands]
          cases request.method with
          | options => exact ih _
          | teardown => exact List.pairwise_singleton _ _
          | getParameter =>
              refine List.pairwise_cons.mpr ⟨fun command member => ?_, ih _⟩
              obtain ⟨begins, ends⟩ := commands_from _ items command member
              dsimp only
              omega

/-- No command ends before the first item does. -/
theorem le_ends_of_mem_commands (position : Nat) (item : StreamItem) (items : List StreamItem) :
    ∀ command ∈ commands position (item :: items),
      position + item.bytes.length ≤ command.ends := by
  have later (command : Command)
      (member : command ∈ commands (position + item.bytes.length) items) :
      position + item.bytes.length ≤ command.ends := by
    obtain ⟨begins, ends⟩ := commands_from _ items command member
    omega
  cases item with
  | frame frame => exact later
  | request request =>
      simp only [commands]
      cases request.method with
      | options => exact later
      | getParameter =>
          intro command member
          rcases List.mem_cons.mp member with rfl | member
          · exact le_rfl
          · exact later command member
      | teardown =>
          intro command member
          cases List.mem_singleton.mp member
          exact le_rfl

theorem takeWhile_eq_nil_of_forall {α : Type*} {holds : α → Bool} {list : List α}
    (none : ∀ member ∈ list, ¬ holds member = true) : list.takeWhile holds = [] := by
  cases list with
  | nil => rfl
  | cons first rest => exact List.takeWhile_cons_of_neg (none first List.mem_cons_self)

theorem owed_completedItems (items : List StreamItem) (position last : Nat) :
    owed (completedItems items (last - position)) =
      ((commands position items).takeWhile (·.ends ≤ last)).map Command.answer := by
  induction items generalizing position with
  | nil => rfl
  | cons item items ih =>
      have positive := item.bytes_pos
      rw [completedItems]
      by_cases inside : item.bytes.length ≤ last - position
      · have rest := ih (position + item.bytes.length)
        have ends : position + item.bytes.length ≤ last := by omega
        rw [if_pos inside, Nat.sub_sub]
        cases item with
        | frame frame => exact rest
        | request request =>
            simp only [StreamItem.bytes] at rest ends ⊢
            simp only [owed, commands]
            cases request.method with
            | options => exact rest
            | getParameter => simp [ends, rest, Command.answer]
            | teardown => simp [ends, Command.answer]
      · rw [if_neg inside, takeWhile_eq_nil_of_forall]
        · rfl
        · intro command member
          have ends := le_ends_of_mem_commands position item items command member
          simp only [decide_eq_true_eq]
          omega

theorem owed_begunItems (items : List StreamItem) (position last : Nat) :
    owed (begunItems items (last - position)) =
      ((commands position items).takeWhile (·.begins < last)).map Command.answer := by
  induction items generalizing position with
  | nil => rfl
  | cons item items ih =>
      rw [begunItems]
      by_cases started : 0 < last - position
      · have rest := ih (position + item.bytes.length)
        have begins : position < last := by omega
        rw [if_pos started, Nat.sub_sub]
        cases item with
        | frame frame => exact rest
        | request request =>
            simp only [StreamItem.bytes] at rest ⊢
            simp only [owed, commands]
            cases request.method with
            | options => exact rest
            | getParameter => simp [begins, rest, Command.answer]
            | teardown => simp [begins, Command.answer]
      · rw [if_neg started, takeWhile_eq_nil_of_forall]
        · rfl
        · intro command member
          have begins := (commands_from position _ command member).1
          simp only [decide_eq_true_eq]
          omega

/-- What is taken from the front of a sorted list does not depend on what has
been dropped before. -/
theorem drop_takeWhile_of_pairwise {α : Type*} {holds : α → Bool} {list : List α}
    (sorted : list.Pairwise fun first second => holds second = true → holds first = true)
    (count : Nat) : (list.takeWhile holds).drop count = (list.drop count).takeWhile holds := by
  induction list generalizing count with
  | nil => simp
  | cons first rest ih =>
      obtain ⟨before, sortedRest⟩ := List.pairwise_cons.mp sorted
      cases count with
      | zero => rfl
      | succ count =>
          by_cases here : holds first = true
          · rw [List.takeWhile_cons_of_pos here, List.drop_succ_cons, List.drop_succ_cons]
            exact ih sortedRest count
          · rw [List.takeWhile_cons_of_neg here, List.drop_nil, takeWhile_eq_nil_of_forall]
            intro member inRest later
            exact here (before member (List.mem_of_mem_drop inRest) later)

/-! ## One poll -/

theorem namesTeardown_iff (chunk : List UInt8) :
    namesTeardown (rtspBuf chunk) = true ↔ Shows chunk "TEARDOWN" := by
  rw [namesTeardown, strstr_isSome_iff, rtspBuf, cString_append_nul, Shows]

theorem namesGetParameter_iff (chunk : List UInt8) :
    namesGetParameter (rtspBuf chunk) = true ↔ Shows chunk "GET_PARAMETER" := by
  rw [namesGetParameter, strstr_isSome_iff, rtspBuf, cString_append_nul, Shows]

theorem cseqValue_eq_iff (chunk : List UInt8) (number : Nat) :
    cseqValue (rtspBuf chunk) = number ↔ ShowsNumber chunk number := by
  rw [cseqValue, ShowsNumber, behindFirst, strstr, rtspBuf, cString_append_nul]
  cases firstOccurrence (ascii "CSeq: ") (cString chunk) with
  | none =>
      simp only [Option.map_none]
      omega
  | some position => exact Iff.rfl

theorem handleChunk_eq (chunk : List UInt8) :
    (handleChunk chunk = none ∧ ¬ ShowsCommand chunk) ∨
      (handleChunk chunk =
          some ⟨cseqValue (rtspBuf chunk), namesTeardown (rtspBuf chunk)⟩ ∧
        ShowsCommand chunk) := by
  unfold handleChunk ShowsCommand
  rw [← namesTeardown_iff, ← namesGetParameter_iff]
  cases chunk with
  | nil =>
      refine Or.inl ⟨rfl, ?_⟩
      decide
  | cons byte bytes =>
      rw [if_pos (by simp)]
      cases teardown : namesTeardown (rtspBuf (byte :: bytes)) with
      | true => exact Or.inr ⟨rfl, Or.inl rfl⟩
      | false =>
          cases getParameter : namesGetParameter (rtspBuf (byte :: bytes)) with
          | true => exact Or.inr ⟨rfl, Or.inr rfl⟩
          | false => exact Or.inl ⟨rfl, by simp⟩

/-- Everything one poll changes. -/
theorem pollStep_some {items : List StreamItem} {state next : InStream}
    {available : Nat} (stepped : pollStep items state available = some next) :
    state.isStreaming = true ∧
      next.bytesRead =
        state.bytesRead + (nextChunk items state available).length ∧
      next.answers =
        state.answers ++ (handleChunk (nextChunk items state available)).toList ∧
      next.written =
        state.written ++
          (handleChunk (nextChunk items state available)).toList.flatMap Answer.resp ∧
      next.isStreaming =
        !(handleChunk (nextChunk items state available)).any Answer.stops := by
  unfold pollStep at stepped
  split at stepped
  · cases stepped
    exact ⟨‹_›, rfl, rfl, rfl, rfl⟩
  · cases stepped

/-- Of a prefix, either nothing is left behind `written`, or what is left
follows it. -/
theorem drop_prefix_of_prefix_append {due written rest : List Answer}
    (within : due <+: written ++ rest) :
    due.drop written.length <+: rest ∧
      ∀ {more : List Answer}, due <+: written ++ more ↔ due.drop written.length <+: more := by
  rcases List.prefix_or_prefix_of_prefix within (List.prefix_append _ _) with
    short | ⟨left, rfl⟩
  · rw [List.drop_of_length_le short.length_le]
    exact ⟨List.nil_prefix, iff_of_true (short.trans (List.prefix_append _ _))
      List.nil_prefix⟩
  · rw [List.drop_left]
    rw [List.prefix_append_right_inj] at within
    exact ⟨within, List.prefix_append_right_inj _⟩

/-- The commands of the stream that have not been answered. -/
def InStream.remaining (items : List StreamItem) (state : InStream) : List Command :=
  (commands 0 items).drop state.answers.length

theorem drop_owed_completedItems (items : List StreamItem) (state : InStream) (last : Nat) :
    (owed (completedItems items last)).drop state.answers.length =
      ((state.remaining items).takeWhile (·.ends ≤ last)).map Command.answer := by
  have completed := owed_completedItems items 0 last
  rw [Nat.sub_zero] at completed
  rw [completed, ← List.map_drop, drop_takeWhile_of_pairwise, InStream.remaining]
  refine (commands_sorted 0 items).imp fun sorted => ?_
  simp only [decide_eq_true_eq]
  omega

theorem drop_owed_begunItems (items : List StreamItem) (state : InStream) (last : Nat) :
    (owed (begunItems items last)).drop state.answers.length =
      ((state.remaining items).takeWhile (·.begins < last)).map Command.answer := by
  have begun := owed_begunItems items 0 last
  rw [Nat.sub_zero] at begun
  rw [begun, ← List.map_drop, drop_takeWhile_of_pairwise, InStream.remaining]
  refine (commands_sorted 0 items).imp fun sorted => ?_
  simp only [decide_eq_true_eq]
  omega

theorem takeWhile_ends_eq_nil_iff (remaining : List Command) (last : Nat) :
    remaining.takeWhile (·.ends ≤ last) = [] ↔ NoneComplete remaining last := by
  cases remaining with
  | nil => simp [NoneComplete]
  | cons command others =>
      simp [NoneComplete, List.takeWhile_cons]

theorem showsRequest_iff (chunk : List UInt8) (last : Nat) (command : Command) :
    ShowsRequest chunk last command ↔
      command.begins < last ∧
        command.answer = ⟨cseqValue (rtspBuf chunk), namesTeardown (rtspBuf chunk)⟩ := by
  have kind : (Shows chunk "TEARDOWN" ↔ command.teardown = true) ↔
      command.teardown = namesTeardown (rtspBuf chunk) := by
    rw [← namesTeardown_iff, ← Bool.eq_iff_iff, eq_comm]
  rw [Command.answer, Answer.mk.injEq, ← kind, eq_comm (a := (command.cseq : Int)),
    cseqValue_eq_iff]
  exact ⟨fun shows => ⟨shows.begun, shows.number, shows.kind⟩,
    fun shows => ⟨shows.1, shows.2.2, shows.2.1⟩⟩

theorem noneComplete_of_lt_ends {command : Command} {others : List Command} {last : Nat}
    (sorted : (command :: others).Pairwise fun first second =>
      first.begins < second.begins ∧ first.ends < second.ends)
    (incomplete : last < command.ends) : NoneComplete others last := by
  intro next head
  have later := (List.pairwise_cons.mp sorted).1 next (List.mem_of_mem_head? head)
  omega

/-- When the answers so far are right, they stay right exactly when the chunk
matches the commands that remain. -/
theorem answers_iff_chunkMatches {items : List StreamItem} {state : InStream}
    (soFar : AnsweredSoFar items state) (available : Nat) :
    let chunk := nextChunk items state available
    let last := state.bytesRead + chunk.length
    (owed (completedItems items last) <+: state.answers ++ (handleChunk chunk).toList ∧
        state.answers ++ (handleChunk chunk).toList <+: owed (begunItems items last)) ↔
      ChunkMatches (state.remaining items) chunk last := by
  intro chunk last
  have later : state.bytesRead ≤ last := Nat.le_add_right _ _
  obtain ⟨rest, begunEq⟩ :=
    soFar.begun.trans (owed_isInitial (begunItems_isInitial items later))
  have restEq := drop_owed_begunItems items state last
  rw [← begunEq, List.drop_left] at restEq
  have within := owed_isInitial (completedItems_prefix_begunItems items last)
  rw [← begunEq] at within ⊢
  rw [List.prefix_append_right_inj]
  obtain ⟨-, dueIff⟩ := drop_prefix_of_prefix_append within
  rw [dueIff, drop_owed_completedItems, restEq]
  have sorted : (state.remaining items).Pairwise fun first second =>
      first.begins < second.begins ∧ first.ends < second.ends :=
    (commands_sorted 0 items).sublist (List.drop_sublist _ _)
  rcases handleChunk_eq chunk with ⟨outcome, silent⟩ | ⟨outcome, shows⟩
  · rw [outcome, Option.toList_none, List.prefix_nil, List.map_eq_nil_iff,
      takeWhile_ends_eq_nil_iff, ChunkMatches, if_neg silent]
    exact and_iff_left List.nil_prefix
  · rw [outcome, Option.toList_some, ChunkMatches, if_pos shows]
    cases remaining : state.remaining items with
    | nil => simp
    | cons command others =>
        rw [remaining] at sorted
        have first : (∃ command' ∈ (command :: others).head?,
            ShowsRequest chunk last command') ↔ ShowsRequest chunk last command := by simp
        rw [first, showsRequest_iff, List.tail_cons]
        by_cases begun : command.begins < last
        · have open' : (command :: others).takeWhile (·.begins < last) =
              command :: others.takeWhile (·.begins < last) :=
            List.takeWhile_cons_of_pos (decide_eq_true begun)
          rw [open', List.map_cons, List.cons_prefix_cons, and_iff_left List.nil_prefix,
            eq_comm (b := command.answer), and_iff_right begun]
          by_cases complete : command.ends ≤ last
          · have due : (command :: others).takeWhile (·.ends ≤ last) =
                command :: others.takeWhile (·.ends ≤ last) :=
              List.takeWhile_cons_of_pos (decide_eq_true complete)
            rw [due, List.map_cons, List.cons_prefix_cons, List.prefix_nil, List.map_eq_nil_iff,
              takeWhile_ends_eq_nil_iff]
            exact ⟨fun both => both.1, fun both => ⟨both, both.1⟩⟩
          · have none : (command :: others).takeWhile (·.ends ≤ last) = [] :=
              List.takeWhile_cons_of_neg (by simpa using complete)
            rw [none, List.map_nil, and_iff_right List.nil_prefix,
              and_iff_left (noneComplete_of_lt_ends sorted (not_le.mp complete))]
        · simp [begun]

theorem stopped_step {items : List StreamItem} {state next : InStream}
    {available : Nat} (soFar : AnsweredSoFar items state)
    (stepped : pollStep items state available = some next) :
    next.isStreaming = false ↔ ∃ answer ∈ next.answers, answer.stops := by
  obtain ⟨running, -, answersEq, -, streamingEq⟩ := pollStep_some stepped
  have noneStops : ∀ answer ∈ state.answers, ¬ answer.stops = true := by
    intro answer member stops
    have stopped := soFar.stopped.mpr ⟨answer, member, stops⟩
    rw [running] at stopped
    cases stopped
  rw [answersEq, streamingEq]
  cases handleChunk (nextChunk items state available) with
  | none =>
      simp only [Option.any_none, Bool.not_false, Option.toList_none, List.append_nil,
        Bool.true_eq_false, false_iff, not_exists, not_and]
      exact noneStops
  | some answer =>
      simp only [Option.any_some, Bool.not_eq_false', Option.toList_some, List.mem_append,
        List.mem_singleton]
      constructor
      · exact fun stops => ⟨answer, Or.inr rfl, stops⟩
      · rintro ⟨_, old | rfl, stops⟩
        · exact absurd stops (noneStops _ old)
        · exact stops

theorem answeredSoFar_step_iff {items : List StreamItem} {state next : InStream}
    {available : Nat} (soFar : AnsweredSoFar items state)
    (stepped : pollStep items state available = some next) :
    AnsweredSoFar items next ↔
      ChunkMatches (state.remaining items) (nextChunk items state available) next.bytesRead := by
  obtain ⟨-, readEq, answersEq, writtenEq, -⟩ := pollStep_some stepped
  have answersIff := answers_iff_chunkMatches soFar available
  dsimp only at answersIff
  rw [← readEq, ← answersEq] at answersIff
  rw [← answersIff]
  constructor
  · exact fun answered => ⟨answered.received, answered.begun⟩
  · rintro ⟨received, begun⟩
    refine ⟨received, begun, ?_, stopped_step soFar stepped⟩
    rw [writtenEq, answersEq, soFar.responses, List.flatMap_append]

theorem answeredSoFar_start (items : List StreamItem) :
    AnsweredSoFar items InStream.start where
  received := by
    cases items with
    | nil => exact List.prefix_refl _
    | cons item items =>
        have positive := item.bytes_pos
        rw [completedItems, if_neg (by simp only [InStream.start]; omega)]
        exact List.nil_prefix
  begun := List.nil_prefix
  responses := rfl
  stopped := by simp [InStream.start]

/-- What a poll leaves of the commands, and whether it stops the stream. -/
theorem pollStep_shows {items : List StreamItem} {state next : InStream} {available : Nat}
    (stepped : pollStep items state available = some next) :
    next.remaining items =
        (if ShowsCommand (nextChunk items state available) then (state.remaining items).tail
          else state.remaining items) ∧
      (next.isStreaming = true ↔ ¬ Shows (nextChunk items state available) "TEARDOWN") := by
  obtain ⟨-, -, answersEq, -, streamingEq⟩ := pollStep_some stepped
  rw [InStream.remaining, answersEq, streamingEq]
  rcases handleChunk_eq (nextChunk items state available) with
    ⟨outcome, silent⟩ | ⟨outcome, shows⟩
  · rw [outcome, if_neg silent, Option.toList_none, List.append_nil]
    exact ⟨rfl, iff_of_true rfl fun teardown => silent (Or.inl teardown)⟩
  · rw [outcome, if_pos shows, Option.toList_some, List.length_append, InStream.remaining,
      List.tail_drop, ← namesTeardown_iff]
    exact ⟨rfl, by simp⟩

theorem run_of_stopped {items : List StreamItem} {state last : InStream} {polls : List Nat}
    (stopped : ¬ state.isStreaming = true)
    (ran : run (pollStep items) state polls = some last) : last = state := by
  cases polls with
  | nil =>
      cases ran
      rfl
  | cons available polls =>
      obtain ⟨next, stepped, -⟩ := run_cons_some ran
      exact absurd (pollStep_some stepped).1 stopped

/-- The answers stay right in a run from a state where they are right exactly
when the reads show the remaining commands in turn. -/
theorem answeredSoFar_iff_shownInTurn (items : List StreamItem) (polls : List Nat)
    {state : InStream} (soFar : AnsweredSoFar items state) (running : state.isStreaming = true) :
    (∀ before rest, polls = before ++ rest →
        ∀ last, run (pollStep items) state before = some last → AnsweredSoFar items last) ↔
      ShownInTurn items state.bytesRead (state.remaining items) polls := by
  induction polls generalizing state with
  | nil =>
      refine ⟨fun _ => trivial, fun _ before rest split last ran => ?_⟩
      obtain ⟨rfl, -⟩ := List.append_eq_nil_iff.mp split.symm
      cases ran
      exact soFar
  | cons available polls ih =>
      obtain ⟨next, stepped⟩ : ∃ next, pollStep items state available = some next := by
        rw [pollStep, if_pos running]
        exact ⟨_, rfl⟩
      have stepIff := answeredSoFar_step_iff soFar stepped
      have readEq := (pollStep_some stepped).2.1
      obtain ⟨remainingEq, streamingIff⟩ := pollStep_shows stepped
      have shown : ShownInTurn items state.bytesRead (state.remaining items)
            (available :: polls) ↔
          ChunkMatches (state.remaining items) (nextChunk items state available)
              next.bytesRead ∧
            (next.isStreaming = true →
              ShownInTurn items next.bytesRead (next.remaining items) polls) := by
        rw [readEq, remainingEq, streamingIff]
        rfl
      rw [shown, ← stepIff]
      constructor
      · intro answered
        have soFarNext := answered [available] polls rfl next (by rw [run_cons, stepped]; rfl)
        refine ⟨soFarNext, fun streams => (ih soFarNext streams).mp ?_⟩
        rintro before rest rfl last ran
        refine answered (available :: before) rest rfl last ?_
        rw [run_cons, stepped]
        exact ran
      · rintro ⟨soFarNext, later⟩ before rest split last ran
        cases before with
        | nil =>
            cases ran
            exact soFar
        | cons first before =>
            obtain ⟨rfl, rfl⟩ := List.cons.inj split
            obtain ⟨other, steppedOther, ranRest⟩ := run_cons_some ran
            cases stepped.symm.trans steppedOther
            by_cases streams : next.isStreaming = true
            · exact (ih soFarNext streams).mpr (later streams) before rest rfl last ranRest
            · rw [run_of_stopped streams ranRest]
              exact soFarNext

/-- A keep-alive request. -/
def keepAlive : StreamRequest where
  method := .getParameter
  uri := ascii "rtsp://mic/audio/"
  fields := [⟨ascii "CSeq", ascii " 5"⟩]
  body := []
  cseq := 5
  uriLine := by decide
  fieldLines := by decide
  numbered := by decide
  bodyLength := by decide

/-- The start of an RTCP receiver report, on channel 1. -/
def receiverReport : Frame where
  channel := 1
  payload := [0x80, 0xc9, 0x00, 0x01, 0x43, 0x21, 0x56, 0x78]
  payload_lt := by decide

/-- Read apart from each other, the report and the request behind it are
handled. -/
example : ShownInTurn [.frame receiverReport, .request keepAlive] 0
    (commands 0 [.frame receiverReport, .request keepAlive]) [12, 511] := by
  decide

end EchoMic
