import EchoMic.InStreamRtsp
import Mathlib.Data.List.DropRight

/-!
# Replies to RTSP requests

`handleRTSPCommand` answers a request that `processRTSP` has cut out of the
buffer.  It takes the sequence number from the first `CSeq: ` in the text,
wherever that stands.  This file models the replies to all six methods and
proves for which requests they carry the number of the request.
-/

namespace EchoMic

open ByteSearch

/-! ## Arduino strings -/

/-- `String::indexOf`, with -1 for a pattern that does not occur. -/
def indexOf (text pattern : List UInt8) (fromIndex : Nat) : Int :=
  match firstOccurrence pattern (text.drop fromIndex) with
  | none => -1
  | some position => fromIndex + position

/-- `String::substring`.  Its arguments are unsigned, so that a negative end
lies behind the end of the text. -/
def substring (text : List UInt8) (left : Nat) (right : Int) : List UInt8 :=
  let right := if right < 0 then text.length else right.toNat
  if left > right then (text.drop right).take (left - right)
  else (text.drop left).take (right - left)

/-- `String::trim` -/
def trimSpaces (text : List UInt8) : List UInt8 :=
  (text.dropWhile isSpace).rdropWhile isSpace

def decimalText (value : Nat) : List UInt8 :=
  ascii (toString value)

/-! ## The handler -/

/-- What the handler reads and writes besides the flags that hand the stream
over to Core 1. -/
structure RtspServer where
  localIP : List UInt8
  currentSampleRate : UInt32
  rtspSessionId : List UInt8
  lastRTSPActivity : UInt32
  rtpSequence : UInt16
  rtpTimestamp : UInt32
  audioPacketsSent : UInt32
  audioPacketsDropped : UInt32
  lastStatsReset : UInt32
  lastRtspPlayMs : UInt32
  rtspPlayCount : UInt32
  deriving DecidableEq

def cseqMark : List UInt8 :=
  ascii "CSeq: "

/-- The `cseq` of the handler. -/
def cseqOf (request : List UInt8) : List UInt8 :=
  let cseqPos := indexOf request cseqMark 0
  if cseqPos ≥ 0 then
    trimSpaces (substring request (cseqPos + 6).toNat
      (indexOf request (ascii "\r") cseqPos.toNat))
  else ascii "1"

def RtspServer.sdp (server : RtspServer) : List UInt8 :=
  ascii "v=0\r\n" ++
    (ascii "o=- 0 0 IN IP4 " ++ server.localIP ++ ascii "\r\n") ++
    (ascii "s=ESP32 RTSP Mic (" ++ decimalText server.currentSampleRate.toNat ++
      ascii "Hz, 16-bit PCM)\r\n") ++
    (ascii "c=IN IP4 " ++ server.localIP ++ ascii "\r\n") ++
    ascii "t=0 0\r\n" ++
    ascii "m=audio 0 RTP/AVP 96\r\n" ++
    (ascii "a=rtpmap:96 L16/" ++ decimalText server.currentSampleRate.toNat ++
      ascii "/1\r\n") ++
    ascii "a=control:track1\r\n"

/-- The first two lines of every reply. -/
def replyHead (cseq : List UInt8) : List UInt8 :=
  ascii "RTSP/1.0 200 OK\r\n" ++ (ascii "CSeq: " ++ cseq ++ ascii "\r\n")

/-- A PLAY sets the counters of the stream back. -/
def RtspServer.play (server : RtspServer) (now : UInt32) : RtspServer :=
  { server with
    rtpSequence := 0
    rtpTimestamp := 0
    audioPacketsSent := 0
    audioPacketsDropped := 0
    lastStatsReset := now
    lastRtspPlayMs := now
    rtspPlayCount := server.rtspPlayCount + 1 }

/-- The handler at time `now`, with the number that `random` gives: what it
leaves behind and what it sends. -/
def handleRTSPCommand (now : UInt32) (random : Nat) (server : RtspServer)
    (request : List UInt8) : RtspServer × List UInt8 :=
  let cseq := cseqOf request
  let server := { server with lastRTSPActivity := now }
  if (ascii "OPTIONS").isPrefixOf request then
    (server, replyHead cseq ++
      ascii "Public: OPTIONS, DESCRIBE, SETUP, PLAY, TEARDOWN, GET_PARAMETER\r\n\r\n")
  else if (ascii "DESCRIBE").isPrefixOf request then
    (server, replyHead cseq ++
      (ascii "Content-Type: application/sdp\r\n" ++
        (ascii "Content-Base: rtsp://" ++ server.localIP ++ ascii ":8554/audio/\r\n") ++
        (ascii "Content-Length: " ++ decimalText server.sdp.length ++ ascii "\r\n\r\n") ++
        server.sdp))
  else if (ascii "SETUP").isPrefixOf request then
    let server := { server with rtspSessionId := decimalText random }
    (server, replyHead cseq ++
      (ascii "Session: " ++ server.rtspSessionId ++ ascii ";timeout=86400\r\n" ++
        ascii "Transport: RTP/AVP/TCP;unicast;interleaved=0-1\r\n\r\n"))
  else if (ascii "PLAY").isPrefixOf request then
    (server.play now, replyHead cseq ++
      (ascii "Session: " ++ server.rtspSessionId ++ ascii "\r\n" ++
        ascii "Range: npt=0.000-\r\n\r\n"))
  else if (ascii "TEARDOWN").isPrefixOf request then
    (server, replyHead cseq ++
      (ascii "Session: " ++ server.rtspSessionId ++ ascii "\r\n\r\n"))
  else if (ascii "GET_PARAMETER").isPrefixOf request then
    (server, replyHead cseq ++ ascii "\r\n")
  else (server, [])

/-! ## Requests with one CSeq header -/

/-- The methods that `handleRTSPCommand` knows. -/
inductive RtspCommand where
  | options
  | describe
  | setup
  | play
  | teardown
  | getParameter
  deriving DecidableEq

def RtspCommand.name : RtspCommand → List UInt8
  | .options => ascii "OPTIONS"
  | .describe => ascii "DESCRIBE"
  | .setup => ascii "SETUP"
  | .play => ascii "PLAY"
  | .teardown => ascii "TEARDOWN"
  | .getParameter => ascii "GET_PARAMETER"

/-- A header line without its end. -/
def HeaderField.line (field : HeaderField) : List UInt8 :=
  field.name ++ ascii ":" ++ field.value

/-- A name and a value on one line, which is cut at its first colon. -/
structure HeaderField.WellFormed (field : HeaderField) : Prop where
  name : OnOneLine field.name
  value : OnOneLine field.value
  colon : 58 ∉ field.name

/-- A request as it is passed to the handler, without the empty line at its
end.  Exactly one of its headers is named CSeq. -/
structure NumberedRequest where
  command : RtspCommand
  uri : List UInt8
  version : List UInt8
  before : List HeaderField
  cseq : HeaderField
  after : List HeaderField
  uriLine : OnOneLine uri
  versionLine : OnOneLine version
  named : cseq.isNamed "cseq" = true
  otherNames : ∀ field ∈ before ++ after, field.isNamed "cseq" = false
  wellFormed : ∀ field ∈ before ++ cseq :: after, field.WellFormed

namespace NumberedRequest

def requestLine (request : NumberedRequest) : List UInt8 :=
  request.command.name ++ ascii " " ++ request.uri ++ ascii " " ++ request.version

def headers (request : NumberedRequest) : List HeaderField :=
  request.before ++ request.cseq :: request.after

def text (request : NumberedRequest) : List UInt8 :=
  request.requestLine ++ request.headers.flatMap fun field => ascii "\r\n" ++ field.line

def number (request : NumberedRequest) : List UInt8 :=
  trimSpaces request.cseq.value

/-- The lines before the CSeq header. -/
def linesBefore (request : NumberedRequest) : List (List UInt8) :=
  request.requestLine :: request.before.map HeaderField.line

def linesAfter (request : NumberedRequest) : List (List UInt8) :=
  request.after.map HeaderField.line

end NumberedRequest

/-- The CSeq line of the reply carries the value of the header. -/
def EchoesCseq (now : UInt32) (random : Nat) (server : RtspServer)
    (request : NumberedRequest) : Prop :=
  ∃ rest, (handleRTSPCommand now random server request.text).2 =
    ascii "RTSP/1.0 200 OK\r\n" ++ (ascii "CSeq: " ++ request.number ++ ascii "\r\n") ++ rest

/-- What stands behind `CSeq: ` in the first line that has it. -/
def firstMarked (lines : List (List UInt8)) : Option (List UInt8) :=
  lines.findSome? (behindFirst cseqMark)

/-- The search comes to the CSeq header, or to something that says the same:
a line before the header, a line behind it when `CSeq: ` is not in the header
itself, or the default number. -/
inductive CseqFound (request : NumberedRequest) : Prop
  | spelled (before : firstMarked request.linesBefore = none)
      (name : request.cseq.name = ascii "CSeq") (blank : request.cseq.value.head? = some 32)
  | decoyBefore (behind : List UInt8) (before : firstMarked request.linesBefore = some behind)
      (same : trimSpaces behind = request.number)
  | decoyAfter (behind : List UInt8) (before : firstMarked request.linesBefore = none)
      (header : behindFirst cseqMark request.cseq.line = none)
      (after : firstMarked request.linesAfter = some behind)
      (same : trimSpaces behind = request.number)
  | default (before : firstMarked request.linesBefore = none)
      (header : behindFirst cseqMark request.cseq.line = none)
      (after : firstMarked request.linesAfter = none) (one : request.number = ascii "1")

/-! ## The number that the handler reads -/

/-- Between a mark and the next carriage return, or the end of the text. -/
theorem substring_upToReturn {request mark behind : List UInt8} {position : Nat}
    (atMark : request.drop position = mark ++ behind) (oneLine : 13 ∉ mark)
    (nonempty : mark ≠ []) :
    substring request (position + mark.length) (indexOf request (ascii "\r") position) =
      behind.takeWhile (· ≠ 13) := by
  have behindEq : request.drop (position + mark.length) = behind := by
    rw [← List.drop_drop, atMark, List.drop_left]
  have taken : (mark ++ behind).takeWhile (· ≠ 13) = mark ++ behind.takeWhile (· ≠ 13) := by
    rw [List.takeWhile_append, takeWhile_ne_of_notMem oneLine, if_pos rfl]
  have lengths := congrArg List.length atMark
  rw [List.length_drop, List.length_append] at lengths
  have markPositive := List.length_pos_iff.mpr nonempty
  have carriageReturn : ascii "\r" = [13] := by decide
  rw [indexOf, atMark, carriageReturn, firstOccurrence_singleton]
  by_cases member : (13 : UInt8) ∈ mark ++ behind
  · rw [if_pos member, taken, List.length_append]
    set upTo := behind.takeWhile (· ≠ 13) with upToEq
    have notNegative : ¬ (position : Int) + (mark.length + upTo.length : Nat) < 0 := by omega
    have toNatEq : ((position : Int) + (mark.length + upTo.length : Nat)).toNat =
        position + mark.length + upTo.length := by omega
    have difference : position + mark.length + upTo.length - (position + mark.length) =
        upTo.length := by omega
    simp only [substring, if_neg notNegative, toNatEq, behindEq, difference,
      if_neg (Nat.not_lt.mpr (Nat.le_add_right (position + mark.length) upTo.length))]
    exact (List.prefix_iff_eq_take.mp (List.takeWhile_prefix _)).symm
  · have whole : behind.takeWhile (· ≠ 13) = behind :=
      takeWhile_ne_of_notMem fun inBehind => member (List.mem_append_right _ inBehind)
    have inside : ¬ position + mark.length > request.length := by omega
    rw [if_neg member, whole]
    simp only [substring, if_neg inside, behindEq, Int.reduceNeg, Int.reduceLT, if_true]
    exact List.take_of_length_le (by omega)

/-- The handler's searches and its `substring`, in terms of the first `CSeq: `
and of the next carriage return. -/
theorem cseqOf_eq (request : List UInt8) :
    cseqOf request =
      match behindFirst cseqMark request with
      | none => ascii "1"
      | some behind => trimSpaces (behind.takeWhile (· ≠ 13)) := by
  unfold cseqOf behindFirst
  cases found : firstOccurrence cseqMark request with
  | none => simp [indexOf, found]
  | some position =>
      obtain ⟨-, ⟨behind, atMark⟩, -⟩ :=
        (firstOccurrence_eq_some_iff cseqMark request position).mp found
      have indexEq : indexOf request cseqMark 0 = position := by
        simp [indexOf, found]
      have behindEq : request.drop (position + cseqMark.length) = behind := by
        rw [← List.drop_drop, ← atMark, List.drop_left]
      have read := substring_upToReturn atMark.symm (by decide) (by decide)
      simp only [indexEq, Option.map_some, behindEq]
      rw [if_pos (Int.natCast_nonneg position), ← read]
      rfl

theorem RtspCommand.name_oneLine (command : RtspCommand) : OnOneLine command.name := by
  cases command <;> decide

namespace NumberedRequest

variable (request : NumberedRequest)

theorem lines_oneLine :
    ∀ line ∈ request.requestLine :: request.headers.map HeaderField.line, 13 ∉ line := by
  intro line member
  rcases List.mem_cons.mp member with rfl | member
  · have blank : (13 : UInt8) ∉ ascii " " := by decide
    have name := request.command.name_oneLine.1
    simp [requestLine, name, blank, request.uriLine.1, request.versionLine.1]
  · obtain ⟨field, isHeader, rfl⟩ := List.mem_map.mp member
    have wellFormed := request.wellFormed field isHeader
    have colon : (13 : UInt8) ∉ ascii ":" := by decide
    simp [HeaderField.line, colon, wellFormed.name.1, wellFormed.value.1]

/-- The handler takes what it finds in the first line with `CSeq: `. -/
theorem cseqOf_text :
    cseqOf request.text =
      match firstMarked (request.linesBefore ++ request.cseq.line :: request.linesAfter) with
      | none => ascii "1"
      | some behind => trimSpaces behind := by
  have crlf : ascii "\r\n" = [13, 10] := by decide
  have textEq : request.text = request.requestLine ++
      (request.headers.map HeaderField.line).flatMap fun line => 13 :: 10 :: line := by
    rw [text, crlf, List.flatMap_map]
    rfl
  have lines : request.linesBefore ++ request.cseq.line :: request.linesAfter =
      request.requestLine :: request.headers.map HeaderField.line := by
    simp [linesBefore, linesAfter, headers]
  have found := @behindFirst_lines UInt8 _ cseqMark 13 10 (by decide) (by decide) (by decide)
    request.requestLine (request.headers.map HeaderField.line) request.lines_oneLine
  rw [cseqOf_eq, lines, firstMarked, ← found, textEq]
  cases behindFirst cseqMark _ with
  | none => rfl
  | some behind => rfl

end NumberedRequest

/-! ## The CSeq header itself -/

/-- `trimSpaces` takes nothing away that is not a space. -/
theorem countP_trimSpaces (text : List UInt8) :
    (trimSpaces text).countP (fun byte => !isSpace byte) =
      text.countP (fun byte => !isSpace byte) := by
  have front (symbols : List UInt8) :
      (symbols.dropWhile isSpace).countP (fun byte => !isSpace byte) =
        symbols.countP (fun byte => !isSpace byte) := by
    have dropped : (symbols.takeWhile isSpace).countP (fun byte => !isSpace byte) = 0 := by
      rw [List.countP_eq_zero]
      intro byte member
      simpa using List.mem_takeWhile_imp member
    conv_rhs => rw [← @List.takeWhile_append_dropWhile _ isSpace symbols]
    rw [List.countP_append, dropped, Nat.zero_add]
  rw [trimSpaces, List.rdropWhile, List.countP_reverse, front, List.countP_reverse, front]

theorem mem_of_mem_trimSpaces {byte : UInt8} {text : List UInt8}
    (member : byte ∈ trimSpaces text) : byte ∈ text :=
  (List.dropWhile_sublist isSpace).subset ((List.rdropWhile_prefix isSpace _).subset member)

/-- A name that reads `cseq` in lower case has no `CSeq: ` inside it: a mark in
the header line is its start, or stands in its value. -/
theorem mark_in_header {field : HeaderField} {front behind : List UInt8}
    (named : field.isNamed "cseq" = true)
    (split : field.line = front ++ cseqMark ++ behind) :
    field.name = ascii "CSeq" ∧ field.value.head? = some 32 ∨
      ∃ more, field.value = more ++ cseqMark ++ behind := by
  have markEq : cseqMark = [67, 83, 101, 113, 58, 32] := by decide
  have lower : ascii "cseq" = [99, 115, 101, 113] := by decide
  have upper : ascii "CSeq" = [67, 83, 101, 113] := by decide
  have colon : ascii ":" = [58] := by decide
  rw [HeaderField.isNamed, decide_eq_true_eq, lower] at named
  obtain ⟨first, name, nameEq, firstLow, named⟩ := List.map_eq_cons_iff.mp named
  obtain ⟨second, name, rfl, secondLow, named⟩ := List.map_eq_cons_iff.mp named
  obtain ⟨third, name, rfl, thirdLow, named⟩ := List.map_eq_cons_iff.mp named
  obtain ⟨fourth, name, rfl, fourthLow, named⟩ := List.map_eq_cons_iff.mp named
  rw [List.map_eq_nil_iff] at named
  subst named
  rw [HeaderField.line, nameEq, colon, markEq] at split
  simp only [List.append_assoc, List.cons_append, List.nil_append] at split
  match front, split with
  | [], split =>
      simp only [List.nil_append, List.cons.injEq] at split
      obtain ⟨rfl, rfl, rfl, rfl, -, valueEq⟩ := split
      exact Or.inl ⟨nameEq.trans upper.symm, by rw [valueEq, List.head?_cons]⟩
  | [_], split =>
      simp only [List.cons_append, List.nil_append, List.cons.injEq] at split
      rw [split.2.1] at secondLow
      cases secondLow
  | [_, _], split =>
      simp only [List.cons_append, List.nil_append, List.cons.injEq] at split
      rw [split.2.2.1] at thirdLow
      cases thirdLow
  | [_, _, _], split =>
      simp only [List.cons_append, List.nil_append, List.cons.injEq] at split
      rw [split.2.2.2.1] at fourthLow
      cases fourthLow
  | [_, _, _, _], split =>
      simp only [List.cons_append, List.nil_append, List.cons.injEq] at split
      cases split.2.2.2.2.1
  | _ :: _ :: _ :: _ :: _ :: more, split =>
      simp only [List.cons_append, List.cons.injEq] at split
      exact Or.inr ⟨more, by rw [split.2.2.2.2.2, markEq, List.append_assoc]; rfl⟩

/-- A mark in the header gives its value only when it is the header's own. -/
theorem spelled_of_marked {field : HeaderField} {behind : List UInt8}
    (named : field.isNamed "cseq" = true)
    (marked : behindFirst cseqMark field.line = some behind)
    (same : trimSpaces behind = trimSpaces field.value) :
    field.name = ascii "CSeq" ∧ field.value.head? = some 32 := by
  obtain ⟨front, split⟩ := exists_front_of_behindFirst marked
  rcases mark_in_header named split with spelled | ⟨more, valueEq⟩
  · exact spelled
  · have counts := congrArg (List.countP fun byte => !isSpace byte) same
    have inMark : cseqMark.countP (fun byte => !isSpace byte) = 5 := by decide
    rw [countP_trimSpaces, countP_trimSpaces, valueEq, List.countP_append,
      List.countP_append, inMark] at counts
    omega

theorem marked_of_spelled {field : HeaderField} (name : field.name = ascii "CSeq")
    (blank : field.value.head? = some 32) :
    ∃ behind, behindFirst cseqMark field.line = some behind ∧
      trimSpaces behind = trimSpaces field.value := by
  obtain ⟨behind, valueEq⟩ := List.head?_eq_some_iff.mp blank
  refine ⟨behind, ?_, ?_⟩
  · have lineEq : field.line = cseqMark ++ behind := by
      rw [HeaderField.line, name, valueEq]
      rfl
    rw [lineEq, behindFirst_self]
  · have space : isSpace 32 = true := by decide
    rw [trimSpaces, trimSpaces, valueEq, List.dropWhile_cons_of_pos space]

/-! ## Every request -/

/-- Every reply starts with the status line and the CSeq line. -/
theorem reply_of_command (now : UInt32) (random : Nat) (server : RtspServer)
    {request : List UInt8} {command : RtspCommand} (starts : command.name <+: request) :
    ∃ rest, (handleRTSPCommand now random server request).2 =
      replyHead (cseqOf request) ++ rest := by
  simp only [handleRTSPCommand, List.isPrefixOf_iff_prefix]
  split_ifs with options describe setup play teardown getParameter
  · exact ⟨_, rfl⟩
  · exact ⟨_, rfl⟩
  · exact ⟨_, rfl⟩
  · exact ⟨_, rfl⟩
  · exact ⟨_, rfl⟩
  · exact ⟨_, rfl⟩
  · cases command with
    | options => exact absurd starts options
    | describe => exact absurd starts describe
    | setup => exact absurd starts setup
    | play => exact absurd starts play
    | teardown => exact absurd starts teardown
    | getParameter => exact absurd starts getParameter

namespace NumberedRequest

variable (request : NumberedRequest)

theorem command_starts : request.command.name <+: request.text := by
  refine ⟨ascii " " ++ request.uri ++ ascii " " ++ request.version ++
    request.headers.flatMap (fun field => ascii "\r\n" ++ field.line), ?_⟩
  simp only [text, requestLine, List.append_assoc]

theorem number_oneLine : 13 ∉ request.number := fun member =>
  (request.wellFormed request.cseq (by simp)).value.1 (mem_of_mem_trimSpaces member)

theorem cseqOf_oneLine (text : List UInt8) : 13 ∉ cseqOf text := by
  rw [cseqOf_eq]
  cases behindFirst cseqMark text with
  | none => decide
  | some behind =>
      intro member
      simpa using List.mem_takeWhile_imp (mem_of_mem_trimSpaces member)

theorem echoesCseq_iff_cseqOf (now : UInt32) (random : Nat) (server : RtspServer) :
    EchoesCseq now random server request ↔ cseqOf request.text = request.number := by
  obtain ⟨rest, replyEq⟩ := reply_of_command now random server request.command_starts
  constructor
  · rintro ⟨others, sent⟩
    rw [replyEq, replyHead] at sent
    simp only [List.append_assoc, List.append_cancel_left_eq] at sent
    have upTo := congrArg (List.takeWhile (· ≠ 13)) sent
    have crlf : ascii "\r\n" = [13, 10] := by decide
    simp only [crlf, List.cons_append] at upTo
    rwa [takeWhile_ne_append_cons (cseqOf_oneLine _),
      takeWhile_ne_append_cons request.number_oneLine] at upTo
  · intro same
    exact ⟨rest, by rw [replyEq, replyHead, same]⟩

end NumberedRequest

theorem firstMarked_lines (before : List (List UInt8)) (line : List UInt8)
    (after : List (List UInt8)) :
    firstMarked (before ++ line :: after) =
      (firstMarked before).or ((behindFirst cseqMark line).or (firstMarked after)) := by
  rw [firstMarked, List.findSome?_append, List.findSome?_cons]
  cases behindFirst cseqMark line with
  | none => rw [Option.none_or]; rfl
  | some behind => rw [Option.some_or]; rfl

/-- The reply carries the number of the request exactly when the search finds
the CSeq header, or something that says the same. -/
theorem echoesCseq_iff_cseqFound (now : UInt32) (random : Nat) (server : RtspServer)
    (request : NumberedRequest) :
    EchoesCseq now random server request ↔ CseqFound request := by
  rw [request.echoesCseq_iff_cseqOf, request.cseqOf_text, firstMarked_lines]
  constructor
  · intro same
    cases before : firstMarked request.linesBefore with
    | some behind =>
        rw [before, Option.some_or] at same
        exact .decoyBefore behind before same
    | none =>
        rw [before, Option.none_or] at same
        cases header : behindFirst cseqMark request.cseq.line with
        | some behind =>
            rw [header, Option.some_or] at same
            obtain ⟨name, blank⟩ := spelled_of_marked request.named header same
            exact .spelled before name blank
        | none =>
            rw [header, Option.none_or] at same
            cases after : firstMarked request.linesAfter with
            | some behind =>
                rw [after] at same
                exact .decoyAfter behind before header after same
            | none =>
                rw [after] at same
                exact .default before header after same.symm
  · rintro (⟨before, name, blank⟩ | ⟨behind, before, same⟩ |
      ⟨behind, before, header, after, same⟩ | ⟨before, header, after, one⟩)
    · obtain ⟨behind, header, same⟩ := marked_of_spelled name blank
      rw [before, Option.none_or, header, Option.some_or]
      exact same
    · rw [before, Option.some_or]
      exact same
    · rw [before, Option.none_or, header, Option.none_or, after]
      exact same
    · rw [before, Option.none_or, header, Option.none_or, after]
      exact one.symm

/-- OPTIONS with its sequence number in a header in lower case. -/
def lowerCaseOptions : NumberedRequest where
  command := .options
  uri := ascii "rtsp://mic/audio"
  version := ascii "RTSP/1.0"
  before := []
  cseq := ⟨ascii "cseq", ascii " 2"⟩
  after := []
  uriLine := by decide
  versionLine := by decide
  named := by decide
  otherNames := by simp
  wellFormed := by
    intro field member
    rw [List.nil_append, List.mem_singleton] at member
    subst member
    exact ⟨by decide, by decide, by decide⟩

/-- A device that has just started. -/
def idleServer : RtspServer where
  localIP := ascii "192.168.4.1"
  currentSampleRate := 16000
  rtspSessionId := []
  lastRTSPActivity := 0
  rtpSequence := 0
  rtpTimestamp := 0
  audioPacketsSent := 0
  audioPacketsDropped := 0
  lastStatsReset := 0
  lastRtspPlayMs := 0
  rtspPlayCount := 0

/-- The reply to the header in lower case says 1 instead of 2. -/
theorem lower_case_cseq_not_echoed :
    ¬ EchoesCseq 5000 123456789 idleServer lowerCaseOptions := by
  rintro ⟨rest, sent⟩
  have digit := congrArg (fun reply => reply[23]?) sent
  have echoed : ascii "RTSP/1.0 200 OK\r\n" ++
      (ascii "CSeq: " ++ lowerCaseOptions.number ++ ascii "\r\n") =
        ascii "RTSP/1.0 200 OK\r\nCSeq: 2\r\n" := by decide
  have byte : (handleRTSPCommand 5000 123456789 idleServer lowerCaseOptions.text).2[23]? =
      some 49 := by decide
  rw [byte, echoed] at digit
  cases digit

end EchoMic
