import EchoMic.ByteSearch
import EchoMic.GuardedRuns

/-!
# Collecting RTSP requests

`processRTSP` appends what has arrived to a 1024-byte buffer, searches it for
the end of a request header, hands at most one request to
`handleRTSPCommand` and moves the rest of the buffer down.  The buffer is
modelled as the byte array it is, with the stale bytes behind the position.
-/

namespace EchoMic

open ByteSearch

def rtspParseBufferSize : Nat := 1024

/-- The blank line that ends a request header. -/
def endOfHeaderMark : List UInt8 := ascii "\r\n\r\n"

structure RtspParser where
  rtspParseBuffer : List UInt8
  rtspParseBufferPos : Nat
  deriving DecidableEq

/-- What `rtspParseBuffer` can hold. -/
structure ParseBuffer where
  bytes : List UInt8
  size : bytes.length = rtspParseBufferSize

def ParseBuffer.zero : ParseBuffer where
  bytes := List.replicate rtspParseBufferSize 0
  size := List.length_replicate

/-- The parser for a new client, with the buffer that the client before has
left. -/
def RtspParser.opened (buffer : ParseBuffer) : RtspParser where
  rtspParseBuffer := buffer.bytes
  rtspParseBufferPos := 0

/-- Copy `bytes` into a buffer at `offset`. -/
def overwrite (buffer : List UInt8) (offset : Nat) (bytes : List UInt8) :
    List UInt8 :=
  buffer.take offset ++ bytes ++ buffer.drop (offset + bytes.length)

/-- The parser after one call, the bytes left on the socket, and the request
passed to `handleRTSPCommand`. -/
structure ProcessResult where
  parser : RtspParser
  unread : List UInt8
  request : Option (List UInt8)
  deriving DecidableEq

def RtspParser.spaceLeft (parser : RtspParser) : Int :=
  rtspParseBufferSize - parser.rtspParseBufferPos - 1

def RtspParser.readable (parser : RtspParser) (unread : List UInt8) : Int :=
  if (unread.length : Int) > parser.spaceLeft then parser.spaceLeft
  else unread.length

/-- `client.read` into the buffer behind the position, and the NUL that
terminates the text. -/
def RtspParser.receive (parser : RtspParser) (chunk : List UInt8) : RtspParser where
  rtspParseBuffer :=
    overwrite
      (overwrite parser.rtspParseBuffer parser.rtspParseBufferPos chunk)
      (parser.rtspParseBufferPos + chunk.length) [0]
  rtspParseBufferPos := parser.rtspParseBufferPos + chunk.length

/-- Take the request that ends at `endOfHeader` out of the buffer. -/
def RtspParser.extract (parser : RtspParser) (endOfHeader : Nat) :
    RtspParser × List UInt8 :=
  let buffer := overwrite parser.rtspParseBuffer endOfHeader [0]
  let headerLen := endOfHeader + 4
  let remaining : Int := parser.rtspParseBufferPos - headerLen
  ({ rtspParseBuffer :=
      if remaining > 0 then
        overwrite buffer 0 ((buffer.drop headerLen).take remaining.toNat)
      else buffer
     rtspParseBufferPos := remaining.toNat }, cString buffer)

def processRTSP (connected : Bool) (unread : List UInt8) (parser : RtspParser) :
    ProcessResult :=
  if !connected then ⟨parser, unread, none⟩
  else if unread.length = 0 then ⟨parser, unread, none⟩
  else
    let available := parser.readable unread
    if available ≤ 0 then
      ⟨{ parser with rtspParseBufferPos := 0 }, unread, none⟩
    else
      let received := parser.receive (unread.take available.toNat)
      let unread := unread.drop available.toNat
      match strstr received.rtspParseBuffer endOfHeaderMark with
      | none => ⟨received, unread, none⟩
      | some endOfHeader =>
          let extracted := received.extract endOfHeader
          ⟨extracted.1, unread, some extracted.2⟩

/-- The text collected so far. -/
def RtspParser.content (parser : RtspParser) : List UInt8 :=
  parser.rtspParseBuffer.take parser.rtspParseBufferPos

/-- The buffer has its 1024 bytes, and room for one more byte and its NUL. -/
structure RtspParser.Sound (parser : RtspParser) : Prop where
  size : parser.rtspParseBuffer.length = rtspParseBufferSize
  room : parser.rtspParseBufferPos + 1 < rtspParseBufferSize
  nulFree : 0 ∉ parser.content

theorem opened_sound (buffer : ParseBuffer) : (RtspParser.opened buffer).Sound where
  size := buffer.size
  room := by simp [RtspParser.opened, rtspParseBufferSize]
  nulFree := by simp [RtspParser.content, RtspParser.opened]

theorem overwrite_append (front back bytes : List UInt8) :
    overwrite (front ++ back) front.length bytes =
      front ++ bytes ++ back.drop bytes.length := by
  simp [overwrite]

theorem overwrite_length {buffer bytes : List UInt8} {offset : Nat}
    (fits : offset + bytes.length ≤ buffer.length) :
    (overwrite buffer offset bytes).length = buffer.length := by
  simp only [overwrite, List.length_append, List.length_take, List.length_drop]
  omega

/-! ## What one call does to the collected text -/

/-- The purpose of `processRTSP` on the collected text: take in what fits,
and hand on the first complete request. -/
def collect (content unread : List UInt8) : List UInt8 × Option (List UInt8) :=
  let text := content ++ unread.take (rtspParseBufferSize - 1 - content.length)
  match firstOccurrence endOfHeaderMark text with
  | none => (text, none)
  | some endOfHeader => (text.drop (endOfHeader + 4), some (text.take endOfHeader))

section Receive

variable {parser : RtspParser} {chunk : List UInt8}

theorem content_length (sound : parser.Sound) :
    parser.content.length = parser.rtspParseBufferPos := by
  have size := sound.size
  have room := sound.room
  rw [RtspParser.content, List.length_take]
  omega

/-- Received bytes follow the collected text and are closed by a NUL. -/
theorem receive_buffer (sound : parser.Sound)
    (fits : parser.rtspParseBufferPos + chunk.length < rtspParseBufferSize) :
    ∃ stale, (parser.receive chunk).rtspParseBuffer =
        parser.content ++ chunk ++ 0 :: stale ∧
      (parser.content ++ chunk ++ 0 :: stale).length = rtspParseBufferSize := by
  have lengthEq := content_length sound
  have split := List.take_append_drop parser.rtspParseBufferPos
    parser.rtspParseBuffer
  set back := parser.rtspParseBuffer.drop parser.rtspParseBufferPos with backEq
  refine ⟨(back.drop chunk.length).drop 1, ?_, ?_⟩
  · have first : overwrite parser.rtspParseBuffer parser.rtspParseBufferPos chunk =
        (parser.content ++ chunk) ++ back.drop chunk.length := by
      rw [← overwrite_append, lengthEq, RtspParser.content, split]
    have second := overwrite_append (parser.content ++ chunk)
      (back.drop chunk.length) [0]
    rw [List.length_append, lengthEq] at second
    simp only [RtspParser.receive, first, second]
    simp
  · have size := sound.size
    simp only [List.length_append, List.length_cons, List.length_drop, lengthEq,
      backEq]
    omega

theorem receive_content (sound : parser.Sound)
    (fits : parser.rtspParseBufferPos + chunk.length < rtspParseBufferSize) :
    (parser.receive chunk).content = parser.content ++ chunk := by
  obtain ⟨stale, buffer, -⟩ := receive_buffer sound fits
  have lengthEq := content_length sound
  rw [RtspParser.content, buffer]
  change (parser.content ++ chunk ++ 0 :: stale).take
    (parser.rtspParseBufferPos + chunk.length) = _
  rw [← lengthEq, ← List.length_append, List.take_left]

/-- Searching the buffer as a C string searches exactly the collected text. -/
theorem receive_strstr (sound : parser.Sound) (nulFree : 0 ∉ chunk)
    (fits : parser.rtspParseBufferPos + chunk.length < rtspParseBufferSize) :
    strstr (parser.receive chunk).rtspParseBuffer endOfHeaderMark =
      firstOccurrence endOfHeaderMark (parser.content ++ chunk) := by
  obtain ⟨stale, buffer, -⟩ := receive_buffer sound fits
  have textFree : 0 ∉ parser.content ++ chunk := by
    rw [List.mem_append, not_or]
    exact ⟨sound.nulFree, nulFree⟩
  rw [strstr, buffer, cString_append_zero textFree]

end Receive

/-- Extracting a request from a buffer that holds it, the rest of the text
and a NUL. -/
theorem extract_spec {buffer header rest stale : List UInt8}
    (nulFree : 0 ∉ header)
    (split : buffer = header ++ endOfHeaderMark ++ rest ++ 0 :: stale) :
    let extracted :=
      (RtspParser.mk buffer (header ++ endOfHeaderMark ++ rest).length).extract
        header.length
    extracted.1.content = rest ∧
      extracted.1.rtspParseBufferPos = rest.length ∧
      extracted.1.rtspParseBuffer.length = buffer.length ∧
      extracted.2 = header := by
  have markLength : endOfHeaderMark.length = 4 := by decide
  have marked : overwrite buffer header.length [0] =
      header ++ 0 :: (endOfHeaderMark.drop 1 ++ (rest ++ 0 :: stale)) := by
    rw [split, List.append_assoc, List.append_assoc, overwrite_append,
      List.drop_append_of_le_length (by rw [markLength]; simp)]
    simp
  have tail : (overwrite buffer header.length [0]).drop (header.length + 4) =
      rest ++ 0 :: stale := by
    rw [marked, ← List.drop_drop, List.drop_left, List.drop_succ_cons,
      List.drop_append_of_le_length (by rw [List.length_drop, markLength]),
      List.drop_of_length_le (by rw [List.length_drop, markLength]),
      List.nil_append]
  have sameLength : (overwrite buffer header.length [0]).length = buffer.length := by
    apply overwrite_length
    rw [split]
    simp only [List.length_append, List.length_cons, List.length_nil]
    omega
  have remaining :
      (((header ++ endOfHeaderMark ++ rest).length : Nat) : Int) -
        ((header.length + 4 : Nat) : Int) = rest.length := by
    simp only [List.length_append, markLength]
    omega
  have text : cString (overwrite buffer header.length [0]) = header := by
    rw [marked, cString_append_zero nulFree]
  simp only [RtspParser.extract, remaining, Int.toNat_natCast, text, and_true]
  cases rest with
  | nil =>
      have notPositive : ¬ ((([] : List UInt8).length : Nat) : Int) > 0 := by decide
      simp only [if_neg notPositive]
      exact ⟨by simp [RtspParser.content], trivial, sameLength⟩
  | cons byte bytes =>
      have positive : ((byte :: bytes).length : Int) > 0 := by
        simp only [List.length_cons]
        omega
      have moved := overwrite_append [] (overwrite buffer header.length [0])
        (byte :: bytes)
      simp only [List.length_nil, List.nil_append] at moved
      simp only [if_pos positive, tail, List.take_left, moved]
      refine ⟨by simp [RtspParser.content], trivial, ?_⟩
      rw [← moved, overwrite_length, sameLength]
      rw [sameLength, split]
      simp only [List.length_append]
      omega

/-- Extracting the first request from a buffer that has just received it. -/
theorem extract_received {parser : RtspParser} {chunk : List UInt8} {endOfHeader : Nat}
    (sound : parser.Sound) (nulFree : 0 ∉ chunk)
    (fits : parser.rtspParseBufferPos + chunk.length < rtspParseBufferSize)
    (found : firstOccurrence endOfHeaderMark (parser.content ++ chunk) = some endOfHeader) :
    let extracted := (parser.receive chunk).extract endOfHeader
    extracted.1.content = (parser.content ++ chunk).drop (endOfHeader + 4) ∧
      extracted.1.rtspParseBufferPos = extracted.1.content.length ∧
      extracted.1.rtspParseBuffer.length = rtspParseBufferSize ∧
      extracted.2 = (parser.content ++ chunk).take endOfHeader := by
  obtain ⟨stale, buffer, bufferLength⟩ := receive_buffer sound fits
  obtain ⟨bound, ⟨rest, occurs⟩, -⟩ := (firstOccurrence_eq_some_iff _ _ _).mp found
  set header := (parser.content ++ chunk).take endOfHeader with headerEq
  have headerLength : header.length = endOfHeader := by
    rw [headerEq, List.length_take]
    omega
  have text : parser.content ++ chunk = header ++ endOfHeaderMark ++ rest := by
    rw [List.append_assoc, occurs, headerEq, List.take_append_drop]
  have headerFree : 0 ∉ header := by
    intro member
    have inText := List.mem_of_mem_take member
    rw [List.mem_append] at inText
    exact inText.elim sound.nulFree nulFree
  have restEq : (parser.content ++ chunk).drop (endOfHeader + 4) = rest := by
    have markLength : endOfHeaderMark.length = 4 := by decide
    rw [← List.drop_drop, ← occurs, ← markLength]
    exact List.drop_left
  have position : (parser.receive chunk).rtspParseBufferPos =
      (header ++ endOfHeaderMark ++ rest).length := by
    rw [← text, List.length_append, content_length sound]
    rfl
  have parserEq : parser.receive chunk =
      RtspParser.mk (parser.receive chunk).rtspParseBuffer
        (header ++ endOfHeaderMark ++ rest).length := by
    rw [← position]
  have extracted := extract_spec headerFree (buffer.trans (by rw [text]))
  rw [← parserEq, headerLength] at extracted
  obtain ⟨contentEq, posEq, sizeEq, requestEq⟩ := extracted
  refine ⟨by rw [contentEq, restEq], by rw [posEq, contentEq], ?_, requestEq⟩
  rw [sizeEq, buffer, bufferLength]

/-- What is read is what has arrived, cut to the space left. -/
theorem readable_spec {parser : RtspParser} {unread : List UInt8} (sound : parser.Sound)
    (arrived : unread ≠ []) :
    0 < parser.readable unread ∧
      unread.take (parser.readable unread).toNat =
        unread.take (rtspParseBufferSize - 1 - parser.content.length) ∧
      unread.drop (parser.readable unread).toNat =
        unread.drop (rtspParseBufferSize - 1 - parser.content.length) := by
  have room := sound.room
  have positive : 0 < unread.length := List.length_pos_iff.mpr arrived
  rw [content_length sound]
  by_cases more : (unread.length : Int) > parser.spaceLeft
  · have spaceEq : parser.readable unread =
        ((rtspParseBufferSize - 1 - parser.rtspParseBufferPos : Nat) : Int) := by
      rw [RtspParser.readable, if_pos more, RtspParser.spaceLeft]
      omega
    rw [spaceEq, Int.toNat_natCast]
    exact ⟨by omega, rfl, rfl⟩
  · rw [RtspParser.readable, if_neg more, Int.toNat_natCast]
    rw [RtspParser.spaceLeft] at more
    rw [List.take_of_length_le (le_refl _), List.take_of_length_le (by omega),
      List.drop_of_length_le (le_refl _), List.drop_of_length_le (by omega)]
    exact ⟨by omega, rfl, rfl⟩

/-- `processRTSP` refines `collect`: with something to read, it takes in what
fits and hands on the first complete request. -/
theorem processRTSP_collect {parser : RtspParser} {unread : List UInt8}
    (sound : parser.Sound) (arrived : unread ≠ [])
    (nulFree : 0 ∉ unread) :
    let result := processRTSP true unread parser
    (result.parser.content, result.request) = collect parser.content unread ∧
      result.unread =
        unread.drop (rtspParseBufferSize - 1 - parser.content.length) ∧
      result.parser.rtspParseBuffer.length = rtspParseBufferSize ∧
      result.parser.rtspParseBufferPos = result.parser.content.length := by
  obtain ⟨positive, taken, left⟩ := readable_spec sound arrived
  have lengthEq := content_length sound
  have room := sound.room
  set chunk := unread.take (rtspParseBufferSize - 1 - parser.content.length)
    with chunkEq
  have chunkFree : 0 ∉ chunk := fun member => nulFree (List.mem_of_mem_take member)
  have fits : parser.rtspParseBufferPos + chunk.length < rtspParseBufferSize := by
    have cut := List.length_take_le (rtspParseBufferSize - 1 - parser.content.length) unread
    rw [← chunkEq, lengthEq] at cut
    omega
  have found := receive_strstr sound chunkFree fits
  have bytesThere : ¬ unread.length = 0 := by simpa using arrived
  have notFull : ¬ parser.readable unread ≤ 0 := by omega
  simp only [processRTSP, Bool.not_true, Bool.false_eq_true, if_false,
    if_neg bytesThere, if_neg notFull, taken, left, found, collect, ← chunkEq]
  cases search : firstOccurrence endOfHeaderMark (parser.content ++ chunk) with
  | none =>
      obtain ⟨stale, buffer, bufferLength⟩ := receive_buffer sound fits
      have received := receive_content sound fits
      refine ⟨by rw [received], rfl, by rw [buffer, bufferLength], ?_⟩
      rw [received, List.length_append, lengthEq]
      rfl
  | some endOfHeader =>
      obtain ⟨contentEq, positionEq, sizeEq, requestEq⟩ :=
        extract_received sound chunkFree fits search
      dsimp only
      exact ⟨by rw [contentEq, requestEq], rfl, sizeEq, positionEq⟩

end EchoMic
