import EchoMic.RtspRequestWaiting

/-!
# Framing of the RTSP requests

Every write of `processRTSP` goes to the 1024-byte buffer, at a position that
is computed from what has arrived.  This file checks the positions for any
bytes, and proves that requests of any method come out of the buffer as they
were sent, however the stream is cut into pieces.
-/

namespace EchoMic

open ByteSearch GuardedRuns

/-! ## Checked writes -/

/-- A write that fails when it leaves the buffer. -/
def writeChecked (buffer : List UInt8) (offset : Nat) (bytes : List UInt8) :
    Option (List UInt8) :=
  if offset + bytes.length ≤ buffer.length then some (overwrite buffer offset bytes)
  else none

/-- `receive` with its two writes checked. -/
def RtspParser.receiveChecked (parser : RtspParser) (chunk : List UInt8) :
    Option RtspParser := do
  let buffer ← writeChecked parser.rtspParseBuffer parser.rtspParseBufferPos chunk
  let position := parser.rtspParseBufferPos + chunk.length
  let buffer ← writeChecked buffer position [0]
  some ⟨buffer, position⟩

/-- `extract` with its writes checked, and with a negative `remaining`
refused. -/
def RtspParser.extractChecked (parser : RtspParser) (endOfHeader : Nat) :
    Option (RtspParser × List UInt8) := do
  let buffer ← writeChecked parser.rtspParseBuffer endOfHeader [0]
  let request := cString buffer
  let headerLen := endOfHeader + 4
  let remaining : Int := parser.rtspParseBufferPos - headerLen
  if remaining < 0 then none
  else if remaining > 0 then
    let moved ← writeChecked buffer 0 ((buffer.drop headerLen).take remaining.toNat)
    some (⟨moved, remaining.toNat⟩, request)
  else some (⟨buffer, remaining.toNat⟩, request)

/-- `processRTSP`, failing at a write outside the buffer. -/
def processRTSPChecked (connected : Bool) (unread : List UInt8) (parser : RtspParser) :
    Option ProcessResult :=
  if !connected then some ⟨parser, unread, none⟩
  else if unread.length = 0 then some ⟨parser, unread, none⟩
  else
    let available := parser.readable unread
    if available ≤ 0 then
      some ⟨{ parser with rtspParseBufferPos := 0 }, unread, none⟩
    else do
      let received ← parser.receiveChecked (unread.take available.toNat)
      let unread := unread.drop available.toNat
      match strstr received.rtspParseBuffer endOfHeaderMark with
      | none => some ⟨received, unread, none⟩
      | some endOfHeader =>
          let extracted ← received.extractChecked endOfHeader
          some ⟨extracted.1, unread, some extracted.2⟩

/-- The buffer has its size, and the position leaves room for the NUL. -/
structure RtspParser.Bounded (parser : RtspParser) : Prop where
  size : parser.rtspParseBuffer.length = rtspParseBufferSize
  position : parser.rtspParseBufferPos ≤ 1023

/-- Every call stays inside the buffer and does what `processRTSP` does. -/
def WritesInside (parser : RtspParser) (unread : List UInt8) : Prop :=
  ∀ connected,
    processRTSPChecked connected unread parser = some (processRTSP connected unread parser)

theorem writeChecked_eq {buffer bytes : List UInt8} {offset : Nat}
    (fits : offset + bytes.length ≤ buffer.length) :
    writeChecked buffer offset bytes = some (overwrite buffer offset bytes) :=
  if_pos fits

/-- A C string ends at the first NUL at the latest. -/
theorem cString_length_le (front rest : List UInt8) :
    (cString (front ++ 0 :: rest)).length ≤ front.length := by
  induction front with
  | nil => simp [cString]
  | cons byte front ih =>
      by_cases zero : byte = 0
      · simp [cString, zero]
      · have tail : cString (byte :: front ++ 0 :: rest) =
            byte :: cString (front ++ 0 :: rest) := by
          simp [cString, zero]
        rw [tail, List.length_cons, List.length_cons]
        exact Nat.add_le_add_right ih 1

section Bounded

variable {parser : RtspParser} (bounded : parser.Bounded)

include bounded

theorem receiveChecked_eq {chunk : List UInt8}
    (fits : parser.rtspParseBufferPos + chunk.length ≤ 1023) :
    parser.receiveChecked chunk = some (parser.receive chunk) ∧
      (parser.receive chunk).Bounded := by
  have size := bounded.size
  simp only [rtspParseBufferSize] at size
  have first : parser.rtspParseBufferPos + chunk.length ≤ parser.rtspParseBuffer.length := by
    omega
  have sizeFirst := overwrite_length first
  have second : parser.rtspParseBufferPos + chunk.length + [(0 : UInt8)].length ≤
      (overwrite parser.rtspParseBuffer parser.rtspParseBufferPos chunk).length := by
    rw [sizeFirst, List.length_singleton]
    omega
  constructor
  · simp only [RtspParser.receiveChecked, writeChecked_eq first, Option.bind_eq_bind,
      Option.bind_some, writeChecked_eq second]
    rfl
  · refine ⟨?_, fits⟩
    exact (overwrite_length second).trans (sizeFirst.trans bounded.size)

/-- The mark is found in what has been received. -/
theorem strstr_receive_le {chunk : List UInt8} {endOfHeader : Nat}
    (fits : parser.rtspParseBufferPos + chunk.length ≤ 1023)
    (found : strstr (parser.receive chunk).rtspParseBuffer endOfHeaderMark =
      some endOfHeader) :
    endOfHeader + 4 ≤ (parser.receive chunk).rtspParseBufferPos := by
  have size := bounded.size
  simp only [rtspParseBufferSize] at size
  have first : parser.rtspParseBufferPos + chunk.length ≤ parser.rtspParseBuffer.length := by
    omega
  set front := (overwrite parser.rtspParseBuffer parser.rtspParseBufferPos chunk).take
    (parser.rtspParseBufferPos + chunk.length) with frontEq
  have frontLength : front.length = parser.rtspParseBufferPos + chunk.length := by
    rw [frontEq, List.length_take, overwrite_length first]
    omega
  set rest := (overwrite parser.rtspParseBuffer parser.rtspParseBufferPos chunk).drop
    (parser.rtspParseBufferPos + chunk.length + 1)
  have buffer : (parser.receive chunk).rtspParseBuffer = front ++ 0 :: rest := by
    simp only [RtspParser.receive]
    rw [overwrite, ← frontEq, List.append_assoc]
    rfl
  have inside := firstOccurrence_end_le found
  have cut := cString_length_le front rest
  have markLength : endOfHeaderMark.length = 4 := by decide
  rw [buffer, markLength] at inside
  change endOfHeader + 4 ≤ parser.rtspParseBufferPos + chunk.length
  omega

theorem extractChecked_eq {endOfHeader : Nat}
    (inside : endOfHeader + 4 ≤ parser.rtspParseBufferPos) :
    parser.extractChecked endOfHeader = some (parser.extract endOfHeader) ∧
      (parser.extract endOfHeader).1.Bounded := by
  have size := bounded.size
  have position := bounded.position
  simp only [rtspParseBufferSize] at size
  have first : endOfHeader + [(0 : UInt8)].length ≤ parser.rtspParseBuffer.length := by
    rw [List.length_singleton]
    omega
  have sizeFirst := overwrite_length first
  have notNegative : ¬ (parser.rtspParseBufferPos : Int) - (endOfHeader + 4 : Nat) < 0 := by
    omega
  have second : 0 + (((overwrite parser.rtspParseBuffer endOfHeader [0]).drop
      (endOfHeader + 4)).take
        ((parser.rtspParseBufferPos : Int) - (endOfHeader + 4 : Nat)).toNat).length ≤
      (overwrite parser.rtspParseBuffer endOfHeader [0]).length := by
    rw [List.length_take, List.length_drop]
    omega
  simp only [RtspParser.extractChecked, writeChecked_eq first, Option.bind_eq_bind,
    Option.bind_some, if_neg notNegative, writeChecked_eq second, RtspParser.extract]
  constructor
  · split <;> rfl
  · refine ⟨?_, ?_⟩
    · dsimp only
      split
      · exact (overwrite_length second).trans (sizeFirst.trans bounded.size)
      · exact sizeFirst.trans bounded.size
    · dsimp only
      omega

/-- One call with any bytes on the socket. -/
theorem processRTSPChecked_eq (connected : Bool) (unread : List UInt8) :
    processRTSPChecked connected unread parser = some (processRTSP connected unread parser) ∧
      (processRTSP connected unread parser).parser.Bounded := by
  unfold processRTSPChecked processRTSP
  split
  · exact ⟨rfl, bounded⟩
  split
  · exact ⟨rfl, bounded⟩
  dsimp only
  split
  · exact ⟨rfl, bounded.size, Nat.zero_le _⟩
  rename_i positive
  have fits : parser.rtspParseBufferPos +
      (unread.take (parser.readable unread).toNat).length ≤ 1023 := by
    have position := bounded.position
    have cut := List.length_take_le (parser.readable unread).toNat unread
    have space : parser.readable unread ≤ parser.spaceLeft := by
      unfold RtspParser.readable
      split <;> omega
    simp only [RtspParser.spaceLeft, rtspParseBufferSize] at space
    omega
  obtain ⟨received, receivedBounded⟩ := receiveChecked_eq bounded fits
  rw [received, Option.bind_eq_bind, Option.bind_some]
  cases found : strstr (parser.receive
      (unread.take (parser.readable unread).toNat)).rtspParseBuffer endOfHeaderMark with
  | none => exact ⟨rfl, receivedBounded⟩
  | some endOfHeader =>
      obtain ⟨extracted, extractedBounded⟩ :=
        extractChecked_eq receivedBounded (strstr_receive_le bounded fits found)
      simp only [extracted]
      exact ⟨rfl, extractedBounded⟩

end Bounded

theorem bounded_step {connection next : Connection} {event : ConnectionEvent}
    (bounded : connection.parser.Bounded)
    (stepped : connectionStep connection event = some next) : next.parser.Bounded := by
  cases event with
  | arrives count =>
      cases stepped
      exact bounded
  | processRTSP connected =>
      cases stepped
      exact (processRTSPChecked_eq bounded connected connection.unread).2

/-! ## Every connection -/

/-- A new client: the position is set to zero, and the buffer is left as the
client before has used it. -/
def Connection.accepted (buffer stream : List UInt8) : Connection where
  parser := ⟨buffer, 0⟩
  unread := []
  coming := stream
  handled := []

/-- The call would give up what is in the buffer. -/
def ResetsFull (connection : Connection) : Prop :=
  connection.unread ≠ [] ∧ connection.parser.readable connection.unread ≤ 0

/-- The buffer starts at the boundary of a request, is never given up, and
the requests that were passed on are the first ones of the stream. -/
structure FramesRequests (requests : List (List UInt8)) (connection : Connection) : Prop where
  boundary : ∃ done todo, requests = done ++ todo ∧
    connection.parser.content ++ connection.unread ++ connection.coming = todo.flatten
  notFull : ¬ ResetsFull connection
  handled : connection.handled <+: requests.map requestText

/-- All that holds of a connection over which `stream` is sent: the position
and the writes stay inside the buffer, and requests are framed as they were
sent. -/
structure FramedSafely (stream : List UInt8) (connection : Connection) : Prop where
  bounded : connection.parser.Bounded
  writesInside : WritesInside connection.parser connection.unread
  requests : ∀ requests : List (List UInt8), stream = requests.flatten →
    (∀ bytes ∈ requests, IsRequest bytes) → FramesRequests requests connection

theorem framed_accepted {buffer : List UInt8} (size : buffer.length = rtspParseBufferSize)
    (requests : List (List UInt8)) :
    (Connection.accepted buffer requests.flatten).Framed requests where
  sound := ⟨size, by simp [Connection.accepted, rtspParseBufferSize], by
    simp [Connection.accepted, RtspParser.content]⟩
  split := ⟨[], requests, rfl, rfl, by simp [Connection.accepted, RtspParser.content]⟩

theorem framesRequests_of_framed {requests : List (List UInt8)} {connection : Connection}
    (framed : connection.Framed requests) : FramesRequests requests connection where
  boundary := by
    obtain ⟨done, todo, split, -, stream⟩ := framed.split
    exact ⟨done, todo, split, stream⟩
  notFull := by
    rintro ⟨arrived, full⟩
    have positive := (readable_spec framed.sound arrived).1
    omega
  handled := by
    obtain ⟨done, todo, rfl, handled, -⟩ := framed.split
    rw [handled, List.map_append]
    exact List.prefix_append _ _

/-- For every stream of bytes, cut into pieces in any way, every call stays
inside the buffer, and a stream of requests is framed as it was sent. -/
theorem framedSafely_of_run (buffer stream : List UInt8) (events : List ConnectionEvent)
    (size : buffer.length = rtspParseBufferSize) :
    ∃ connection,
      run connectionStep (Connection.accepted buffer stream) events = some connection ∧
        FramedSafely stream connection := by
  have total (connection : Connection) (event : ConnectionEvent) :
      (connectionStep connection event).isSome := by
    cases event <;> rfl
  obtain ⟨connection, ran⟩ := run_isSome total (Connection.accepted buffer stream) events
  have bounded : connection.parser.Bounded :=
    @invariant_of_run Connection ConnectionEvent connectionStep
      (fun connection => connection.parser.Bounded) (fun _ _ _ => bounded_step) _ _ _
      ⟨size, Nat.zero_le _⟩ ran
  refine ⟨connection, ran, bounded,
    fun connected => (processRTSPChecked_eq bounded connected connection.unread).1, ?_⟩
  rintro requests rfl areRequests
  exact framesRequests_of_framed
    (invariant_of_run (fun _ _ _ => framed_step areRequests) (framed_accepted size requests) ran)

/-- OPTIONS and PLAY. -/
def optionsThenPlay : List UInt8 :=
  ascii "OPTIONS * RTSP/1.0\r\n\r\nPLAY * RTSP/1.0\r\n\r\n"

/-- Three pieces, the first of which ends inside the first terminator. -/
def inThreePieces : List ConnectionEvent :=
  [.arrives 20, .processRTSP true, .arrives 9, .processRTSP true, .arrives 100,
    .processRTSP true]

theorem options_and_play_framed :
    ∃ connection,
      run connectionStep (Connection.accepted (List.replicate 1024 65) optionsThenPlay)
        inThreePieces = some connection ∧
      FramedSafely optionsThenPlay connection ∧
      connection.handled = [ascii "OPTIONS * RTSP/1.0", ascii "PLAY * RTSP/1.0"] := by
  obtain ⟨connection, ran, safe⟩ := framedSafely_of_run (List.replicate 1024 65)
    optionsThenPlay inThreePieces (by rw [List.length_replicate, rtspParseBufferSize])
  have handled : (run connectionStep
      (Connection.accepted (List.replicate 1024 65) optionsThenPlay)
      inThreePieces).map Connection.handled =
        some [ascii "OPTIONS * RTSP/1.0", ascii "PLAY * RTSP/1.0"] := by
    decide +kernel
  rw [ran] at handled
  exact ⟨connection, ran, safe, Option.some.inj handled⟩

end EchoMic
