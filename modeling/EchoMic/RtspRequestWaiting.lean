import EchoMic.RtspRequestBuffer

/-!
# Requests left waiting in the parse buffer

A connection delivers a stream of requests in arbitrary pieces, and the main
loop calls `processRTSP` between the arrivals.  One call hands on at most one
request and a call that finds no new bytes does nothing, so a call that
drains the socket leaves a request behind exactly when the buffer and the
socket together hold two complete ones.
-/

namespace EchoMic

open ByteSearch GuardedRuns

/-- A request other than PLAY, as the client sends it. -/
structure Request where
  bytes : List UInt8
  nulFree : 0 ∉ bytes
  terminated : firstOccurrence endOfHeaderMark bytes = some (bytes.length - 4)
  short : bytes.length ≤ 1023
  notPlay : ¬ ascii "PLAY" <+: bytes

def Request.header (request : Request) : List UInt8 :=
  request.bytes.take (request.bytes.length - 4)

/-- The bytes of a list of requests. -/
def requestStream (requests : List Request) : List UInt8 :=
  requests.flatMap Request.bytes

/-- The connection: the parser, the bytes waiting on the socket, the bytes
that have not arrived, and the requests passed to `handleRTSPCommand`. -/
structure Connection where
  parser : RtspParser
  unread : List UInt8
  coming : List UInt8
  handled : List (List UInt8)

inductive ConnectionEvent where
  | arrives (count : Nat)
  | processRTSP (connected : Bool)
  deriving DecidableEq

def Connection.opened (buffer : ParseBuffer) (requests : List Request) : Connection where
  parser := RtspParser.opened buffer
  unread := []
  coming := requestStream requests
  handled := []

def connectionStep (connection : Connection) :
    ConnectionEvent → Option Connection
  | .arrives count => some
      { connection with
        unread := connection.unread ++ connection.coming.take count
        coming := connection.coming.drop count }
  | .processRTSP connected =>
      let result := processRTSP connected connection.unread connection.parser
      some
        { connection with
          parser := result.parser
          unread := result.unread
          handled := connection.handled ++ result.request.toList }

def HoldsCompleteRequest (text : List UInt8) : Prop :=
  ∃ endOfHeader, firstOccurrence endOfHeaderMark text = some endOfHeader

/-- Every request whose bytes have all been read has been passed on. -/
def AllPassedOn (requests : List Request) (connection : Connection) : Prop :=
  ∀ complete rest, requests = complete ++ rest →
    (requestStream complete).length + connection.unread.length +
        connection.coming.length ≤ (requestStream requests).length →
      complete.map Request.header <+: connection.handled

/-- Whenever `processRTSP` returns with the socket drained, no complete
request waits in the buffer and every complete request has been passed on. -/
def NoneLeftWaiting (buffer : ParseBuffer) (requests : List Request)
    (events : List ConnectionEvent) : Prop :=
  ∀ before connected rest, events = before ++ .processRTSP connected :: rest →
    ∀ connection,
      run connectionStep (Connection.opened buffer requests)
        (before ++ [.processRTSP connected]) = some connection →
      connection.unread = [] →
        ¬ HoldsCompleteRequest connection.parser.content ∧
          AllPassedOn requests connection

/-- A call that can drain the socket finds at most one complete request in
the buffer and on the socket. -/
def OneRequestWhenDrained (connection : Connection) : ConnectionEvent → Prop
  | .arrives _ => True
  | .processRTSP connected =>
      connected = true → connection.unread ≠ [] →
        connection.parser.content.length + connection.unread.length < rtspParseBufferSize →
          ∀ endOfHeader,
            firstOccurrence endOfHeaderMark
                (connection.parser.content ++ connection.unread) = some endOfHeader →
              ¬ HoldsCompleteRequest
                ((connection.parser.content ++ connection.unread).drop (endOfHeader + 4))

/-! ## The first request of a stream -/

/-- A request of any method, as the client sends it. -/
structure IsRequest (bytes : List UInt8) : Prop where
  nulFree : 0 ∉ bytes
  terminated : firstOccurrence endOfHeaderMark bytes = some (bytes.length - 4)
  short : bytes.length ≤ 1023

/-- What is passed on of a request: everything before its blank line. -/
def requestText (bytes : List UInt8) : List UInt8 :=
  bytes.take (bytes.length - 4)

theorem Request.isRequest (request : Request) : IsRequest request.bytes where
  nulFree := request.nulFree
  terminated := request.terminated
  short := request.short

theorem nul_notMem_flatten {requests : List (List UInt8)}
    (areRequests : ∀ bytes ∈ requests, IsRequest bytes) : 0 ∉ requests.flatten := by
  intro member
  obtain ⟨bytes, isIn, inBytes⟩ := List.mem_flatten.mp member
  exact (areRequests bytes isIn).nulFree inBytes

section FirstRequest

variable {text behind first later : List UInt8} (isRequest : IsRequest first)
  (stream : text ++ behind = first ++ later)

include isRequest

theorem IsRequest.four_le : 4 ≤ first.length := by
  have inside := firstOccurrence_end_le isRequest.terminated
  have markLength : endOfHeaderMark.length = 4 := by decide
  omega

include stream

/-- A text at the front of a stream holds a complete request exactly when the
first request lies inside it, and then the first mark is where that request
ends. -/
theorem firstOccurrence_of_stream :
    firstOccurrence endOfHeaderMark text =
      if first.length ≤ text.length then some (first.length - 4) else none := by
  have fourLe := isRequest.four_le
  have markLength : endOfHeaderMark.length = 4 := by decide
  have whole : firstOccurrence endOfHeaderMark (text ++ behind) =
      some (first.length - 4) := by
    rw [stream]
    exact firstOccurrence_append isRequest.terminated _
  split
  · exact firstOccurrence_of_append whole (by omega)
  · cases found : firstOccurrence endOfHeaderMark text with
    | none => rfl
    | some endOfHeader =>
        have inside := firstOccurrence_end_le found
        rw [firstOccurrence_append found behind] at whole
        cases whole
        omega

omit isRequest in
/-- A text that holds the first request is that request and the front of the
remaining stream. -/
theorem take_drop_of_stream (inside : first.length ≤ text.length) :
    text.take (first.length - 4) = requestText first ∧
      text.drop first.length ++ behind = later := by
  have front := congrArg (List.take first.length) stream
  have back := congrArg (List.drop first.length) stream
  rw [List.take_append_of_le_length inside, List.take_left] at front
  rw [List.drop_append_of_le_length inside, List.drop_left] at back
  refine ⟨?_, back⟩
  have cut : (text.take first.length).take (first.length - 4) =
      text.take (first.length - 4) := by
    rw [List.take_take, Nat.min_eq_left (by omega)]
  rw [← cut, front]
  rfl

end FirstRequest

/-! ## What every run keeps -/

/-- The text in the buffer starts at the boundary of a request: the requests
are split into those passed on and those whose bytes are in the buffer, on
the socket or still coming. -/
structure Connection.Framed (requests : List (List UInt8)) (connection : Connection) :
    Prop where
  sound : connection.parser.Sound
  split : ∃ done todo, requests = done ++ todo ∧
    connection.handled = done.map requestText ∧
    connection.parser.content ++ connection.unread ++ connection.coming = todo.flatten

/-- The same for a connection without PLAY. -/
structure Connection.Accounted (requests : List Request)
    (connection : Connection) : Prop where
  sound : connection.parser.Sound
  split : ∃ done todo, requests = done ++ todo ∧
    connection.handled = done.map Request.header ∧
    connection.parser.content ++ connection.unread ++ connection.coming =
      requestStream todo

theorem accounted_iff_framed (requests : List Request) (connection : Connection) :
    connection.Accounted requests ↔ connection.Framed (requests.map Request.bytes) := by
  constructor
  · rintro ⟨sound, done, todo, rfl, handled, stream⟩
    refine ⟨sound, done.map Request.bytes, todo.map Request.bytes, List.map_append, ?_, ?_⟩
    · rw [handled, List.map_map]
      rfl
    · rw [stream, requestStream, List.flatMap_def]
  · rintro ⟨sound, doneBytes, todoBytes, split, handled, stream⟩
    obtain ⟨done, todo, rfl, rfl, rfl⟩ := List.map_eq_append_iff.mp split
    refine ⟨sound, done, todo, rfl, ?_, ?_⟩
    · rw [handled, List.map_map]
      rfl
    · rw [stream, requestStream, List.flatMap_def]

theorem accounted_opened (buffer : ParseBuffer) (requests : List Request) :
    (Connection.opened buffer requests).Accounted requests where
  sound := opened_sound buffer
  split := ⟨[], requests, rfl, rfl, by
    simp [Connection.opened, RtspParser.content, RtspParser.opened]⟩

theorem processRTSP_nothing {connected : Bool} {unread : List UInt8}
    {parser : RtspParser} (nothing : connected = false ∨ unread = []) :
    processRTSP connected unread parser = ⟨parser, unread, none⟩ := by
  rcases nothing with rfl | rfl
  · rfl
  · cases connected <;> rfl

section Framed

variable {requests : List (List UInt8)} (areRequests : ∀ bytes ∈ requests, IsRequest bytes)

include areRequests

theorem Connection.Framed.nul_notMem {connection : Connection}
    (framed : connection.Framed requests) : 0 ∉ connection.unread := by
  obtain ⟨done, todo, rfl, _, stream⟩ := framed.split
  intro member
  apply nul_notMem_flatten fun bytes isIn =>
    areRequests bytes (List.mem_append_right done isIn)
  rw [← stream]
  simp [member]

/-- At the front of a stream, `collect` hands on the first request when it has
been read completely, and only takes in bytes otherwise. -/
theorem collect_of_stream {content unread coming : List UInt8}
    (stream : content ++ unread ++ coming = requests.flatten)
    (arrived : unread ≠ []) (room : content.length + 1 < rtspParseBufferSize) :
    ∃ passed todo, requests = passed ++ todo ∧
      (collect content unread).2.toList = passed.map requestText ∧
      (collect content unread).1 ++
          unread.drop (rtspParseBufferSize - 1 - content.length) ++ coming =
        todo.flatten ∧
      (collect content unread).1.length + 1 < rtspParseBufferSize := by
  set space := rtspParseBufferSize - 1 - content.length with spaceEq
  set text := content ++ unread.take space with textEq
  have restream : text ++ (unread.drop space ++ coming) = requests.flatten := by
    rw [← stream, textEq, List.append_assoc, ← List.append_assoc (List.take _ _),
      List.take_append_drop, List.append_assoc]
  have textLength : text.length ≤ 1023 := by
    have cut := List.length_take_le space unread
    rw [textEq, List.length_append]
    simp only [rtspParseBufferSize] at spaceEq room
    omega
  cases requests with
  | nil =>
      have empty : unread = [] := by
        simp only [List.flatten_nil, List.append_eq_nil_iff] at stream
        exact stream.1.2
      exact absurd empty arrived
  | cons request later =>
      have isRequest := areRequests request List.mem_cons_self
      have short := isRequest.short
      have fourLe := isRequest.four_le
      rw [List.flatten_cons] at restream
      have found := firstOccurrence_of_stream isRequest restream
      by_cases inside : request.length ≤ text.length
      · obtain ⟨headerEq, onward⟩ := take_drop_of_stream restream inside
        have backEq : request.length - 4 + 4 = request.length := by omega
        rw [if_pos inside] at found
        simp only [collect, ← spaceEq, ← textEq, found, backEq, headerEq]
        refine ⟨[request], later, rfl, rfl, by rw [List.append_assoc, onward], ?_⟩
        rw [List.length_drop, rtspParseBufferSize]
        omega
      · rw [if_neg inside] at found
        simp only [collect, ← spaceEq, ← textEq, found]
        refine ⟨[], request :: later, rfl, rfl,
          by rw [List.append_assoc, restream, List.flatten_cons], ?_⟩
        rw [rtspParseBufferSize]
        omega

/-- A call that reads accounts for what it hands on and for what it leaves. -/
theorem framed_processRTSP {connection : Connection}
    (framed : connection.Framed requests) (arrived : connection.unread ≠ []) :
    let result := processRTSP true connection.unread connection.parser
    ({ connection with
        parser := result.parser
        unread := result.unread
        handled := connection.handled ++ result.request.toList } :
      Connection).Framed requests := by
  intro result
  have unreadFree := framed.nul_notMem areRequests
  obtain ⟨done, todo, rfl, handledEq, stream⟩ := framed.split
  have areTodo : ∀ bytes ∈ todo, IsRequest bytes := fun bytes isIn =>
    areRequests bytes (List.mem_append_right done isIn)
  obtain ⟨collected, unreadEq, sizeEq, positionEq⟩ :=
    processRTSP_collect framed.sound arrived unreadFree
  have room := framed.sound.room
  rw [← content_length framed.sound] at room
  obtain ⟨passed, later, rfl, passedEq, onward, short⟩ :=
    collect_of_stream areTodo stream arrived room
  rw [← collected] at passedEq onward short
  refine ⟨⟨sizeEq, ?_, fun member => ?_⟩, done ++ passed, later, ?_, ?_, ?_⟩
  · rw [positionEq]
    exact short
  · apply nul_notMem_flatten fun bytes isIn => areTodo bytes (List.mem_append_right passed isIn)
    rw [← onward]
    exact List.mem_append_left _ (List.mem_append_left _ member)
  · rw [List.append_assoc]
  · rw [List.map_append, ← handledEq, ← passedEq]
  · rw [← onward, unreadEq]

theorem framed_step {connection next : Connection} {event : ConnectionEvent}
    (framed : connection.Framed requests)
    (stepped : connectionStep connection event = some next) : next.Framed requests := by
  cases event with
  | arrives count =>
      cases stepped
      obtain ⟨done, todo, requestsEq, handledEq, stream⟩ := framed.split
      refine ⟨framed.sound, done, todo, requestsEq, handledEq, ?_⟩
      rw [← stream]
      simp
  | processRTSP connected =>
      cases stepped
      by_cases nothing : connected = false ∨ connection.unread = []
      · rw [processRTSP_nothing nothing]
        simpa using framed
      · rw [not_or, Bool.not_eq_false] at nothing
        rw [nothing.1]
        exact framed_processRTSP areRequests framed nothing.2

end Framed

theorem areRequests_map (requests : List Request) :
    ∀ bytes ∈ requests.map Request.bytes, IsRequest bytes := by
  intro bytes member
  obtain ⟨request, -, rfl⟩ := List.mem_map.mp member
  exact request.isRequest

theorem Connection.Accounted.nul_notMem {requests : List Request}
    {connection : Connection} (accounted : connection.Accounted requests) :
    0 ∉ connection.unread :=
  ((accounted_iff_framed requests connection).mp accounted).nul_notMem (areRequests_map requests)

theorem accounted_step {requests : List Request} {connection next : Connection}
    {event : ConnectionEvent} (accounted : connection.Accounted requests)
    (stepped : connectionStep connection event = some next) :
    next.Accounted requests := by
  rw [accounted_iff_framed] at accounted ⊢
  exact framed_step (areRequests_map requests) accounted stepped

/-! ## When a request is left waiting -/

/-- A call that drains the socket leaves what lies behind the first request. -/
theorem content_of_drained {requests : List Request} {connection : Connection}
    (accounted : connection.Accounted requests) (arrived : connection.unread ≠ [])
    (drained : connection.parser.content.length + connection.unread.length <
      rtspParseBufferSize) :
    let text := connection.parser.content ++ connection.unread
    let result := processRTSP true connection.unread connection.parser
    result.unread = [] ∧
      result.parser.content =
        match firstOccurrence endOfHeaderMark text with
        | none => text
        | some endOfHeader => text.drop (endOfHeader + 4) := by
  obtain ⟨collected, unreadEq, -, -⟩ :=
    processRTSP_collect accounted.sound arrived accounted.nul_notMem
  have all : connection.unread.length ≤
      rtspParseBufferSize - 1 - connection.parser.content.length := by omega
  intro text result
  refine ⟨by rw [unreadEq, List.drop_of_length_le all], ?_⟩
  rw [collect, List.take_of_length_le all] at collected
  change (result.parser.content, result.request) = _ at collected
  cases found : firstOccurrence endOfHeaderMark text with
  | none =>
      rw [show firstOccurrence endOfHeaderMark _ = none from found] at collected
      exact congrArg Prod.fst collected
  | some endOfHeader =>
      rw [show firstOccurrence endOfHeaderMark _ = some endOfHeader from found]
        at collected
      exact congrArg Prod.fst collected

/-- A drained socket with no complete request in the buffer. -/
def Connection.Settled (connection : Connection) : Prop :=
  connection.unread = [] → ¬ HoldsCompleteRequest connection.parser.content

theorem settled_step {requests : List Request} {connection next : Connection}
    {event : ConnectionEvent} (accounted : connection.Accounted requests)
    (settled : connection.Settled) (one : OneRequestWhenDrained connection event)
    (stepped : connectionStep connection event = some next) :
    next.Settled := by
  intro empty
  cases event with
  | arrives count =>
      cases stepped
      exact settled (List.append_eq_nil_iff.mp empty).1
  | processRTSP connected =>
      cases stepped
      by_cases nothing : connected = false ∨ connection.unread = []
      · simp only [processRTSP_nothing nothing] at empty ⊢
        exact settled empty
      rw [not_or, Bool.not_eq_false] at nothing
      obtain ⟨rfl, arrived⟩ := nothing
      by_cases drained : connection.parser.content.length +
          connection.unread.length < rtspParseBufferSize
      · simp only [(content_of_drained accounted arrived drained).2]
        cases found : firstOccurrence endOfHeaderMark
            (connection.parser.content ++ connection.unread) with
        | none =>
            rintro ⟨_, waiting⟩
            rw [found] at waiting
            cases waiting
        | some endOfHeader => exact one rfl arrived drained endOfHeader found
      · have unreadEq := (processRTSP_collect accounted.sound arrived
          accounted.nul_notMem).2.1
        simp only [unreadEq, List.drop_eq_nil_iff] at empty
        have room := accounted.sound.room
        rw [← content_length accounted.sound] at room
        omega

/-- With the socket drained and no complete request in the buffer, every
request that has been read completely has been passed on. -/
theorem allPassedOn_of_accounted {requests : List Request}
    {connection : Connection} (accounted : connection.Accounted requests)
    (empty : connection.unread = [])
    (noneWaits : ¬ HoldsCompleteRequest connection.parser.content) :
    AllPassedOn requests connection := by
  intro complete rest requestsEq haveRead
  obtain ⟨done, todo, splitEq, handledEq, stream⟩ := accounted.split
  rw [empty, List.append_nil] at stream
  rw [handledEq]
  have doneOrComplete : complete <+: done ∨ done <+: complete :=
    List.prefix_or_prefix_of_prefix (requestsEq ▸ List.prefix_append _ _)
      (splitEq ▸ List.prefix_append _ _)
  rcases doneOrComplete with ⟨more, rfl⟩ | ⟨more, rfl⟩
  · rw [List.map_append]
    exact List.prefix_append _ _
  cases more with
  | nil => rw [List.append_nil]
  | cons request more =>
      -- The next request would have been read completely.
      have todoEq : todo = request :: (more ++ rest) := by
        rw [splitEq, List.append_assoc] at requestsEq
        exact List.append_cancel_left requestsEq
      subst todoEq
      rw [requestStream, List.flatMap_cons] at stream
      have found := firstOccurrence_of_stream request.isRequest stream
      have lengths := congrArg List.length stream
      rw [splitEq] at haveRead
      simp only [requestStream, List.flatMap_append, List.flatMap_cons, List.length_append,
        empty, List.length_nil] at haveRead lengths
      rw [if_pos (by omega)] at found
      exact absurd ⟨_, found⟩ noneWaits

/-- No request is left waiting in a run exactly when every call that can
drain the socket finds at most one complete request. -/
theorem noneLeftWaiting_iff_oneRequestWhenDrained (buffer : ParseBuffer)
    (requests : List Request) (events : List ConnectionEvent) :
    NoneLeftWaiting buffer requests events ↔
      Guarded connectionStep OneRequestWhenDrained (Connection.opened buffer requests)
        events := by
  have accountedAt : ∀ {before connection},
      run connectionStep (Connection.opened buffer requests) before = some connection →
        connection.Accounted requests := fun ran =>
    invariant_of_run (fun _ _ _ => accounted_step) (accounted_opened buffer requests) ran
  constructor
  · intro noneWaits
    rw [guarded_iff_forall_split]
    rintro before event rest rfl connection reached
    cases event with
    | arrives count => trivial
    | processRTSP connected =>
        rintro rfl arrived drained endOfHeader found
        obtain ⟨empty, contentEq⟩ :=
          content_of_drained (accountedAt reached) arrived drained
        have none := (noneWaits before true rest rfl _ (run_concat reached _) empty).1
        simp only [contentEq, found] at none
        exact none
  · rintro guarded before connected rest rfl connection reached empty
    rw [List.append_cons] at guarded
    have kept : connection.Accounted requests ∧ connection.Settled := by
      refine @invariant_of_guarded Connection ConnectionEvent connectionStep
        OneRequestWhenDrained
        (fun connection => connection.Accounted requests ∧ connection.Settled) ?_
        _ _ _ ?_ guarded.append.1 reached
      · rintro _ _ _ ⟨accounted, settled⟩ one stepped
        exact ⟨accounted_step accounted stepped,
          settled_step accounted settled one stepped⟩
      · refine ⟨accounted_opened buffer requests, ?_⟩
        rintro - ⟨_, waiting⟩
        exact absurd waiting (by
          simp [Connection.opened, RtspParser.content, RtspParser.opened, firstOccurrence,
            endOfHeaderMark, ascii])
    have noneWaits := kept.2 empty
    exact ⟨noneWaits, allPassedOn_of_accounted kept.1 empty noneWaits⟩

/-- OPTIONS with its sequence number. -/
def optionsRequest : Request where
  bytes := ascii "OPTIONS rtsp://mic/audio RTSP/1.0\r\nCSeq: 1\r\n\r\n"
  nulFree := by decide
  terminated := by decide
  short := by decide
  notPlay := by decide

/-- Two requests that arrive together: the second one stays in the buffer
although the socket is drained. -/
theorem second_request_left_waiting :
    ¬ NoneLeftWaiting ParseBuffer.zero [optionsRequest, optionsRequest]
      [.arrives 200, .processRTSP true] := by
  intro noneWaits
  have stepped : ∃ both,
      connectionStep (Connection.opened ParseBuffer.zero [optionsRequest, optionsRequest])
          (.arrives 200) = some both ∧
        both.parser.content = [] ∧
        both.unread = requestStream [optionsRequest, optionsRequest] :=
    ⟨_, rfl, rfl, rfl⟩
  obtain ⟨both, stepped, contentNil, unreadEq⟩ := stepped
  have reached : run connectionStep
      (Connection.opened ParseBuffer.zero [optionsRequest, optionsRequest]) [.arrives 200] =
      some both := by
    rw [run_cons, stepped]
    rfl
  have found : firstOccurrence endOfHeaderMark
      (requestStream [optionsRequest, optionsRequest]) = some 42 := by decide
  obtain ⟨empty, contentEq⟩ :=
    content_of_drained (accounted_step (accounted_opened _ _) stepped)
      (by rw [unreadEq]; decide) (by rw [contentNil, unreadEq]; decide)
  have noneInBuffer :=
    (noneWaits [.arrives 200] true [] rfl _ (run_concat reached _) empty).1
  rw [contentEq, contentNil, unreadEq, List.nil_append, found] at noneInBuffer
  exact noneInBuffer ⟨42, by decide⟩

end EchoMic
