import EchoMic.GuardedRuns
import EchoMic.RtpPacketSender

/-!
# Wire framing of a streaming session

A session is a sequence of `sendRTPPacket` calls since PLAY, each with its
block of samples and with what the clock and the socket answer.  A failed
call can leave part of a frame on the wire and does not close the
connection.  This file compares the bytes the socket accepted with the
packets that were sent, and proves exactly when the framing survives.
-/

namespace EchoMic

open InterleavedFrames GuardedRuns

structure SendCall where
  block : AudioBlock
  outcome : SendOutcome
  deriving DecidableEq

/-- A session: the globals, and the packets for which `sendRTPPacket` took
its success branch, in order. -/
structure Session where
  sender : Sender
  sent : List Frame
  deriving DecidableEq

/-- The state right after PLAY.  The failure counter is a file-level static
that earlier streams may have left at any value. -/
def Session.play (rtpSSRC consecutiveWriteFailures : UInt32) : Session where
  sender :=
    { rtpSequence := 0
      rtpTimestamp := 0
      rtpSSRC := rtpSSRC
      audioPacketsSent := 0
      audioPacketsDropped := 0
      consecutiveWriteFailures := consecutiveWriteFailures
      streamClient := true
      isStreaming := true
      core1OwnsLED := true
      clientOpen := true
      accepted := [] }
  sent := []

/-- One packet of a session.  Core 1 sends while `isStreaming` holds. -/
def sessionStep (session : Session) (call : SendCall) : Option Session :=
  if session.sender.isStreaming then
    some
      { sender := sendRTPPacket session.sender call.block.samples call.outcome
        sent :=
          if sendSucceeds session.sender call.block.samples call.outcome then
            session.sent ++ [packetFrame session.sender call.block]
          else session.sent }
  else none

/-- The accepted bytes are exactly the sent packets and at most one torn
frame, and behind a torn frame the rest of the session adds nothing. -/
def WireIntact (session : Session) (rest : List SendCall) : Prop :=
  ∃ tail, parseFrames session.sender.accepted = (session.sent, tail) ∧
    IsTorn tail ∧
    (tail ≠ [] → ∀ last, run sessionStep session rest = some last →
      last.sender.accepted = session.sender.accepted)

theorem WireIntact.frames_eq {session : Session} {rest : List SendCall}
    (intact : WireIntact session rest) :
    (parseFrames session.sender.accepted).1 = session.sent := by
  obtain ⟨tail, parsed, -⟩ := intact
  rw [parsed]

/-- `WireIntact` at every moment of a session. -/
def FramingSurvives (start : Session) (calls : List SendCall) : Prop :=
  ∀ before rest, calls = before ++ rest →
    ∀ session, run sessionStep start before = some session →
      WireIntact session rest

def EndsInsideFrame (accepted : List UInt8) : Prop :=
  (parseFrames accepted).2 ≠ []

instance (accepted : List UInt8) : Decidable (EndsInsideFrame accepted) :=
  inferInstanceAs (Decidable (_ ≠ _))

/-- A call that starts while the wire ends inside a frame finds the client
gone, or its first write is refused. -/
def RefusedInsideFrame (session : Session) (call : SendCall) : Prop :=
  EndsInsideFrame session.sender.accepted →
    call.outcome.connected = false ∨ RefusesFirst call.outcome.inter

/-! ## One call keeps the wire framed -/

/-- The accepted bytes are the sent packets and at most one torn frame. -/
def WireFramed (session : Session) : Prop :=
  ∃ tail, session.sender.accepted = session.sent.flatMap Frame.encode ++ tail ∧
    IsTorn tail

theorem wireFramed_play (rtpSSRC consecutiveWriteFailures : UInt32) :
    WireFramed (Session.play rtpSSRC consecutiveWriteFailures) :=
  ⟨[], rfl, isTorn_nil ⟨0, [], by decide⟩⟩

theorem sessionStep_some {session next : Session} {call : SendCall}
    (stepped : sessionStep session call = some next) :
    next.sender.accepted =
        session.sender.accepted ++
          sendAdds session.sender call.block.samples call.outcome ∧
      next.sent =
        if sendSucceeds session.sender call.block.samples call.outcome then
          session.sent ++ [packetFrame session.sender call.block]
        else session.sent := by
  unfold sessionStep at stepped
  split at stepped
  · cases stepped
    exact ⟨sendRTPPacket_accepted _ _ _, rfl⟩
  · cases stepped

theorem parseFrames_of_framed {session : Session} {tail : List UInt8}
    (split : session.sender.accepted =
      session.sent.flatMap Frame.encode ++ tail)
    (torn : IsTorn tail) :
    parseFrames session.sender.accepted = (session.sent, tail) := by
  rw [split, parseFrames_append _ torn]

/-- The step lemma: a call that is refused inside a frame keeps the wire
framed. -/
theorem wireFramed_step {session next : Session} {call : SendCall}
    (framed : WireFramed session) (refused : RefusedInsideFrame session call)
    (stepped : sessionStep session call = some next) :
    WireFramed next := by
  obtain ⟨tail, split, torn⟩ := framed
  obtain ⟨acceptedEq, sentEq⟩ := sessionStep_some stepped
  by_cases atBoundary : tail = []
  · subst tail
    rw [List.append_nil] at split
    by_cases success :
        sendSucceeds session.sender call.block.samples call.outcome = true
    · refine ⟨[], ?_, torn⟩
      rw [acceptedEq, split, sentEq, if_pos success,
        (sendSucceeds_iff _ _ _).mp success]
      simp
    · refine ⟨sendAdds session.sender call.block.samples call.outcome, ?_,
        packetFrame session.sender call.block,
        sendAdds_prefix _ _ _, fun all => success ((sendSucceeds_iff _ _ _).mpr all)⟩
      rw [acceptedEq, split, sentEq, if_neg success]
  · have inside : EndsInsideFrame session.sender.accepted := by
      rw [EndsInsideFrame, parseFrames_of_framed split torn]
      exact atBoundary
    have nothing : sendAdds session.sender call.block.samples call.outcome = [] :=
      (sendAdds_nil_iff _ _ _).mpr (refused inside)
    have failed :
        ¬ sendSucceeds session.sender call.block.samples call.outcome = true := by
      rw [sendSucceeds_iff, nothing]
      simp [Frame.encode]
    refine ⟨tail, ?_, torn⟩
    rw [acceptedEq, nothing, List.append_nil, sentEq, if_neg failed, split]

/-- Accepted bytes are never taken back. -/
theorem accepted_prefix_of_run {start last : Session} {calls : List SendCall}
    (ran : run sessionStep start calls = some last) :
    start.sender.accepted <+: last.sender.accepted := by
  refine @invariant_of_run Session SendCall sessionStep
    (fun session => start.sender.accepted <+: session.sender.accepted) ?_
    start last calls (List.prefix_refl _) ran
  intro session call next grown stepped
  rw [(sessionStep_some stepped).1]
  exact grown.trans (List.prefix_append _ _)

/-- While the wire ends inside a frame, refused calls add nothing. -/
theorem accepted_eq_of_guarded {start last : Session} {calls : List SendCall}
    (inside : EndsInsideFrame start.sender.accepted)
    (guarded : Guarded sessionStep RefusedInsideFrame start calls)
    (ran : run sessionStep start calls = some last) :
    last.sender.accepted = start.sender.accepted := by
  refine @invariant_of_guarded Session SendCall sessionStep RefusedInsideFrame
    (fun session => session.sender.accepted = start.sender.accepted) ?_
    start last calls rfl guarded ran
  intro session call next same refused stepped
  have nothing : sendAdds session.sender call.block.samples call.outcome = [] :=
    (sendAdds_nil_iff _ _ _).mpr (refused (by rw [same]; exact inside))
  rw [(sessionStep_some stepped).1, nothing, List.append_nil]
  exact same

/-! ## The whole session -/

theorem wireIntact_of_guarded {session : Session} {rest : List SendCall}
    (framed : WireFramed session)
    (guarded : Guarded sessionStep RefusedInsideFrame session rest) :
    WireIntact session rest := by
  obtain ⟨tail, split, torn⟩ := framed
  have parsed := parseFrames_of_framed split torn
  refine ⟨tail, parsed, torn, fun inside last ran => ?_⟩
  refine accepted_eq_of_guarded ?_ guarded ran
  rw [EndsInsideFrame, parsed]
  exact inside

/-- The framing of a session survives its failed sends exactly when every
call that starts inside a frame is refused at its first write. -/
theorem framingSurvives_iff_refusedInsideFrame
    (rtpSSRC consecutiveWriteFailures : UInt32) (calls : List SendCall)
    (last : Session)
    (ran : run sessionStep (Session.play rtpSSRC consecutiveWriteFailures) calls =
      some last) :
    FramingSurvives (Session.play rtpSSRC consecutiveWriteFailures) calls ↔
      Guarded sessionStep RefusedInsideFrame
        (Session.play rtpSSRC consecutiveWriteFailures) calls := by
  constructor
  · intro survives
    rw [guarded_iff_forall_split]
    rintro before call rest rfl session reached inside
    obtain ⟨tail, parsed, -, stays⟩ := survives before (call :: rest) rfl session reached
    rw [EndsInsideFrame, parsed] at inside
    rw [run_append, reached, Option.bind_some] at ran
    have unchanged := stays inside last ran
    obtain ⟨next, stepped, onward⟩ := run_cons_some ran
    -- Accepted bytes only grow, so the call in between added none either.
    have grown := accepted_prefix_of_run onward
    rw [unchanged, (sessionStep_some stepped).1] at grown
    have noLonger := grown.length_le
    rw [List.length_append] at noLonger
    have nothing :
        sendAdds session.sender call.block.samples call.outcome = [] :=
      List.eq_nil_of_length_eq_zero (by omega)
    exact (sendAdds_nil_iff _ _ _).mp nothing
  · rintro guarded before rest rfl session reached
    obtain ⟨guardedBefore, guardedRest⟩ := guarded.append
    have framed : WireFramed session :=
      invariant_of_guarded (fun _ _ _ => wireFramed_step)
        (wireFramed_play rtpSSRC consecutiveWriteFailures) guardedBefore reached
    exact wireIntact_of_guarded framed (guardedRest session reached)

/-- Two samples whose first send stops after five bytes of the RTP header
and whose second send succeeds. -/
def tornThenSent : List SendCall :=
  [⟨⟨[1, 2], by decide⟩, ⟨true, [.wrote 4], [.wrote 5, .expired], []⟩⟩,
    ⟨⟨[3, 4], by decide⟩, ⟨true, [.wrote 4], [.wrote 12], [.wrote 3, .wrote 1]⟩⟩]

/-- The second frame starts inside the first one, which stays on the wire. -/
theorem framing_lost_after_torn_frame :
    ∃ last, run sessionStep (Session.play 0x43215678 0) tornThenSent = some last ∧
      last.sender.clientOpen = true ∧
      ¬ FramingSurvives (Session.play 0x43215678 0) tornThenSent := by
  refine ⟨_, rfl, rfl, fun survives => ?_⟩
  exact absurd (survives tornThenSent [] rfl _ rfl).frames_eq (by decide)

/-- A session whose only torn frame is its last write keeps its framing. -/
theorem framing_survives_torn_end :
    FramingSurvives (Session.play 0x43215678 0)
      [⟨⟨[1, 2], by decide⟩, ⟨true, [.wrote 4], [.wrote 12], [.wrote 4]⟩⟩,
        ⟨⟨[3, 4], by decide⟩, ⟨true, [.wrote 4], [.wrote 5, .wrote 0], []⟩⟩,
        ⟨⟨[5, 6], by decide⟩, ⟨true, [.expired], [], []⟩⟩] := by
  refine (framingSurvives_iff_refusedInsideFrame 0x43215678 0 _ _ rfl).mpr ?_
  refine ⟨?_, fun _ first => ?_⟩
  · intro inside
    exact absurd inside (by decide)
  cases first
  refine ⟨?_, fun _ second => ?_⟩
  · intro inside
    exact absurd inside (by decide)
  cases second
  exact ⟨fun _ => Or.inr (by decide), fun _ _ => trivial⟩

end EchoMic
