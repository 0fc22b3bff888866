import EchoMic.RtpRoundTrip

/-!
# Timestamps and the capture clock

The turns of the capture loop while a stream runs.  The timestamp of the RTP
header counts the samples of the packets that were sent; the capture clock
counts the samples of all blocks that were read and processed.
-/

namespace EchoMic

open GuardedRuns InterleavedFrames RtpDecoding

/-- One turn of the loop in `audioCaptureTask`: what `i2s_read` answers, the
block that is processed from it, and what the socket answers. -/
structure CaptureTurn where
  readOk : Bool
  bytesRead : Nat
  block : AudioBlock
  samplesRead_eq : block.samples.length = bytesRead / 2
  outcome : SendOutcome
  deriving DecidableEq

namespace CaptureTurn

/-- The loop continues without a block. -/
def ReadsNothing (turn : CaptureTurn) : Prop :=
  turn.readOk = false ∨ turn.bytesRead = 0

instance (turn : CaptureTurn) : Decidable turn.ReadsNothing :=
  inferInstanceAs (Decidable (_ ∨ _))

/-- The samples by which the turn moves the capture clock. -/
def captured (turn : CaptureTurn) : Nat :=
  if turn.ReadsNothing then 0 else turn.block.samples.length

/-- The stream runs and the turn puts a packet on the wire. -/
def Sends (session : Session) (turn : CaptureTurn) : Prop :=
  ¬ turn.ReadsNothing ∧ session.sender.isStreaming = true ∧
    sendSucceeds session.sender turn.block.samples turn.outcome = true

instance (session : Session) (turn : CaptureTurn) : Decidable (turn.Sends session) :=
  inferInstanceAs (Decidable (_ ∧ _))

/-- The timestamp that a receiver reads from the packet of a turn. -/
def timestamp (session : Session) (turn : CaptureTurn) : Option Nat :=
  (decodeRtp (packetFrame session.sender turn.block)).map RtpPacket.timestamp

end CaptureTurn

def captureStep (session : Session) (turn : CaptureTurn) : Option Session :=
  if turn.ReadsNothing then
    if session.sender.isStreaming then some session else none
  else sessionStep session ⟨turn.block, turn.outcome⟩

def capturedSamples (turns : List CaptureTurn) : Nat :=
  (turns.map CaptureTurn.captured).sum

/-- `first` and `second` are sent in `atFirst` and in `atSecond`, and no turn
between them is. -/
structure SuccessivelySent (start : Session) (before : List CaptureTurn) (first : CaptureTurn)
    (between : List CaptureTurn) (second : CaptureTurn) (atFirst atSecond : Session) : Prop where
  reachesFirst : run captureStep start before = some atFirst
  firstSent : first.Sends atFirst
  reachesSecond : run captureStep atFirst (first :: between) = some atSecond
  noneBetween : ∀ next, captureStep atFirst first = some next →
    Guarded captureStep (fun session turn => ¬ turn.Sends session) next between
  secondSent : second.Sends atSecond

/-- The difference of two timestamps, modulo 2^32. -/
def timestampDifference (first second : Option Nat) : Option Nat := do
  let first ← first
  let second ← second
  return (second + 2 ^ 32 - first) % 2 ^ 32

/-- Between successively sent packets the timestamp moves with the capture
clock. -/
def TimestampsFollowCapture (start : Session) : Prop :=
  ∀ before first between second atFirst atSecond,
    SuccessivelySent start before first between second atFirst atSecond →
    timestampDifference (first.timestamp atFirst) (second.timestamp atSecond) =
      some (capturedSamples (first :: between) % 2 ^ 32)

/-! ## The timestamp counts what is sent -/

theorem timestamp_eq (session : Session) (turn : CaptureTurn) :
    turn.timestamp session = some session.sender.rtpTimestamp.toNat := by
  have sameFrame : packetFrame session.sender turn.block =
      blockFrame session.sender.rtpSSRC session.sender.rtpSequence.toNat
        session.sender.rtpTimestamp.toNat turn.block := by
    simp [packetFrame, blockFrame]
  have bound := session.sender.rtpTimestamp.toNat_lt
  rw [CaptureTurn.timestamp, sameFrame, decodeRtp_blockFrame]
  simp only [expectedPacket, Option.map_some, Option.some.injEq]
  omega

/-- What a turn does to the timestamp. -/
theorem captureStep_rtpTimestamp {session next : Session} {turn : CaptureTurn}
    (stepped : captureStep session turn = some next) :
    next.sender.rtpTimestamp =
      if turn.Sends session then
        session.sender.rtpTimestamp + UInt32.ofNat turn.block.samples.length
      else session.sender.rtpTimestamp := by
  unfold captureStep at stepped
  split at stepped
  · rename_i nothing
    split at stepped <;> cases stepped
    rw [if_neg fun sends => sends.1 nothing]
  · rename_i something
    obtain ⟨-, -, timestamp⟩ :=
      sendRTPPacket_numbering session.sender turn.block.samples turn.outcome
    unfold sessionStep at stepped
    split at stepped <;> cases stepped
    rename_i streaming
    simp only [timestamp, CaptureTurn.Sends, something, streaming, not_false_eq_true, true_and]

theorem rtpTimestamp_of_noneSent {session last : Session} {turns : List CaptureTurn}
    (noneSent : Guarded captureStep (fun session turn => ¬ turn.Sends session) session turns)
    (ran : run captureStep session turns = some last) :
    last.sender.rtpTimestamp = session.sender.rtpTimestamp := by
  refine @invariant_of_guarded Session CaptureTurn captureStep
    (fun session turn => ¬ turn.Sends session)
    (fun reached => reached.sender.rtpTimestamp = session.sender.rtpTimestamp) ?_
    session last turns rfl noneSent ran
  intro reached turn next same notSent stepped
  rw [captureStep_rtpTimestamp stepped, if_neg notSent, same]

section Difference

variable {start : Session} {before between : List CaptureTurn} {first second : CaptureTurn}
variable {atFirst atSecond : Session}

/-- Between successively sent packets the timestamp moves by the samples of
the first. -/
theorem SuccessivelySent.rtpTimestamp
    (sent : SuccessivelySent start before first between second atFirst atSecond) :
    atSecond.sender.rtpTimestamp =
      atFirst.sender.rtpTimestamp + UInt32.ofNat first.block.samples.length := by
  obtain ⟨next, stepped, onward⟩ := run_cons_some sent.reachesSecond
  rw [rtpTimestamp_of_noneSent (sent.noneBetween next stepped) onward,
    captureStep_rtpTimestamp stepped, if_pos sent.firstSent]

theorem SuccessivelySent.difference
    (sent : SuccessivelySent start before first between second atFirst atSecond) :
    timestampDifference (first.timestamp atFirst) (second.timestamp atSecond) =
      some first.block.samples.length := by
  have length := first.block.length_le
  have bound := atFirst.sender.rtpTimestamp.toNat_lt
  simp only [maxBufferSize] at length
  simp only [timestampDifference, timestamp_eq, sent.rtpTimestamp, UInt32.toNat_add,
    UInt32.toNat_ofNat', Option.bind_eq_bind, Option.bind_some, Option.pure_def,
    Option.some.injEq]
  omega

end Difference

/-! ## Drops in a row -/

theorem capturedSamples_cons (turn : CaptureTurn) (turns : List CaptureTurn) :
    capturedSamples (turn :: turns) = turn.captured + capturedSamples turns :=
  rfl

/-- A packet that is dropped without ending the stream counts as a failure. -/
theorem failures_of_dropped (sender : Sender) (audioData : List UInt16) (outcome : SendOutcome)
    (failed : ¬ sendSucceeds sender audioData outcome = true)
    (streaming : (sendRTPPacket sender audioData outcome).isStreaming = true) :
    (sendRTPPacket sender audioData outcome).consecutiveWriteFailures =
        sender.consecutiveWriteFailures + 1 ∧
      sender.consecutiveWriteFailures + 1 < maxWriteFailures := by
  unfold sendSucceeds at failed
  unfold sendRTPPacket at streaming ⊢
  cases connected : outcome.connected with
  | false => simp [connected, Sender.disconnect] at streaming
  | true =>
      simp only [connected, Bool.true_and, Bool.not_eq_true] at failed
      simp only [connected, failed, Bool.not_true, Bool.false_eq_true, if_false] at streaming ⊢
      split at streaming
      · simp [Sender.disconnect] at streaming
      · rename_i few
        rw [if_neg few]
        exact ⟨rfl, by simpa using few⟩

theorem failures_of_sent {session next : Session} {turn : CaptureTurn}
    (stepped : captureStep session turn = some next) (sent : turn.Sends session) :
    next.sender.consecutiveWriteFailures = 0 := by
  obtain ⟨something, streaming, success⟩ := sent
  rw [captureStep, if_neg something, sessionStep, if_pos streaming] at stepped
  cases stepped
  simp only [sendSucceeds, Bool.and_eq_true] at success
  simp [sendRTPPacket, success.1, success.2]

/-- The loop sends nothing once the stream has ended. -/
theorem isStreaming_of_run {session last : Session} {turns : List CaptureTurn}
    (ran : run captureStep session turns = some last)
    (streaming : last.sender.isStreaming = true) : session.sender.isStreaming = true := by
  cases turns with
  | nil =>
      cases ran
      exact streaming
  | cons turn turns =>
      obtain ⟨next, stepped, -⟩ := run_cons_some ran
      unfold captureStep sessionStep at stepped
      split at stepped
      · split at stepped
        · assumption
        · cases stepped
      · split at stepped
        · assumption
        · cases stepped

/-- A turn that sends nothing and keeps the stream is a failure more, or has
no block. -/
theorem captured_of_dropped {session next : Session} {turn : CaptureTurn}
    (stepped : captureStep session turn = some next) (notSent : ¬ turn.Sends session)
    (few : session.sender.consecutiveWriteFailures.toNat < 100)
    (streaming : next.sender.isStreaming = true) :
    turn.captured + maxBufferSize * session.sender.consecutiveWriteFailures.toNat ≤
        maxBufferSize * next.sender.consecutiveWriteFailures.toNat ∧
      next.sender.consecutiveWriteFailures.toNat < 100 := by
  have length := turn.block.length_le
  unfold captureStep at stepped
  split at stepped
  · rename_i nothing
    split at stepped <;> cases stepped
    rw [CaptureTurn.captured, if_pos nothing]
    omega
  · rename_i something
    unfold sessionStep at stepped
    split at stepped <;> cases stepped
    rename_i wasStreaming
    have failed : ¬ sendSucceeds session.sender turn.block.samples turn.outcome = true :=
      fun sent => notSent ⟨something, wasStreaming, sent⟩
    obtain ⟨kept, counted⟩ := failures_of_dropped session.sender turn.block.samples turn.outcome
      failed streaming
    have next : (session.sender.consecutiveWriteFailures + 1).toNat =
        session.sender.consecutiveWriteFailures.toNat + 1 := by
      rw [UInt32.toNat_add, UInt32.toNat_one]
      omega
    rw [UInt32.lt_iff_toNat_lt, next] at counted
    rw [CaptureTurn.captured, if_neg something, kept, next]
    constructor
    · rw [Nat.mul_succ]
      omega
    · exact counted

/-- While packets are dropped, every block that is captured counts as a
failure, and 100 failures would have ended the stream. -/
theorem capturedSamples_of_noneSent {session last : Session} {turns : List CaptureTurn}
    (noneSent : Guarded captureStep (fun session turn => ¬ turn.Sends session) session turns)
    (ran : run captureStep session turns = some last)
    (few : session.sender.consecutiveWriteFailures.toNat < 100)
    (streaming : last.sender.isStreaming = true) :
    capturedSamples turns + maxBufferSize * session.sender.consecutiveWriteFailures.toNat ≤
        maxBufferSize * last.sender.consecutiveWriteFailures.toNat ∧
      last.sender.consecutiveWriteFailures.toNat < 100 := by
  induction turns generalizing session with
  | nil =>
      cases ran
      exact ⟨by simp [capturedSamples], few⟩
  | cons turn turns ih =>
      obtain ⟨next, stepped, onward⟩ := run_cons_some ran
      obtain ⟨notSent, noneSentAfter⟩ := noneSent
      have stillStreaming := isStreaming_of_run onward streaming
      obtain ⟨counted, fewAfter⟩ := captured_of_dropped stepped notSent few stillStreaming
      obtain ⟨countedAfter, fewLast⟩ := ih (noneSentAfter next stepped) onward fewAfter
      rw [capturedSamples_cons]
      exact ⟨by omega, fewLast⟩

/-- The timestamp moves by the samples captured between two successively sent
packets less those of the blocks dropped in between; so it follows the
capture clock exactly when no samples are dropped. -/
theorem timestampDifference_of_successivelySent (rtpSSRC consecutiveWriteFailures : UInt32)
    {before : List CaptureTurn} {first : CaptureTurn} {between : List CaptureTurn}
    {second : CaptureTurn} {atFirst atSecond : Session}
    (sent : SuccessivelySent (Session.play rtpSSRC consecutiveWriteFailures) before first
      between second atFirst atSecond) :
    timestampDifference (first.timestamp atFirst) (second.timestamp atSecond) =
        some (capturedSamples (first :: between) - capturedSamples between) ∧
      (timestampDifference (first.timestamp atFirst) (second.timestamp atSecond) =
          some (capturedSamples (first :: between) % 2 ^ 32) ↔
        capturedSamples between = 0) := by
  have length := first.block.length_le
  have captured : capturedSamples (first :: between) =
      first.block.samples.length + capturedSamples between := by
    rw [capturedSamples_cons, CaptureTurn.captured, if_neg sent.firstSent.1]
  obtain ⟨next, stepped, onward⟩ := run_cons_some sent.reachesSecond
  have reset := failures_of_sent stepped sent.firstSent
  obtain ⟨dropped, few⟩ := capturedSamples_of_noneSent (sent.noneBetween next stepped) onward
    (by rw [reset]; decide) sent.secondSent.2.1
  simp only [maxBufferSize] at length dropped
  rw [sent.difference, captured]
  simp only [Option.some.injEq]
  omega

theorem twoSamples_le : ([1, 2] : List UInt16).length ≤ maxBufferSize := by
  decide

/-- A turn that reads two samples and hands them over. -/
def CaptureTurn.readsTwo (outcome : SendOutcome) : CaptureTurn where
  readOk := true
  bytesRead := 4
  block := ⟨[1, 2], twoSamples_le⟩
  samplesRead_eq := rfl
  outcome := outcome

/-- The socket takes the whole packet. -/
def turnTaken : CaptureTurn :=
  .readsTwo
    { connected := true
      inter := [.wrote 4]
      header := [.wrote 12]
      payload := [.wrote 4] }

/-- The socket is full. -/
def turnDropped : CaptureTurn :=
  .readsTwo
    { connected := true
      inter := [.wrote 0]
      header := []
      payload := [] }

theorem successivelySent_dropped :
    ∃ atSecond, SuccessivelySent (Session.play 0x43215678 0) [] turnTaken [turnDropped] turnTaken
      (Session.play 0x43215678 0) atSecond := by
  refine ⟨_, rfl, by decide, rfl, fun next stepped => ?_, by decide⟩
  cases stepped
  exact ⟨by decide, fun _ _ => trivial⟩

/-- The second packet is stamped 2 after four samples. -/
theorem not_timestampsFollowCapture : ¬ TimestampsFollowCapture (Session.play 0x43215678 0) := by
  intro follow
  obtain ⟨atSecond, sent⟩ := successivelySent_dropped
  have difference := follow _ _ _ _ _ _ sent
  rw [sent.difference] at difference
  exact absurd difference (by decide)

theorem timestampDifference_dropped :
    ∃ atSecond, SuccessivelySent (Session.play 0x43215678 0) [] turnTaken [turnDropped] turnTaken
        (Session.play 0x43215678 0) atSecond ∧
      timestampDifference (turnTaken.timestamp (Session.play 0x43215678 0))
          (turnTaken.timestamp atSecond) =
        some (capturedSamples [turnTaken, turnDropped] - capturedSamples [turnDropped]) := by
  obtain ⟨atSecond, sent⟩ := successivelySent_dropped
  exact ⟨atSecond, sent, (timestampDifference_of_successivelySent 0x43215678 0 sent).1⟩

end EchoMic
