import EchoMic.RtpWireFraming
import EchoMic.Streaks

/-!
# How many failed sends a stream survives

The counter of failed sends is a static of the whole program: neither PLAY
nor the end of a stream clears it.  This file follows it over runs of many
streams, beside the outcomes of the sends since the last PLAY.
-/

namespace EchoMic

open GuardedRuns Streaks

/-- The globals, and whether each send since the last PLAY succeeded, the
latest one first. -/
structure StreamHistory where
  sender : Sender
  sends : List Bool
  deriving DecidableEq

/-- The globals before the first PLAY. -/
def Sender.boot (rtpSSRC : UInt32) : Sender where
  rtpSequence := 0
  rtpTimestamp := 0
  rtpSSRC := rtpSSRC
  audioPacketsSent := 0
  audioPacketsDropped := 0
  consecutiveWriteFailures := 0
  streamClient := false
  isStreaming := false
  core1OwnsLED := false
  clientOpen := false
  accepted := []

def StreamHistory.boot (rtpSSRC : UInt32) : StreamHistory where
  sender := Sender.boot rtpSSRC
  sends := []

/-- A stream ends outside `sendRTPPacket` by TEARDOWN or a stop request.
Core 1 closes the client with it, and a stop request that it does not answer
in time leaves the client as it is. -/
inductive StreamEvent where
  | play
  | send (call : SendCall)
  | ends (closes : Bool)
  deriving DecidableEq

/-- PLAY is served while nothing streams, and everything else happens to a
stream. -/
def streamStep (history : StreamHistory) : StreamEvent → Option StreamHistory
  | .play =>
      if history.sender.isStreaming then none
      else
        some
          { sender :=
              (Session.play history.sender.rtpSSRC
                history.sender.consecutiveWriteFailures).sender
            sends := [] }
  | .send call =>
      if history.sender.isStreaming then
        some
          { sender := sendRTPPacket history.sender call.block.samples call.outcome
            sends :=
              sendSucceeds history.sender call.block.samples call.outcome :: history.sends }
      else none
  | .ends closes =>
      if history.sender.isStreaming then
        some
          { history with
            sender :=
              { history.sender.disconnect with
                clientOpen := history.sender.clientOpen && !closes } }
      else none

/-- A send closes a connected client exactly when it is the last of a hundred
failed sends in a row, all of them since PLAY. -/
def ClosesAfterHundredFailures (start : StreamHistory) (events : List StreamEvent) : Prop :=
  ∀ before call after, events = before ++ .send call :: after →
    ∀ history, run streamStep start before = some history →
      history.sender.isStreaming = true → call.outcome.connected = true →
        ((sendRTPPacket history.sender call.block.samples call.outcome).clientOpen = false ↔
          LastAre (fun succeeded => !succeeded) 100
            (sendSucceeds history.sender call.block.samples call.outcome :: history.sends))

/-- PLAY finds the counter at zero. -/
def PlaysFromZero (history : StreamHistory) (event : StreamEvent) : Prop :=
  event = .play → history.sender.consecutiveWriteFailures = 0

instance (history : StreamHistory) (event : StreamEvent) :
    Decidable (PlaysFromZero history event) :=
  inferInstanceAs (Decidable (_ → _))

/-! ## One send -/

/-- A send to a connected client clears the counter, raises it, or closes the
client at the hundredth failure. -/
theorem sendRTPPacket_cases (sender : Sender) (audioData : List UInt16)
    (outcome : SendOutcome) (connected : outcome.connected = true)
    (below : sender.consecutiveWriteFailures.toNat < 100) :
    let next := sendRTPPacket sender audioData outcome
    let failures := sender.consecutiveWriteFailures.toNat
    (sendSucceeds sender audioData outcome = true ∧
        next.consecutiveWriteFailures.toNat = 0 ∧
        next.clientOpen = sender.clientOpen) ∨
      (sendSucceeds sender audioData outcome = false ∧ failures + 1 < 100 ∧
        next.consecutiveWriteFailures.toNat = failures + 1 ∧
        next.clientOpen = sender.clientOpen) ∨
      sendSucceeds sender audioData outcome = false ∧ failures + 1 = 100 ∧
        next.isStreaming = false ∧ next.clientOpen = false := by
  have raised : (sender.consecutiveWriteFailures + 1).toNat =
      sender.consecutiveWriteFailures.toNat + 1 := by
    rw [UInt32.toNat_add]
    exact Nat.mod_eq_of_lt (by simp; omega)
  simp only [sendRTPPacket, sendSucceeds, connected, Bool.not_true, Bool.false_eq_true,
    if_false, Bool.true_and]
  cases (writePacket sender audioData outcome).1 with
  | true => exact Or.inl ⟨rfl, rfl, rfl⟩
  | false =>
      right
      simp only [Bool.false_eq_true, if_false]
      split
      · rename_i reached
        rw [maxWriteFailures, UInt32.le_iff_toNat_le, raised] at reached
        simp only [UInt32.reduceToNat] at reached
        exact Or.inr ⟨trivial, by omega, rfl, rfl⟩
      · rename_i notReached
        rw [maxWriteFailures, UInt32.le_iff_toNat_le, raised] at notReached
        simp only [UInt32.reduceToNat] at notReached
        exact Or.inl ⟨trivial, by omega, raised, rfl⟩

theorem sendRTPPacket_unconnected (sender : Sender) (audioData : List UInt16)
    (outcome : SendOutcome) (gone : outcome.connected = false) :
    sendRTPPacket sender audioData outcome = sender.disconnect := by
  simp [sendRTPPacket, gone]

/-! ## Runs in which every PLAY finds the counter at zero -/

/-- While a stream runs, the counter is its streak of failed sends. -/
structure CountsFailures (history : StreamHistory) : Prop where
  clientOpen : history.sender.clientOpen = true
  failures : history.sender.consecutiveWriteFailures.toNat =
    streak (fun succeeded => !succeeded) history.sends
  below : history.sender.consecutiveWriteFailures.toNat < 100

theorem countsFailures_send {history : StreamHistory} (counts : CountsFailures history)
    (call : SendCall) :
    let next : StreamHistory :=
      { sender := sendRTPPacket history.sender call.block.samples call.outcome
        sends :=
          sendSucceeds history.sender call.block.samples call.outcome :: history.sends }
    next.sender.isStreaming = true → CountsFailures next := by
  intro next streaming
  cases connected : call.outcome.connected with
  | false =>
      have ended := sendRTPPacket_unconnected history.sender call.block.samples
        call.outcome connected
      exact absurd streaming (by simp [next, ended, Sender.disconnect])
  | true =>
      rcases sendRTPPacket_cases history.sender call.block.samples call.outcome connected
          counts.below with
        ⟨succeeded, zero, sameClient⟩ | ⟨failed, below, raised, sameClient⟩ |
          ⟨-, -, stopped, -⟩
      · refine ⟨sameClient.trans counts.clientOpen, ?_, by rw [zero]; decide⟩
        rw [zero, streak_cons_of_not_kind (by rw [succeeded]; rfl)]
      · refine ⟨sameClient.trans counts.clientOpen, ?_, by rw [raised]; exact below⟩
        rw [raised, counts.failures, streak_cons_of_kind (by rw [failed]; rfl)]
      · exact absurd (stopped.symm.trans streaming) (by decide)

theorem countsFailures_step {history next : StreamHistory} {event : StreamEvent}
    (counts : history.sender.isStreaming = true → CountsFailures history)
    (fromZero : PlaysFromZero history event)
    (stepped : streamStep history event = some next) :
    next.sender.isStreaming = true → CountsFailures next := by
  cases event with
  | play =>
      simp only [streamStep] at stepped
      split at stepped
      · cases stepped
      · cases stepped
        have zero := fromZero rfl
        exact fun _ => ⟨rfl, by simp [Session.play, zero], by simp [Session.play, zero]⟩
  | send call =>
      simp only [streamStep] at stepped
      split at stepped
      · cases stepped
        exact countsFailures_send (counts ‹_›) call
      · cases stepped
  | ends closes =>
      simp only [streamStep] at stepped
      split at stepped
      · cases stepped
        exact fun impossible => absurd impossible Bool.false_ne_true
      · cases stepped

/-- With every PLAY at a zero counter, exactly the hundredth failure in a row
of one stream closes its client. -/
theorem closesAfterHundredFailures_of_guarded (rtpSSRC : UInt32)
    (events : List StreamEvent)
    (fromZero : Guarded streamStep PlaysFromZero (StreamHistory.boot rtpSSRC) events) :
    ClosesAfterHundredFailures (StreamHistory.boot rtpSSRC) events := by
  rintro before call after rfl history ran streaming connected
  have counts : CountsFailures history :=
    @invariant_of_guarded StreamHistory StreamEvent streamStep PlaysFromZero
      (fun history => history.sender.isStreaming = true → CountsFailures history)
      (fun _ _ _ => countsFailures_step) _ _ before
      (fun impossible => absurd impossible Bool.false_ne_true) fromZero.append.1 ran streaming
  rw [lastAre_iff_le_streak]
  rcases sendRTPPacket_cases history.sender call.block.samples call.outcome connected
      counts.below with
    ⟨succeeded, -, sameClient⟩ | ⟨failed, below, -, sameClient⟩ | ⟨failed, hundred, -, closed⟩
  · rw [sameClient, counts.clientOpen, streak_cons_of_not_kind (by rw [succeeded]; rfl)]
    simp
  · rw [sameClient, counts.clientOpen, streak_cons_of_kind (by rw [failed]; rfl),
      ← counts.failures]
    simp only [Bool.true_eq_false, false_iff]
    omega
  · rw [closed, streak_cons_of_kind (by rw [failed]; rfl), ← counts.failures]
    simp only [true_iff]
    omega

/-- A send whose first write is refused. -/
def refusedSend : StreamEvent :=
  .send ⟨⟨[], by decide⟩, ⟨true, [.expired], [], []⟩⟩

/-- Fifty failures, a stop request, PLAY, and fifty failures. -/
theorem fifty_failures_close_second_stream :
    ¬ ClosesAfterHundredFailures (StreamHistory.boot 1)
      ([.play] ++ List.replicate 50 refusedSend ++ [.ends true, .play] ++
        List.replicate 50 refusedSend) := by
  intro closes
  have last := closes
    ([.play] ++ List.replicate 50 refusedSend ++ [.ends true, .play] ++
      List.replicate 49 refusedSend) _ [] rfl _ rfl rfl rfl
  exact absurd (last.mp rfl) (by decide)

/-- A stream that fails twice and then sends leaves the counter at zero. -/
theorem failures_of_first_stream_forgotten :
    ClosesAfterHundredFailures (StreamHistory.boot 1)
      [.play, refusedSend, refusedSend,
        .send ⟨⟨[], by decide⟩, ⟨true, [.wrote 4], [.wrote 12], []⟩⟩, .ends true, .play,
        refusedSend] :=
  closesAfterHundredFailures_of_guarded 1 _ (by decide)

end EchoMic
