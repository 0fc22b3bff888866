import EchoMic.PrivateKeyMasking
import EchoMic.RingBuffers
import EchoMic.Simulations

/-!
# The log as a bounded list

The log ring behind `/api/logs`, compared with the list of all lines that
were pushed.  Reads may come at any time, before the ring is full and after
it has wrapped any number of times.
-/

namespace EchoMic

open Masking RingBuffers Simulations

inductive LogEvent where
  | push (line : String)
  | read
  deriving DecidableEq

/-- A call of `webui_pushLog`, or a request that is answered with the log. -/
def logStep (logs : LogRing) : LogEvent → LogRing × Option String
  | .push line => (webuiPushLog line logs, none)
  | .read => (logs, some (httpLogs logs))

/-- What the log is for: a read gives the last `LOG_CAP` lines that were
pushed, each with a line end. -/
def boundedLogStep (pushed : List String) : LogEvent → List String × Option String
  | .push line => (pushed ++ [line], none)
  | .read => (pushed, some (String.join ((lastOf logCap pushed).map (· ++ "\n"))))

/-- The cell of a read as `httpLogs` computes it, with `size_t` of 32 bits. -/
def readIndex (logs : LogRing) (i : UInt32) : UInt32 :=
  (UInt32.ofNat logs.logHead + UInt32.ofNat logCap - UInt32.ofNat logs.logCount + i) %
    UInt32.ofNat logCap

/-- The head stays below the capacity and the count at most at it, so that no
difference or sum in the index of a read overflows. -/
structure LogInBounds (logs : LogRing) : Prop where
  head : logs.logHead < logCap
  count : logs.logCount ≤ logCap
  index : ∀ i < logs.logCount, (readIndex logs (UInt32.ofNat i)).toNat =
    (logs.logHead + logCap - logs.logCount + i) % logCap

/-! ## The ring -/

def LogRing.ring (logs : LogRing) : RingBuffer String where
  cells := logs.logBuffer
  head := logs.logHead
  count := logs.logCount

theorem ring_pushLog (line : String) (logs : LogRing) :
    (webuiPushLog line logs).ring = push logCap line logs.ring :=
  rfl

theorem httpLogs_eq (logs : LogRing) :
    httpLogs logs = String.join ((contents logCap logs.ring).map (· ++ "\n")) := by
  rw [httpLogs, contents, List.map_map]
  rfl

theorem toNat_readIndex {logs : LogRing} (head : logs.logHead < logCap)
    (count : logs.logCount ≤ logCap) {i : Nat} (inUse : i < logs.logCount) :
    (readIndex logs (UInt32.ofNat i)).toNat =
      (logs.logHead + logCap - logs.logCount + i) % logCap := by
  have capacity : 80 % 2 ^ 32 = 80 := rfl
  rw [logCap] at head count ⊢
  simp only [readIndex, logCap, UInt32.toNat_mod, UInt32.toNat_add, UInt32.toNat_sub,
    UInt32.toNat_ofNat', capacity]
  omega

theorem logInBounds_of_holds {logs : LogRing} {pushed : List String}
    (holds : Holds logCap logs.ring pushed) : LogInBounds logs where
  head := holds.head_lt (by decide)
  count := holds.count_le
  index := fun _ inUse => toNat_readIndex (holds.head_lt (by decide)) holds.count_le inUse

/-! ## Every run -/

theorem simulates_boundedLog :
    Simulates logStep boundedLogStep fun logs pushed => Holds logCap logs.ring pushed := by
  intro logs pushed event holds
  cases event with
  | push line =>
      have next := holds.push line
      rw [← ring_pushLog] at next
      exact ⟨next, rfl⟩
  | read =>
      refine ⟨holds, ?_⟩
      rw [logStep, boundedLogStep, httpLogs_eq, holds.contents_eq]

/-- In every run of pushes and reads the log answers like the bounded list,
and its variables stay in bounds. -/
theorem outputs_log_eq_boundedLog (events : List LogEvent) :
    outputs logStep LogRing.empty events = outputs boundedLogStep [] events ∧
      LogInBounds (finalState logStep LogRing.empty events) := by
  have initially : Holds logCap LogRing.empty.ring [] := holds_nil _
  exact ⟨simulates_boundedLog.outputs_eq initially events,
    logInBounds_of_holds (simulates_boundedLog.finalState initially events)⟩

end EchoMic
