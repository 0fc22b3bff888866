import Mathlib.Data.List.Basic

/-!
# Secrets that do not reach the outputs

A machine reads events, changes its state and gives an output for each event.
A masking of states and events that every step respects, and that no output
shows, cannot be told from the outputs of a whole run.
-/

namespace EchoMic

namespace Masking

variable {State Event Output : Type*}

/-- The outputs of a run. -/
def outputs (step : State → Event → State × Output) : State → List Event → List Output
  | _, [] => []
  | state, event :: events =>
      (step state event).2 :: outputs step (step state event).1 events

/-- A step on masked data gives the masked state and the same output. -/
def Respects (step : State → Event → State × Output) (maskState : State → State)
    (maskEvent : Event → Event) : Prop :=
  ∀ state event, step (maskState state) (maskEvent event) =
    (maskState (step state event).1, (step state event).2)

variable {step : State → Event → State × Output}
variable {maskState : State → State} {maskEvent : Event → Event}

theorem outputs_mask (respects : Respects step maskState maskEvent) (state : State)
    (events : List Event) :
    outputs step (maskState state) (events.map maskEvent) = outputs step state events := by
  induction events generalizing state with
  | nil => rfl
  | cons event events ih =>
      rw [List.map_cons, outputs, outputs, respects state event, ih]

/-- Runs that agree under the mask have the same outputs. -/
theorem outputs_eq (respects : Respects step maskState maskEvent)
    {first second : State} {firstEvents secondEvents : List Event}
    (states : maskState first = maskState second)
    (events : firstEvents.map maskEvent = secondEvents.map maskEvent) :
    outputs step first firstEvents = outputs step second secondEvents := by
  rw [← outputs_mask respects first, ← outputs_mask respects second, states, events]

end Masking

end EchoMic
