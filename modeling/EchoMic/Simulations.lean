import EchoMic.Masking

/-!
# Simulations between machines with outputs

Two machines read the same events.  When every step keeps their states
related and gives the same output, no run tells them apart.
-/

namespace EchoMic

namespace Simulations

open Masking

variable {State Abstract Event Output : Type*}

def finalState (step : State → Event → State × Output) (state : State)
    (events : List Event) : State :=
  events.foldl (fun state event => (step state event).1) state

/-- Steps from related states lead to related states and give one output. -/
def Simulates (step : State → Event → State × Output)
    (abstractStep : Abstract → Event → Abstract × Output)
    (related : State → Abstract → Prop) : Prop :=
  ∀ state abstract event, related state abstract →
    related (step state event).1 (abstractStep abstract event).1 ∧
      (step state event).2 = (abstractStep abstract event).2

variable {step : State → Event → State × Output}
variable {abstractStep : Abstract → Event → Abstract × Output}
variable {related : State → Abstract → Prop}

theorem Simulates.finalState (simulates : Simulates step abstractStep related)
    {state : State} {abstract : Abstract} (initially : related state abstract)
    (events : List Event) :
    related (finalState step state events) (finalState abstractStep abstract events) := by
  induction events generalizing state abstract with
  | nil => exact initially
  | cons event events ih => exact ih (simulates state abstract event initially).1

theorem Simulates.outputs_eq (simulates : Simulates step abstractStep related)
    {state : State} {abstract : Abstract} (initially : related state abstract)
    (events : List Event) :
    outputs step state events = outputs abstractStep abstract events := by
  induction events generalizing state abstract with
  | nil => rfl
  | cons event events ih =>
      obtain ⟨next, sameOutput⟩ := simulates state abstract event initially
      rw [outputs, outputs, sameOutput, ih next]

end Simulations

end EchoMic
