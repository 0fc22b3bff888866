import Mathlib.Data.List.Basic

/-!
# Streaks

The outcomes of a repeated operation, the latest one first, and how many of
the latest ones in a row are of one kind.  A counter that is raised on one
kind of outcome and cleared on the other follows this number.
-/

namespace EchoMic

namespace Streaks

variable {Outcome : Type*}

/-- How many of the latest outcomes in a row satisfy `kind`. -/
def streak (kind : Outcome → Bool) (outcomes : List Outcome) : Nat :=
  (outcomes.takeWhile kind).length

/-- There are `count` outcomes, and the latest `count` of them satisfy
`kind`. -/
def LastAre (kind : Outcome → Bool) (count : Nat) (outcomes : List Outcome) : Prop :=
  count ≤ outcomes.length ∧ ∀ outcome ∈ outcomes.take count, kind outcome = true

instance (kind : Outcome → Bool) (count : Nat) (outcomes : List Outcome) :
    Decidable (LastAre kind count outcomes) :=
  inferInstanceAs (Decidable (_ ∧ _))

variable {kind : Outcome → Bool}

@[simp]
theorem streak_nil : streak kind [] = 0 :=
  rfl

theorem streak_cons_of_kind {outcome : Outcome} (holds : kind outcome = true)
    (outcomes : List Outcome) :
    streak kind (outcome :: outcomes) = streak kind outcomes + 1 := by
  simp [streak, holds]

theorem streak_cons_of_not_kind {outcome : Outcome} (fails : kind outcome = false)
    (outcomes : List Outcome) : streak kind (outcome :: outcomes) = 0 := by
  simp [streak, fails]

/-- The latest outcomes are of one kind as far as the streak reaches. -/
theorem lastAre_iff_le_streak (count : Nat) (outcomes : List Outcome) :
    LastAre kind count outcomes ↔ count ≤ streak kind outcomes := by
  induction outcomes generalizing count with
  | nil => simp [LastAre]
  | cons outcome outcomes ih =>
      cases count with
      | zero => simp [LastAre]
      | succ count =>
          have later := ih count
          cases holds : kind outcome with
          | true =>
              rw [streak_cons_of_kind holds, Nat.add_le_add_iff_right, ← later]
              simp [LastAre, holds]
          | false =>
              rw [streak_cons_of_not_kind holds]
              simp [LastAre, holds]

end Streaks

end EchoMic
