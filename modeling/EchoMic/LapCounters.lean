import Mathlib.Data.List.Basic

/-!
# Deadlines on a counter that wraps

A counter shows the time modulo its period.  A deadline that is kept as a
residue is compared with the residue of the time.  This comparison is right
when the deadline and the time are in the same lap of the counter, and in few
other cases.
-/

namespace EchoMic

namespace LapCounters

variable {period deadline now : Nat}

/-- The time is in the lap of the deadline, or in a later lap in which the
counter has come to the residue of the deadline again. -/
def ComparesRightly (reached : Nat → Nat → Prop) (period deadline now : Nat) : Prop :=
  now / period = deadline / period ∨
    deadline / period < now / period ∧ reached (deadline % period) (now % period)

instance (reached : Nat → Nat → Prop) [DecidableRel reached] (period deadline now : Nat) :
    Decidable (ComparesRightly reached period deadline now) :=
  inferInstanceAs (Decidable (_ ∨ _))

/-- A comparison of numbers, strict or not. -/
structure IsComparison (reached : Nat → Nat → Prop) : Prop where
  of_lt : ∀ {first second}, first < second → reached first second
  not_of_lt : ∀ {first second}, second < first → ¬ reached first second
  add_left : ∀ first second both, reached (both + first) (both + second) ↔ reached first second

theorem isComparison_le : IsComparison (· ≤ ·) where
  of_lt := Nat.le_of_lt
  not_of_lt := Nat.not_le.mpr
  add_left := fun _ _ _ => Nat.add_le_add_iff_left

theorem isComparison_lt : IsComparison (· < ·) where
  of_lt := id
  not_of_lt := Nat.lt_asymm
  add_left := fun _ _ _ => Nat.add_lt_add_iff_left

/-- In a lap before that of the deadline the counter is already above its
residue. -/
theorem mod_lt_mod_of_earlier (near : deadline < now + period)
    (earlier : now / period < deadline / period) : deadline % period < now % period := by
  have nowSplit := Nat.mod_add_div now period
  have deadlineSplit := Nat.mod_add_div deadline period
  have lap : period * (now / period + 1) ≤ period * (deadline / period) :=
    Nat.mul_le_mul_left period earlier
  rw [Nat.mul_succ] at lap
  omega

/-- A reading less than a period before the deadline, or behind it, is judged
rightly exactly in these cases. -/
theorem comparesRightly_iff {reached : Nat → Nat → Prop} (comparison : IsComparison reached)
    (near : deadline < now + period) :
    (reached (deadline % period) (now % period) ↔ reached deadline now) ↔
      ComparesRightly reached period deadline now := by
  unfold ComparesRightly
  rcases Nat.lt_trichotomy (now / period) (deadline / period) with earlier | same | later
  · have above := comparison.of_lt (mod_lt_mod_of_earlier near earlier)
    constructor
    · intro right
      exact absurd (right.mp above) (comparison.not_of_lt (Nat.lt_of_div_lt_div earlier))
    · rintro (same | ⟨later, -⟩) <;> omega
  · refine iff_of_true ?_ (Or.inl same)
    have shifted :=
      comparison.add_left (deadline % period) (now % period) (period * (deadline / period))
    rw [Nat.div_add_mod, ← same, Nat.div_add_mod] at shifted
    exact shifted.symm
  · have due := comparison.of_lt (Nat.lt_of_div_lt_div later)
    constructor
    · exact fun right => Or.inr ⟨later, right.mpr due⟩
    · rintro (same | ⟨-, passed⟩)
      · omega
      · exact iff_of_true passed due

/-! ## Waiting loops -/

variable {α : Type*}

/-- Every observation up to the one that ends the wait satisfies `holds`. -/
def WhileWaiting (waits : α → Bool) (holds : α → Prop) : List α → Prop
  | [] => True
  | observation :: observations =>
      holds observation ∧ (waits observation = true → WhileWaiting waits holds observations)

instance decidableWhileWaiting (waits : α → Bool) (holds : α → Prop) [DecidablePred holds] :
    DecidablePred (WhileWaiting waits holds)
  | [] => .isTrue trivial
  | observation :: observations =>
      have := decidableWhileWaiting waits holds observations
      inferInstanceAs (Decidable (holds observation ∧ (waits observation = true → _)))

theorem WhileWaiting.congr {waits : α → Bool} {holds others : α → Prop}
    (same : ∀ observation, holds observation ↔ others observation) (observations : List α) :
    WhileWaiting waits holds observations ↔ WhileWaiting waits others observations := by
  induction observations with
  | nil => exact Iff.rfl
  | cons observation observations ih => rw [WhileWaiting, WhileWaiting, same, ih]

/-- Two loops end at the same observation when they judge every observation
up to that one in the same way. -/
theorem dropWhile_eq_iff (first second : α → Bool) (observations : List α) :
    observations.dropWhile first = observations.dropWhile second ↔
      WhileWaiting second (fun observation => first observation = second observation)
        observations := by
  induction observations with
  | nil => exact iff_of_true rfl trivial
  | cons observation observations ih =>
      have shorter (waits : α → Bool) :
          observations.dropWhile waits ≠ observation :: observations := by
        intro same
        have suffix : observations.dropWhile waits <:+ observations :=
          List.dropWhile_suffix waits
        have length := suffix.length_le
        rw [same, List.length_cons] at length
        omega
      rw [List.dropWhile_cons, List.dropWhile_cons, WhileWaiting]
      cases first observation <;> cases second observation
      · simp
      · simpa using (shorter second).symm
      · simpa using shorter first
      · simpa using ih

end LapCounters

end EchoMic
