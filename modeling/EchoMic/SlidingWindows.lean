import Mathlib.Data.List.Basic

/-!
# Sliding windows over numbered arrivals

A receiver takes each number at most once and does not take a number that lies
`width` or more behind the greatest one it has taken.  Instead of the numbers
it has taken it keeps the greatest one and `width` marks for the numbers that
end there.  This file proves that the marks decide like the full history.
-/

namespace EchoMic

namespace SlidingWindows

/-- A positive number that is new and not too far behind those taken. -/
def Admits (width : Nat) (taken : List Nat) (number : Nat) : Prop :=
  number ≠ 0 ∧ number ∉ taken ∧ ∀ other ∈ taken, other < number + width

instance (width : Nat) (taken : List Nat) (number : Nat) :
    Decidable (Admits width taken number) :=
  inferInstanceAs (Decidable (_ ∧ _ ∧ _))

/-- The history after one arrival. -/
def take (width : Nat) (taken : List Nat) (number : Nat) : List Nat :=
  if Admits width taken number then number :: taken else taken

/-- The history after all arrivals. -/
def takeAll (width : Nat) (taken arrivals : List Nat) : List Nat :=
  arrivals.foldl (take width) taken

/-- Which of the arrivals are taken. -/
def verdicts (width : Nat) : List Nat → List Nat → List Bool
  | _, [] => []
  | taken, number :: arrivals =>
      decide (Admits width taken number) :: verdicts width (take width taken number) arrivals

variable {width : Nat}

theorem take_nodup {taken : List Nat} (nodup : taken.Nodup) (number : Nat) :
    (take width taken number).Nodup := by
  unfold take
  split
  · next admitted => exact List.nodup_cons.mpr ⟨admitted.2.1, nodup⟩
  · exact nodup

/-- No number is taken twice. -/
theorem takeAll_nodup {taken : List Nat} (nodup : taken.Nodup) (arrivals : List Nat) :
    (takeAll width taken arrivals).Nodup := by
  induction arrivals generalizing taken with
  | nil => exact nodup
  | cons number arrivals ih => exact ih (take_nodup nodup number)

/-- The greatest number taken and the marks below it describe the history. -/
structure Tracks (width greatest : Nat) (marked : Nat → Prop) (taken : List Nat) : Prop where
  positive : 0 ∉ taken
  bound : ∀ number ∈ taken, number ≤ greatest
  reached : greatest = 0 ∨ greatest ∈ taken
  marks : ∀ distance < width, (marked distance ↔ greatest - distance ∈ taken)

variable {greatest number : Nat} {marked : Nat → Prop} {taken : List Nat}

theorem tracks_nil : Tracks width 0 (fun _ => False) [] where
  positive := List.not_mem_nil
  bound := fun _ member => absurd member List.not_mem_nil
  reached := Or.inl rfl
  marks := by simp

theorem Tracks.congr (tracks : Tracks width greatest marked taken) {others : Nat → Prop}
    (same : ∀ distance < width, (others distance ↔ marked distance)) :
    Tracks width greatest others taken :=
  { tracks with
    marks := fun distance near => (same distance near).trans (tracks.marks distance near) }

/-- Without a history nothing is marked. -/
theorem Tracks.not_marked_nil (tracks : Tracks width greatest marked []) {distance : Nat}
    (near : distance < width) : ¬ marked distance := by
  rw [tracks.marks distance near]
  exact List.not_mem_nil

/-- A number above the greatest one is taken. -/
theorem Tracks.admits_newer (tracks : Tracks width greatest marked taken)
    (newer : greatest < number) : Admits width taken number := by
  refine ⟨by omega, fun member => ?_, fun other member => ?_⟩
  · have := tracks.bound number member
    omega
  · have := tracks.bound other member
    omega

/-- A positive number that is not above the greatest one is taken exactly if
its mark is within reach and not set. -/
theorem Tracks.admits_older_iff (tracks : Tracks width greatest marked taken)
    (positive : number ≠ 0) (older : number ≤ greatest) :
    Admits width taken number ↔
      greatest - number < width ∧ ¬ marked (greatest - number) := by
  have member : greatest ∈ taken := tracks.reached.resolve_left (by omega)
  have number_eq : greatest - (greatest - number) = number := by omega
  constructor
  · rintro ⟨-, new, near⟩
    have reach : greatest - number < width := by
      have := near greatest member
      omega
    refine ⟨reach, fun mark => new ?_⟩
    have found := (tracks.marks _ reach).mp mark
    rwa [number_eq] at found
  · rintro ⟨reach, unmarked⟩
    refine ⟨positive, fun found => unmarked ?_, fun other found => ?_⟩
    · rw [tracks.marks _ reach, number_eq]
      exact found
    · have := tracks.bound other found
      omega

/-- When a number above the greatest one is taken, the marks move by the
difference. -/
theorem Tracks.newer (tracks : Tracks width greatest marked taken)
    (newer : greatest < number) :
    Tracks width number
      (fun distance => distance = 0 ∨
        number - greatest ≤ distance ∧ marked (distance - (number - greatest)))
      (number :: taken) where
  positive := by
    rw [List.mem_cons, not_or]
    exact ⟨by omega, tracks.positive⟩
  bound := by
    intro other member
    obtain rfl | earlier := List.mem_cons.mp member
    · exact Nat.le_refl _
    · have := tracks.bound other earlier
      omega
  reached := Or.inr List.mem_cons_self
  marks := by
    intro distance near
    rw [List.mem_cons]
    by_cases first : distance = 0
    · subst distance
      simp
    · have different : number - distance ≠ number := by omega
      simp only [first, different, false_or]
      by_cases reached : number - greatest ≤ distance
      · have below : number - distance = greatest - (distance - (number - greatest)) := by
          omega
        rw [below, ← tracks.marks _ (by omega)]
        simp [reached]
      · simp only [reached, false_and, false_iff]
        intro member
        have := tracks.bound _ member
        omega

/-- When an older number is taken, its mark is set. -/
theorem Tracks.older (tracks : Tracks width greatest marked taken) (positive : number ≠ 0)
    (older : number ≤ greatest) :
    Tracks width greatest
      (fun distance => marked distance ∨ distance = greatest - number) (number :: taken) where
  positive := by
    rw [List.mem_cons, not_or]
    exact ⟨by omega, tracks.positive⟩
  bound := by
    intro other member
    obtain rfl | earlier := List.mem_cons.mp member
    · exact older
    · exact tracks.bound other earlier
  reached := Or.inr (List.mem_cons_of_mem _ (tracks.reached.resolve_left (by omega)))
  marks := by
    intro distance near
    have same : distance = greatest - number ↔ greatest - distance = number := by omega
    rw [List.mem_cons, tracks.marks distance near, same, or_comm]

end SlidingWindows

end EchoMic
