import Mathlib.Data.List.Basic

/-!
# Splitting a list at a separator

The parts of a list before and after the first or the last occurrence of a
separator, and the parts between all its occurrences.
-/

namespace EchoMic

namespace Splitting

variable {α : Type*} [DecidableEq α]

/-- The parts before and after the first occurrence of the separator. -/
def splitFirst (separator : α) : List α → Option (List α × List α)
  | [] => none
  | symbol :: symbols =>
      if symbol = separator then some ([], symbols)
      else (splitFirst separator symbols).map fun parts => (symbol :: parts.1, parts.2)

theorem splitFirst_append {separator : α} {first : List α} (absent : separator ∉ first)
    (second : List α) :
    splitFirst separator (first ++ separator :: second) = some (first, second) := by
  induction first with
  | nil => simp [splitFirst]
  | cons symbol first ih =>
      have differs : symbol ≠ separator := fun same => absent (same ▸ List.mem_cons_self)
      have absentTail : separator ∉ first := fun member => absent (List.mem_cons_of_mem _ member)
      rw [List.cons_append, splitFirst, if_neg differs, ih absentTail]
      rfl

theorem splitFirst_eq_some_iff {separator : α} {text first second : List α} :
    splitFirst separator text = some (first, second) ↔
      text = first ++ separator :: second ∧ separator ∉ first := by
  constructor
  · intro found
    induction text generalizing first with
    | nil => cases found
    | cons symbol text ih =>
        rw [splitFirst] at found
        split at found
        · cases found
          simpa using ‹symbol = separator›
        · rename_i differs
          obtain ⟨⟨head, tail⟩, split, same⟩ := Option.map_eq_some_iff.mp found
          cases same
          obtain ⟨rfl, absent⟩ := ih split
          refine ⟨rfl, fun member => ?_⟩
          rcases List.mem_cons.mp member with same | inHead
          · exact differs same.symm
          · exact absent inHead
  · rintro ⟨rfl, absent⟩
    exact splitFirst_append absent second

theorem splitFirst_eq_none_iff {separator : α} {text : List α} :
    splitFirst separator text = none ↔ separator ∉ text := by
  induction text with
  | nil => simp [splitFirst]
  | cons symbol text ih =>
      rw [splitFirst, List.mem_cons]
      split
      · simp_all
      · rename_i differs
        rw [Option.map_eq_none_iff, ih]
        simp [Ne.symm differs]

/-- The parts before and after the last occurrence of the separator. -/
def splitLast (separator : α) (text : List α) : Option (List α × List α) :=
  (splitFirst separator text.reverse).map fun parts => (parts.2.reverse, parts.1.reverse)

theorem splitLast_eq_some_iff {separator : α} {text first second : List α} :
    splitLast separator text = some (first, second) ↔
      text = first ++ separator :: second ∧ separator ∉ second := by
  have reversed : splitLast separator text = some (first, second) ↔
      splitFirst separator text.reverse = some (second.reverse, first.reverse) := by
    rw [splitLast, Option.map_eq_some_iff]
    constructor
    · rintro ⟨⟨before, after⟩, split, same⟩
      cases same
      simpa using split
    · intro split
      exact ⟨_, split, by simp⟩
  rw [reversed, splitFirst_eq_some_iff, List.reverse_eq_iff]
  simp

/-- The parts between the occurrences of the separator; there is always one
part. -/
def splitAll (separator : α) : List α → List (List α)
  | [] => [[]]
  | symbol :: symbols =>
      if symbol = separator then [] :: splitAll separator symbols
      else
        match splitAll separator symbols with
        | [] => [[symbol]]
        | part :: parts => (symbol :: part) :: parts

theorem splitAll_of_notMem {separator : α} {text : List α} (absent : separator ∉ text) :
    splitAll separator text = [text] := by
  induction text with
  | nil => rfl
  | cons symbol text ih =>
      have differs : symbol ≠ separator := fun same => absent (same ▸ List.mem_cons_self)
      have absentTail : separator ∉ text := fun member => absent (List.mem_cons_of_mem _ member)
      rw [splitAll, if_neg differs, ih absentTail]

theorem splitAll_append {separator : α} {first : List α} (absent : separator ∉ first)
    (rest : List α) :
    splitAll separator (first ++ separator :: rest) = first :: splitAll separator rest := by
  induction first with
  | nil => simp [splitAll]
  | cons symbol first ih =>
      have differs : symbol ≠ separator := fun same => absent (same ▸ List.mem_cons_self)
      have absentTail : separator ∉ first := fun member => absent (List.mem_cons_of_mem _ member)
      rw [List.cons_append, splitAll, if_neg differs, ih absentTail]

/-- The first occurrence of `old` replaced. -/
def replaceFirst (old new : α) (text : List α) : List α :=
  match splitFirst old text with
  | none => text
  | some (before, after) => before ++ new :: after

theorem replaceFirst_of_notMem {old new : α} {text : List α} (absent : old ∉ text) :
    replaceFirst old new text = text := by
  rw [replaceFirst, splitFirst_eq_none_iff.mpr absent]

/-- A replacement happens in the first part that has the symbol. -/
theorem exists_replaceFirst {old new : α} {text : List α} (present : old ∈ text)
    (differs : new ≠ old) :
    ∃ replaced, replaced ≠ text ∧ replaced.length = text.length ∧
      ∀ rest, replaceFirst old new (text ++ rest) = replaced ++ rest := by
  cases found : splitFirst old text with
  | none => exact absurd present (splitFirst_eq_none_iff.mp found)
  | some parts =>
      obtain ⟨before, after⟩ := parts
      obtain ⟨rfl, absent⟩ := splitFirst_eq_some_iff.mp found
      refine ⟨before ++ new :: after, ?_, by simp, fun rest => ?_⟩
      · intro same
        exact differs (List.cons.inj (List.append_cancel_left same)).1
      · rw [List.append_assoc, List.cons_append, replaceFirst, splitFirst_append absent]
        simp

end Splitting

end EchoMic
