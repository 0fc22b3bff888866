import Mathlib.Data.List.Basic
import Mathlib.Logic.Function.Basic

/-!
# Ring buffers

A ring of a fixed capacity overwrites its oldest value once it is full.  It is
stored as cells, the cell that is written next, and how many cells are in use.
Read from its oldest cell on, it has the last values that were pushed.
-/

namespace EchoMic

namespace RingBuffers

variable {α : Type*}

structure RingBuffer (α : Type*) where
  cells : Nat → α
  head : Nat
  count : Nat

def push (capacity : Nat) (value : α) (ring : RingBuffer α) : RingBuffer α where
  cells := Function.update ring.cells ring.head value
  head := (ring.head + 1) % capacity
  count := if ring.count < capacity then ring.count + 1 else ring.count

/-- The values from the oldest one on. -/
def contents (capacity : Nat) (ring : RingBuffer α) : List α :=
  (List.range ring.count).map fun i =>
    ring.cells ((ring.head + capacity - ring.count + i) % capacity)

/-- The last `capacity` values of a list. -/
def lastOf (capacity : Nat) (values : List α) : List α :=
  values.drop (values.length - capacity)

/-- The ring after `pushed`: value number `index` is in cell
`index % capacity`, as long as it is not overwritten. -/
structure Holds (capacity : Nat) (ring : RingBuffer α) (pushed : List α) : Prop where
  head : ring.head = pushed.length % capacity
  count : ring.count = min pushed.length capacity
  cells : ∀ index (inPushed : index < pushed.length), pushed.length ≤ index + capacity →
    ring.cells (index % capacity) = pushed[index]

variable {capacity : Nat} {ring : RingBuffer α} {pushed : List α}

theorem holds_nil (cells : Nat → α) : Holds capacity ⟨cells, 0, 0⟩ [] where
  head := (Nat.zero_mod capacity).symm
  count := (Nat.zero_min capacity).symm
  cells := fun _ impossible => absurd impossible (Nat.not_lt_zero _)

/-- Two numbers less than `capacity` apart have different cells. -/
theorem mod_ne_mod {first second : Nat} (before : first < second)
    (near : second < first + capacity) : first % capacity ≠ second % capacity := by
  intro same
  have multiple : (second - first) % capacity = 0 := Nat.sub_mod_eq_zero_of_mod_eq same.symm
  rw [Nat.mod_eq_of_lt (by omega)] at multiple
  omega

theorem Holds.push (holds : Holds capacity ring pushed) (value : α) :
    Holds capacity (push capacity value ring) (pushed ++ [value]) where
  head := by
    rw [List.length_append, List.length_singleton, RingBuffers.push, holds.head,
      Nat.mod_add_mod]
  count := by
    rw [List.length_append, List.length_singleton, RingBuffers.push, holds.count]
    simp only
    split <;> omega
  cells := by
    intro index inPushed kept
    rw [List.length_append, List.length_singleton] at inPushed kept
    simp only [RingBuffers.push, holds.head]
    rcases Nat.lt_or_eq_of_le (Nat.le_of_lt_succ inPushed) with older | newest
    · have otherCell : index % capacity ≠ pushed.length % capacity :=
        mod_ne_mod older (by omega)
      rw [Function.update_of_ne otherCell, holds.cells index older (by omega),
        List.getElem_append_left older]
    · subst newest
      rw [Function.update_self, List.getElem_concat_length rfl]

theorem Holds.head_lt (holds : Holds capacity ring pushed) (positive : 0 < capacity) :
    ring.head < capacity := by
  rw [holds.head]
  exact Nat.mod_lt _ positive

theorem Holds.count_le (holds : Holds capacity ring pushed) : ring.count ≤ capacity := by
  rw [holds.count]
  exact Nat.min_le_right _ _

/-- The cell that is read `i` cells behind the oldest one. -/
theorem Holds.readCell (holds : Holds capacity ring pushed) (i : Nat) :
    (ring.head + capacity - ring.count + i) % capacity =
      (pushed.length - ring.count + i) % capacity := by
  have count := holds.count
  have split := Nat.mod_add_div pushed.length capacity
  rw [holds.head]
  by_cases wrapped : pushed.length < capacity
  · -- Nothing is overwritten yet, and the oldest value is in cell 0.
    have whole : ring.count = pushed.length := by omega
    rw [Nat.mod_eq_of_lt wrapped, whole, Nat.add_sub_cancel_left, Nat.sub_self, Nat.zero_add,
      Nat.add_mod_left]
  · have full : ring.count = capacity := by omega
    rw [full, Nat.add_sub_cancel, Nat.mod_add_mod]
    have later : pushed.length + i = pushed.length - capacity + i + capacity := by omega
    rw [later, Nat.add_mod_right]

/-- A ring reads as the last values that were pushed. -/
theorem Holds.contents_eq (holds : Holds capacity ring pushed) :
    contents capacity ring = lastOf capacity pushed := by
  have count := holds.count
  apply List.ext_getElem
  · rw [contents, lastOf, List.length_map, List.length_range, List.length_drop, count]
    omega
  · intro i inContents inLast
    rw [contents, List.length_map, List.length_range] at inContents
    simp only [contents, lastOf, List.getElem_map, List.getElem_range, List.getElem_drop]
    rw [holds.readCell, holds.cells _ (by omega) (by omega)]
    have oldest : pushed.length - ring.count = pushed.length - capacity := by omega
    simp only [oldest]

end RingBuffers

end EchoMic
