import Mathlib.Data.List.Basic

/-!
# Texts that arrive in pieces and are absorbed in blocks

A hash or an authenticator absorbs a text in blocks of one size, whatever the
pieces are in which the text arrives, and holds back the bytes that do not fill
a block.  `Absorbed` says what has been absorbed and what is held back.
-/

namespace EchoMic

namespace BlockBuffers

variable {State Item : Type*} {size : Nat}

/-- The blocks of a text, of which only the last may be short. -/
def chunks (size : Nat) (text : List Item) : List (List Item) :=
  if text = [] ∨ size = 0 then [] else text.take size :: chunks size (text.drop size)
termination_by text.length
decreasing_by
  rename_i more
  rw [not_or] at more
  rw [List.length_drop]
  have positive := List.length_pos_iff.mpr more.1
  omega

@[simp]
theorem chunks_nil : chunks size ([] : List Item) = [] := by
  rw [chunks, if_pos (Or.inl rfl)]

theorem chunks_block_append (positive : 0 < size) {block : List Item}
    (full : block.length = size) (rest : List Item) :
    chunks size (block ++ rest) = block :: chunks size rest := by
  have some : block ≠ [] := List.length_pos_iff.mp (by omega)
  rw [chunks, if_neg (by simp [some]; omega), ← full, List.take_left, List.drop_left]

theorem chunks_last (positive : 0 < size) {block : List Item} (some : block ≠ [])
    (short : block.length ≤ size) : chunks size block = [block] := by
  rw [chunks, if_neg (by simp [some]; omega), List.take_of_length_le short,
    List.drop_of_length_le short, chunks_nil]

/-- Whole blocks are cut off first. -/
theorem chunks_append (positive : 0 < size) {whole : List Item} (blocks : size ∣ whole.length)
    (rest : List Item) : chunks size (whole ++ rest) = chunks size whole ++ chunks size rest := by
  obtain ⟨count, length⟩ := blocks
  induction count generalizing whole with
  | zero =>
      obtain rfl := List.length_eq_zero_iff.mp length
      rw [chunks_nil, List.nil_append, List.nil_append]
  | succ count ih =>
      rw [Nat.mul_succ] at length
      have first : (whole.take size).length = size := by
        rw [List.length_take]
        omega
      have later : chunks size (whole.drop size ++ rest) =
          chunks size (whole.drop size) ++ chunks size rest :=
        ih (by rw [List.length_drop]; omega)
      rw [← List.take_append_drop size whole, List.append_assoc,
        chunks_block_append positive first, later, chunks_block_append positive first,
        List.cons_append]

theorem length_of_mem_chunks (positive : 0 < size) {whole : List Item}
    (blocks : size ∣ whole.length) : ∀ block ∈ chunks size whole, block.length = size := by
  obtain ⟨count, length⟩ := blocks
  induction count generalizing whole with
  | zero =>
      obtain rfl := List.length_eq_zero_iff.mp length
      simp
  | succ count ih =>
      rw [Nat.mul_succ] at length
      have first : (whole.take size).length = size := by
        rw [List.length_take]
        omega
      rw [← List.take_append_drop size whole, chunks_block_append positive first,
        List.forall_mem_cons]
      exact ⟨first, ih (by rw [List.length_drop]; omega)⟩

/-- Whole blocks of the text have led from `start` to `state`, and the bytes
behind them are held back. -/
def Absorbed (size : Nat) (absorb : State → List Item → State) (start : State)
    (text : List Item) (state : State) (held : List Item) : Prop :=
  ∃ whole, size ∣ whole.length ∧ text = whole ++ held ∧
    state = (chunks size whole).foldl absorb start

namespace Absorbed

variable {absorb : State → List Item → State} {start state : State} {text held : List Item}

theorem nothing : Absorbed size absorb start [] start [] :=
  ⟨[], Nat.dvd_zero size, rfl, by rw [chunks_nil, List.foldl_nil]⟩

/-- More of the text is held back. -/
theorem hold (absorbed : Absorbed size absorb start text state held) (more : List Item) :
    Absorbed size absorb start (text ++ more) state (held ++ more) := by
  obtain ⟨whole, blocks, rfl, folded⟩ := absorbed
  exact ⟨whole, blocks, List.append_assoc whole held more, folded⟩

/-- A block of what is held back is absorbed. -/
theorem block (positive : 0 < size) {first rest : List Item}
    (absorbed : Absorbed size absorb start text state (first ++ rest))
    (full : first.length = size) : Absorbed size absorb start text (absorb state first) rest := by
  obtain ⟨whole, blocks, rfl, folded⟩ := absorbed
  have single : chunks size first = [first] :=
    chunks_last positive (List.length_pos_iff.mp (by omega)) (by omega)
  refine ⟨whole ++ first, ?_, (List.append_assoc whole first rest).symm, ?_⟩
  · rw [List.length_append, full]
    exact Nat.dvd_add blocks (Nat.dvd_refl size)
  · rw [chunks_append positive blocks, single, List.foldl_append, ← folded, List.foldl_cons,
      List.foldl_nil]

/-- All of the text, when what is held back is its last block. -/
theorem chunks_eq (positive : 0 < size) (absorbed : Absorbed size absorb start text state held)
    (short : held.length ≤ size) :
    ∃ before, (∀ block ∈ before, block.length = size) ∧
      chunks size text = before ++ (if held = [] then [] else [held]) ∧
      state = before.foldl absorb start := by
  obtain ⟨whole, blocks, rfl, folded⟩ := absorbed
  refine ⟨chunks size whole, length_of_mem_chunks positive blocks, ?_, folded⟩
  rw [chunks_append positive blocks]
  by_cases none : held = []
  · rw [if_pos none, none, chunks_nil]
  · rw [if_neg none, chunks_last positive none short]

end Absorbed

end BlockBuffers

end EchoMic
