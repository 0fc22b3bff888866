import EchoMic.SlidingWindows
import Mathlib.Data.List.Nodup
import Mathlib.Data.Nat.Bitwise

/-!
# The replay window of a session key

`wireguard_check_replay` keeps the greatest counter of a session and a bitmap
of the counters below it.  The size of its window is the size of the bitmap in
bytes.  This file proves which counters it lets through, for every order in
which they arrive.
-/

namespace EchoMic

open SlidingWindows

/-- What `wireguard_check_replay` reads of a key pair. -/
structure ReplayState where
  replayBitmap : UInt32
  replayCounter : UInt64
  deriving DecidableEq

def ReplayState.fresh : ReplayState where
  replayBitmap := 0
  replayCounter := 0

/-- `sizeof(keypair->replay_bitmap)`. -/
def replayWindowSize : UInt32 := 4

def wireguardCheckReplay (seq : UInt64) (keypair : ReplayState) : Bool × ReplayState :=
  if seq ≠ 0 then
    if seq > keypair.replayCounter then
      let diff : UInt32 := (seq - keypair.replayCounter).toUInt32
      (true,
        { replayBitmap :=
            if diff < replayWindowSize then (keypair.replayBitmap <<< diff) ||| 1 else 1
          replayCounter := seq })
    else
      -- the difference of the 64-bit counters is cut to 32 bits
      let diff : UInt32 := (keypair.replayCounter - seq).toUInt32
      if diff < replayWindowSize then
        if keypair.replayBitmap &&& (1 <<< diff) ≠ 0 then (false, keypair)
        else (true, { keypair with replayBitmap := keypair.replayBitmap ||| (1 <<< diff) })
      else (false, keypair)
  else (false, keypair)

/-- The answers to a sequence of counters. -/
def replayVerdicts : ReplayState → List UInt64 → List Bool
  | _, [] => []
  | keypair, seq :: arrivals =>
      (wireguardCheckReplay seq keypair).1 ::
        replayVerdicts (wireguardCheckReplay seq keypair).2 arrivals

/-- The counters that are let through, in the order of their arrival. -/
def letThrough : ReplayState → List UInt64 → List UInt64
  | _, [] => []
  | keypair, seq :: arrivals =>
      (if (wireguardCheckReplay seq keypair).1 then [seq] else []) ++
        letThrough (wireguardCheckReplay seq keypair).2 arrivals

/-- The mark of the counter that lies `distance` below the greatest one. -/
def ReplayState.Marked (keypair : ReplayState) (distance : Nat) : Prop :=
  keypair.replayBitmap.toNat.testBit distance = true

/-- The window stands for the history of the counters taken so far. -/
def ReplayState.Remembers (keypair : ReplayState) (taken : List Nat) : Prop :=
  Tracks replayWindowSize.toNat keypair.replayCounter.toNat keypair.Marked taken

theorem remembers_fresh : ReplayState.fresh.Remembers [] := by
  apply tracks_nil.congr
  intro distance _
  simp [ReplayState.Marked, ReplayState.fresh]

/-! ## The bitmap -/

theorem toNat_oneShifted {diff : UInt32} (inside : diff.toNat < 32) :
    ((1 : UInt32) <<< diff).toNat = 2 ^ diff.toNat := by
  rw [UInt32.toNat_shiftLeft, UInt32.toNat_one, Nat.one_shiftLeft,
    Nat.mod_eq_of_lt inside, Nat.mod_eq_of_lt (Nat.pow_lt_pow_right (by decide) inside)]

theorem testBit_shifted (bitmap : UInt32) {diff : UInt32} {distance : Nat}
    (inside : diff.toNat < 32) (near : distance < 32) :
    ((bitmap <<< diff) ||| 1).toNat.testBit distance = true ↔
      distance = 0 ∨
        diff.toNat ≤ distance ∧ bitmap.toNat.testBit (distance - diff.toNat) = true := by
  rw [UInt32.toNat_or, UInt32.toNat_shiftLeft, Nat.mod_eq_of_lt inside, Nat.testBit_or,
    Nat.testBit_mod_two_pow, Nat.testBit_shiftLeft, UInt32.toNat_one, ← Nat.pow_zero 2,
    Nat.testBit_two_pow]
  simp [near, or_comm, eq_comm (a := 0)]

theorem testBit_marked (bitmap : UInt32) {diff : UInt32} (inside : diff.toNat < 32)
    (distance : Nat) :
    (bitmap ||| (1 <<< diff)).toNat.testBit distance = true ↔
      bitmap.toNat.testBit distance = true ∨ distance = diff.toNat := by
  rw [UInt32.toNat_or, toNat_oneShifted inside, Nat.testBit_or, Nat.testBit_two_pow,
    eq_comm (b := diff.toNat)]
  simp

theorem and_oneShifted_ne_zero (bitmap : UInt32) {diff : UInt32} (inside : diff.toNat < 32) :
    bitmap &&& (1 <<< diff) ≠ 0 ↔ bitmap.toNat.testBit diff.toNat = true := by
  rw [ne_eq, ← UInt32.toNat_inj, UInt32.toNat_and, toNat_oneShifted inside, UInt32.toNat_zero,
    Nat.and_two_pow]
  cases bitmap.toNat.testBit diff.toNat <;> simp

/-! ## One arrival -/

/-- A counter within 2^32 of the others. -/
def WithinSpan (others : List Nat) (number : Nat) : Prop :=
  ∀ other ∈ others, other < number + 2 ^ 32 ∧ number < other + 2 ^ 32

theorem toNat_cutDifference {greater smaller : UInt64} (ordered : smaller ≤ greater)
    (near : greater.toNat < smaller.toNat + 2 ^ 32) :
    (greater - smaller).toUInt32.toNat = greater.toNat - smaller.toNat := by
  rw [UInt64.toNat_toUInt32, UInt64.toNat_sub_of_le _ _ ordered, Nat.mod_eq_of_lt (by omega)]

section

variable {keypair : ReplayState} {taken : List Nat} {seq : UInt64}

/-- Without a history the difference is not used; with one it is not cut. -/
theorem unmarked_or_cutDifference (remembers : keypair.Remembers taken)
    (span : WithinSpan taken seq.toNat) (newer : keypair.replayCounter < seq) :
    (∀ distance < replayWindowSize.toNat, ¬ keypair.Marked distance) ∨
      (seq - keypair.replayCounter).toUInt32.toNat =
        seq.toNat - keypair.replayCounter.toNat := by
  obtain none | member := remembers.reached
  · cases taken with
    | nil => exact Or.inl fun distance near => remembers.not_marked_nil near
    | cons number rest =>
        have first := remembers.bound number List.mem_cons_self
        have positive := remembers.positive
        rw [none, Nat.le_zero] at first
        exact absurd (first ▸ List.mem_cons_self) positive
  · exact Or.inr (toNat_cutDifference (UInt64.le_of_lt newer) (span _ member).2)

/-- The window after a counter above the greatest one. -/
theorem remembers_newer (remembers : keypair.Remembers taken) (span : WithinSpan taken seq.toNat)
    (newer : keypair.replayCounter < seq) :
    ReplayState.Remembers
      { replayBitmap :=
          if (seq - keypair.replayCounter).toUInt32 < replayWindowSize then
            (keypair.replayBitmap <<< (seq - keypair.replayCounter).toUInt32) ||| 1 else 1
        replayCounter := seq }
      (seq.toNat :: taken) := by
  have moved := remembers.newer (UInt64.lt_iff_toNat_lt.mp newer)
  have known := unmarked_or_cutDifference remembers span newer
  apply moved.congr
  intro distance inside
  change distance < 4 at inside
  unfold ReplayState.Marked
  by_cases near : (seq - keypair.replayCounter).toUInt32 < replayWindowSize
  · have small : (seq - keypair.replayCounter).toUInt32.toNat < 4 :=
      UInt32.lt_iff_toNat_lt.mp near
    rw [if_pos near, testBit_shifted _ (by omega) (by omega)]
    obtain unmarked | exactDifference := known
    · have first := unmarked (distance - (seq - keypair.replayCounter).toUInt32.toNat)
        (show _ < 4 by omega)
      have second := unmarked (distance - (seq.toNat - keypair.replayCounter.toNat))
        (show _ < 4 by omega)
      unfold ReplayState.Marked at first second
      simp only [first, second, Bool.false_eq_true, and_false]
    · rw [exactDifference]
  · have large : 4 ≤ (seq - keypair.replayCounter).toUInt32.toNat := by
      rw [UInt32.lt_iff_toNat_lt] at near
      exact Nat.le_of_not_lt near
    rw [if_neg near, UInt32.toNat_one, ← Nat.pow_zero 2, Nat.testBit_two_pow, decide_eq_true_iff,
      eq_comm]
    obtain unmarked | exactDifference := known
    · have second := unmarked (distance - (seq.toNat - keypair.replayCounter.toNat))
        (show _ < 4 by omega)
      unfold ReplayState.Marked at second
      simp [second]
    · have short : ¬ seq.toNat - keypair.replayCounter.toNat ≤ distance := by omega
      simp only [short, false_and, or_false]

/-- The answer is that of the full history, and the window goes on standing
for the history. -/
theorem wireguardCheckReplay_spec (remembers : keypair.Remembers taken)
    (span : WithinSpan taken seq.toNat) :
    ((wireguardCheckReplay seq keypair).1 = true ↔
        Admits replayWindowSize.toNat taken seq.toNat) ∧
      (wireguardCheckReplay seq keypair).2.Remembers
        (take replayWindowSize.toNat taken seq.toNat) := by
  unfold wireguardCheckReplay
  by_cases zero : seq = 0
  · subst seq
    have refused : ¬ Admits replayWindowSize.toNat taken (0 : UInt64).toNat :=
      fun admitted => admitted.1 rfl
    simp only [ne_eq, not_true_eq_false, if_false, refused, iff_self, take, Bool.false_eq_true]
    exact ⟨trivial, remembers⟩
  have positive : seq.toNat ≠ 0 := fun none => zero (UInt64.toNat_inj.mp none)
  rw [if_pos zero]
  by_cases newer : keypair.replayCounter < seq
  · have admitted := remembers.admits_newer (UInt64.lt_iff_toNat_lt.mp newer)
    simp only [gt_iff_lt, newer, if_true, admitted, take, true_and, iff_self]
    exact remembers_newer remembers span newer
  have older : seq.toNat ≤ keypair.replayCounter.toNat :=
    UInt64.le_iff_toNat_le.mp (UInt64.not_lt.mp newer)
  have member : keypair.replayCounter.toNat ∈ taken :=
    remembers.reached.resolve_left (by omega)
  have difference := toNat_cutDifference (UInt64.not_lt.mp newer) (span _ member).1
  have decided := remembers.admits_older_iff positive older
  simp only [gt_iff_lt, newer, if_false]
  by_cases near : (keypair.replayCounter - seq).toUInt32 < replayWindowSize
  · have small : keypair.replayCounter.toNat - seq.toNat < 4 :=
      difference ▸ UInt32.lt_iff_toNat_lt.mp near
    have marked := and_oneShifted_ne_zero keypair.replayBitmap
      (show (keypair.replayCounter - seq).toUInt32.toNat < 32 by omega)
    rw [if_pos near]
    by_cases seen : keypair.replayBitmap &&& (1 <<< (keypair.replayCounter - seq).toUInt32) ≠ 0
    · have refused : ¬ Admits replayWindowSize.toNat taken seq.toNat := by
        rw [decided]
        exact fun ⟨_, unmarked⟩ => unmarked (difference ▸ marked.mp seen)
      rw [if_pos seen]
      simp only [refused, take, if_false, Bool.false_eq_true, iff_self, true_and]
      exact remembers
    · have admitted : Admits replayWindowSize.toNat taken seq.toNat := by
        rw [decided]
        exact ⟨small, fun mark => seen (marked.mpr (difference.symm ▸ mark))⟩
      rw [if_neg seen]
      simp only [admitted, take, if_true, iff_self, true_and]
      apply (remembers.older positive older).congr
      intro distance _
      rw [ReplayState.Marked, testBit_marked _ (by omega), difference]
      rfl
  · have refused : ¬ Admits replayWindowSize.toNat taken seq.toNat := by
      rw [decided]
      refine fun ⟨reach, _⟩ => near (UInt32.lt_iff_toNat_lt.mpr ?_)
      rw [difference]
      exact reach
    rw [if_neg near]
    simp only [refused, take, if_false, Bool.false_eq_true, iff_self, true_and]
    exact remembers

/-! ## Every order of arrivals -/

/-- No two counters of a run are 2^32 or more apart. -/
def SpanBounded (arrivals : List UInt64) : Prop :=
  ∀ first ∈ arrivals, ∀ second ∈ arrivals, first.toNat < second.toNat + 2 ^ 32

theorem mem_take {width number other : Nat} {taken : List Nat}
    (member : other ∈ take width taken number) : other = number ∨ other ∈ taken := by
  unfold take at member
  split at member
  · exact List.mem_cons.mp member
  · exact Or.inr member

/-- The answers and the counters let through are those of the full history. -/
theorem replay_run {arrivals : List UInt64} (remembers : keypair.Remembers taken)
    (bounded : SpanBounded arrivals)
    (span : ∀ seq ∈ arrivals, WithinSpan taken seq.toNat) :
    replayVerdicts keypair arrivals =
        verdicts replayWindowSize.toNat taken (arrivals.map UInt64.toNat) ∧
      ((letThrough keypair arrivals).map UInt64.toNat).reverse ++ taken =
        takeAll replayWindowSize.toNat taken (arrivals.map UInt64.toNat) := by
  induction arrivals generalizing keypair taken with
  | nil => exact ⟨rfl, rfl⟩
  | cons seq arrivals ih =>
      obtain ⟨answer, goesOn⟩ :=
        wireguardCheckReplay_spec remembers (span seq List.mem_cons_self)
      have later : ∀ other ∈ arrivals,
          WithinSpan (take replayWindowSize.toNat taken seq.toNat) other.toNat := by
        intro other member earlier found
        obtain rfl | found := mem_take found
        · exact ⟨bounded seq List.mem_cons_self other (List.mem_cons_of_mem _ member),
            bounded other (List.mem_cons_of_mem _ member) seq List.mem_cons_self⟩
        · exact span other (List.mem_cons_of_mem _ member) earlier found
      obtain ⟨answers, passed⟩ := ih goesOn
        (fun first inFirst second inSecond => bounded first (List.mem_cons_of_mem _ inFirst)
          second (List.mem_cons_of_mem _ inSecond)) later
      constructor
      · rw [replayVerdicts, answers, List.map_cons, verdicts]
        congr 1
        exact Bool.eq_iff_iff.mpr (answer.trans decide_eq_true_iff.symm)
      · rw [List.map_cons, takeAll, List.foldl_cons, ← takeAll, ← passed, letThrough]
        by_cases admitted : Admits replayWindowSize.toNat taken seq.toNat
        · simp [answer.mpr admitted, take, admitted]
        · have refused : (wireguardCheckReplay seq keypair).1 = false :=
            Bool.eq_false_iff.mpr fun passes => admitted (answer.mp passes)
          simp [refused, take, admitted]

end

/-- For every order of arrivals on a new session, the window of four marks
answers like the full history, and no counter is let through twice. -/
theorem replayWindow_refines_history (arrivals : List UInt64) (bounded : SpanBounded arrivals) :
    replayVerdicts ReplayState.fresh arrivals =
        verdicts 4 [] (arrivals.map UInt64.toNat) ∧
      (letThrough ReplayState.fresh arrivals).Nodup := by
  obtain ⟨answers, passed⟩ := replay_run remembers_fresh bounded
    fun _ _ _ member => absurd member List.not_mem_nil
  refine ⟨answers, ?_⟩
  have distinct : (takeAll replayWindowSize.toNat [] (arrivals.map UInt64.toNat)).Nodup :=
    takeAll_nodup List.nodup_nil (arrivals.map UInt64.toNat)
  rw [← passed, List.append_nil, List.nodup_reverse] at distinct
  exact distinct.of_map _

theorem replayWindow_refines_history_reordered :
    replayVerdicts ReplayState.fresh [5, 3, 5, 4, 3, 9, 5] =
        verdicts 4 [] ([5, 3, 5, 4, 3, 9, 5].map UInt64.toNat) ∧
      (letThrough ReplayState.fresh [5, 3, 5, 4, 3, 9, 5]).Nodup :=
  replayWindow_refines_history [5, 3, 5, 4, 3, 9, 5] (by simp [SpanBounded])

end EchoMic
