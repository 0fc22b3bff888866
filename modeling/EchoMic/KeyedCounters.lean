import Mathlib.Data.List.Nodup
import Mathlib.Data.List.Perm.Subperm

/-!
# Counters under keys

A sender keeps a counter beside each of its keys and uses a pair of a key and
a counter for each message.  Its entries are moved, forgotten and begun under
new keys.  This file proves that no pair is used twice, in whatever order that
happens, as long as every key that is begun is new.
-/

namespace EchoMic

namespace KeyedCounters

variable {Key : Type*} {known begun others : List Key}
variable {live middle last used pairs more : List (Key × Nat)}

/-- The pairs that were used lie below the entries that are alive. -/
structure Accounts (known : List Key) (live used : List (Key × Nat)) : Prop where
  distinct : (live.map Prod.fst).Nodup
  liveKnown : ∀ entry ∈ live, entry.1 ∈ known
  usedKnown : ∀ pair ∈ used, pair.1 ∈ known
  below : ∀ entry ∈ live, ∀ pair ∈ used, pair.1 = entry.1 → pair.2 < entry.2
  nodup : used.Nodup

theorem accounts_nil : Accounts ([] : List Key) [] [] := by
  constructor <;> simp

/-- Entries may be moved and forgotten. -/
theorem Accounts.subperm (accounts : Accounts known live used) (kept : last.Subperm live) :
    Accounts known last used where
  distinct := by
    obtain ⟨moved, same, inside⟩ := kept
    have kept := (inside.map Prod.fst).nodup accounts.distinct
    exact (same.map Prod.fst).nodup_iff.mp kept
  liveKnown := fun entry member => accounts.liveKnown entry (kept.subset member)
  usedKnown := accounts.usedKnown
  below := fun entry member => accounts.below entry (kept.subset member)
  nodup := accounts.nodup

/-- A new key is begun. -/
theorem Accounts.start (accounts : Accounts known live used) {key : Key} (new : key ∉ known)
    (counter : Nat) : Accounts (known ++ [key]) ((key, counter) :: live) used where
  distinct := by
    refine List.nodup_cons.mpr ⟨fun member => ?_, accounts.distinct⟩
    obtain ⟨entry, alive, rfl⟩ := List.mem_map.mp member
    exact new (accounts.liveKnown entry alive)
  liveKnown := by
    intro entry member
    rcases List.mem_cons.mp member with rfl | alive
    · exact List.mem_append_right known (List.mem_singleton_self key)
    · exact List.mem_append_left _ (accounts.liveKnown entry alive)
  usedKnown := fun pair member => List.mem_append_left _ (accounts.usedKnown pair member)
  below := by
    intro entry member pair before same
    rcases List.mem_cons.mp member with rfl | alive
    · have found := accounts.usedKnown pair before
      rw [same] at found
      exact absurd found new
    · exact accounts.below entry alive pair before same
  nodup := accounts.nodup

/-- A counter is used and advanced. -/
theorem Accounts.use {key : Key} {counter : Nat}
    (accounts : Accounts known ((key, counter) :: live) used) :
    Accounts known ((key, counter + 1) :: live) (used ++ [(key, counter)]) where
  distinct := accounts.distinct
  liveKnown := by
    intro entry member
    rcases List.mem_cons.mp member with rfl | alive
    · exact accounts.liveKnown (key, counter) List.mem_cons_self
    · exact accounts.liveKnown entry (List.mem_cons_of_mem _ alive)
  usedKnown := by
    intro pair member
    rcases List.mem_append.mp member with before | now
    · exact accounts.usedKnown pair before
    · obtain rfl := List.mem_singleton.mp now
      exact accounts.liveKnown (key, counter) List.mem_cons_self
  below := by
    intro entry member pair isUsed same
    rcases List.mem_cons.mp member with rfl | alive
    · rcases List.mem_append.mp isUsed with before | now
      · exact Nat.lt_succ_of_lt (accounts.below (key, counter) List.mem_cons_self pair before same)
      · obtain rfl := List.mem_singleton.mp now
        exact Nat.lt_succ_self counter
    · rcases List.mem_append.mp isUsed with before | now
      · exact accounts.below entry (List.mem_cons_of_mem _ alive) pair before same
      · obtain rfl := List.mem_singleton.mp now
        exact absurd (List.mem_map.mpr ⟨entry, alive, same.symm⟩)
          (List.nodup_cons.mp accounts.distinct).1
  nodup := by
    refine List.Nodup.append accounts.nodup (List.nodup_singleton _) fun pair before now => ?_
    obtain rfl := List.mem_singleton.mp now
    exact absurd (accounts.below (key, counter) List.mem_cons_self _ before rfl) (Nat.lt_irrefl _)

/-! ## Steps -/

/-- From `live` to `last`, the keys `begun` are begun and `pairs` are used. -/
def Keeps (live : List (Key × Nat)) (begun : List Key) (pairs last : List (Key × Nat)) : Prop :=
  ∀ known used, Accounts known live used → (known ++ begun).Nodup →
    Accounts (known ++ begun) last (used ++ pairs)

theorem keeps_of_subperm (kept : last.Subperm live) : Keeps live [] [] last := by
  intro known used accounts _
  rw [List.append_nil, List.append_nil]
  exact accounts.subperm kept

theorem keeps_start (key : Key) (counter : Nat) (kept : last.Subperm ((key, counter) :: live)) :
    Keeps live [key] [] last := by
  intro known used accounts new
  rw [List.append_nil]
  refine (accounts.start (fun member => ?_) counter).subperm kept
  exact List.disjoint_of_nodup_append new member (List.mem_singleton_self key)

theorem keeps_use {key : Key} {counter : Nat} {rest : List (Key × Nat)}
    (before : live.Perm ((key, counter) :: rest)) (after : last.Perm ((key, counter + 1) :: rest)) :
    Keeps live [] [(key, counter)] last := by
  intro known used accounts _
  rw [List.append_nil]
  exact (accounts.subperm before.symm.subperm).use.subperm after.subperm

theorem Keeps.trans (first : Keeps live begun pairs middle)
    (second : Keeps middle others more last) :
    Keeps live (begun ++ others) (pairs ++ more) last := by
  intro known used accounts new
  rw [← List.append_assoc] at new
  rw [← List.append_assoc, ← List.append_assoc]
  exact second _ _ (first known used accounts (List.Nodup.of_append_left new)) new

end KeyedCounters

end EchoMic
