import EchoMic.ByteOrder
import Mathlib.Tactic.Ring

/-!
# The field of X25519 in words

Field elements are eight words of 32 bits, and the loops over them hand a
carry from word to word.  Every operation has the value of the field modulo
2^255 - 19 and leaves a number that the next operation can take.
-/

namespace EchoMic

namespace X25519

/-! ## Numbers in words -/

def radix : Nat :=
  2 ^ 32

/-- The number that words stand for, the least significant one first. -/
def value (words : List UInt32) : Nat :=
  Nat.ofDigits radix (words.map UInt32.toNat)

@[simp]
theorem value_nil : value [] = 0 :=
  rfl

@[simp]
theorem value_cons (word : UInt32) (words : List UInt32) :
    value (word :: words) = word.toNat + radix * value words := by
  simp [value, Nat.ofDigits_cons]

theorem value_append (low high : List UInt32) :
    value (low ++ high) = value low + radix ^ low.length * value high := by
  simp [value, Nat.ofDigits_append]

theorem value_lt (words : List UInt32) : value words < radix ^ words.length := by
  induction words with
  | nil => decide
  | cons word words ih =>
      have bounded : word.toNat < radix := word.toNat_lt
      have whole := Nat.mul_le_mul_left radix ih
      rw [Nat.mul_succ, Nat.mul_comm radix (radix ^ _)] at whole
      rw [value_cons, List.length_cons, Nat.pow_succ]
      omega

/-! ## Carries -/

/-- The new accumulator and the new carry. -/
def umaal (carry acc mand mier : UInt32) : UInt32 × UInt32 :=
  let tmp := mand.toUInt64 * mier.toUInt64 + acc.toUInt64 + carry.toUInt64
  (tmp.toUInt32, (tmp >>> 32).toUInt32)

def adc (carry acc mand : UInt32) : UInt32 × UInt32 :=
  let total := carry.toUInt64 + acc.toUInt64 + mand.toUInt64
  (total.toUInt32, (total >>> 32).toUInt32)

def adc0 (carry acc : UInt32) : UInt32 × UInt32 :=
  let total := carry.toUInt64 + acc.toUInt64
  (total.toUInt32, (total >>> 32).toUInt32)

theorem toNat_halves (total : UInt64) :
    total.toUInt32.toNat + radix * (total >>> 32).toUInt32.toNat = total.toNat := by
  have bounded := total.toNat_lt
  have high : (total >>> 32).toNat = total.toNat / 2 ^ 32 := by
    rw [UInt64.toNat_shiftRight, Nat.shiftRight_eq_div_pow]
    rfl
  unfold radix
  rw [UInt64.toNat_toUInt32, UInt64.toNat_toUInt32, high]
  omega

theorem umaal_spec (carry acc mand mier : UInt32) :
    (umaal carry acc mand mier).1.toNat + radix * (umaal carry acc mand mier).2.toNat =
      mand.toNat * mier.toNat + acc.toNat + carry.toNat := by
  have product : mand.toNat * mier.toNat ≤ (2 ^ 32 - 1) * (2 ^ 32 - 1) :=
    Nat.mul_le_mul (Nat.le_sub_one_of_lt mand.toNat_lt) (Nat.le_sub_one_of_lt mier.toNat_lt)
  have accBounded := acc.toNat_lt
  have carryBounded := carry.toNat_lt
  rw [umaal, toNat_halves]
  simp only [UInt64.toNat_add, UInt64.toNat_mul, UInt32.toNat_toUInt64]
  omega

theorem adc_spec (carry acc mand : UInt32) :
    (adc carry acc mand).1.toNat + radix * (adc carry acc mand).2.toNat =
      carry.toNat + acc.toNat + mand.toNat := by
  have accBounded := acc.toNat_lt
  have carryBounded := carry.toNat_lt
  have mandBounded := mand.toNat_lt
  rw [adc, toNat_halves]
  simp only [UInt64.toNat_add, UInt32.toNat_toUInt64]
  omega

theorem adc0_spec (carry acc : UInt32) :
    (adc0 carry acc).1.toNat + radix * (adc0 carry acc).2.toNat = carry.toNat + acc.toNat := by
  have accBounded := acc.toNat_lt
  have carryBounded := carry.toNat_lt
  rw [adc0, toNat_halves]
  simp only [UInt64.toNat_add, UInt32.toNat_toUInt64]
  omega

/-- The loop of `adc0` over a field element. -/
def carryIn (carry : UInt32) : List UInt32 → List UInt32 × UInt32
  | [] => ([], carry)
  | x :: xs =>
      let sum := adc0 carry x
      let rest := carryIn sum.2 xs
      (sum.1 :: rest.1, rest.2)

/-- The loop of `adc`. -/
def addWords (carry : UInt32) : List UInt32 → List UInt32 → List UInt32 × UInt32
  | a :: as, b :: bs =>
      let sum := adc carry a b
      let rest := addWords sum.2 as bs
      (sum.1 :: rest.1, rest.2)
  | _, _ => ([], carry)

/-- The loop of `sub`, with the signed carry that it leaves. -/
def subWords (carry : Int) : List UInt32 → List UInt32 → List UInt32 × Int
  | a :: as, b :: bs =>
      let total := carry + a.toNat - b.toNat
      let rest := subWords (total / radix) as bs
      (UInt32.ofInt total :: rest.1, rest.2)
  | _, _ => ([], carry)

/-- The inner loop of `mul`. -/
def umaalWords (mand carry : UInt32) : List UInt32 → List UInt32 → List UInt32 × UInt32
  | acc :: accs, mier :: miers =>
      let sum := umaal carry acc mand mier
      let rest := umaalWords mand sum.2 accs miers
      (sum.1 :: rest.1, rest.2)
  | _, _ => ([], carry)

theorem carryIn_spec (carry : UInt32) (xs : List UInt32) :
    (carryIn carry xs).1.length = xs.length ∧
      value (carryIn carry xs).1 + radix ^ xs.length * (carryIn carry xs).2.toNat =
        carry.toNat + value xs := by
  induction xs generalizing carry with
  | nil => simp [carryIn]
  | cons x xs ih =>
      obtain ⟨length, total⟩ := ih (adc0 carry x).2
      have word := adc0_spec carry x
      have scaled := congrArg (radix * ·) total
      simp only [carryIn, List.length_cons, length, value_cons, true_and, Nat.pow_succ]
      linarith

theorem addWords_spec (carry : UInt32) {as bs : List UInt32} (same : as.length = bs.length) :
    (addWords carry as bs).1.length = as.length ∧
      value (addWords carry as bs).1 + radix ^ as.length * (addWords carry as bs).2.toNat =
        carry.toNat + value as + value bs := by
  induction as generalizing carry bs with
  | nil =>
      obtain rfl := List.length_eq_zero_iff.mp same.symm
      simp [addWords]
  | cons a as ih =>
      obtain _ | ⟨b, bs⟩ := bs
      · cases same
      · obtain ⟨length, total⟩ := ih (adc carry a b).2 (Nat.succ.inj same)
        have word := adc_spec carry a b
        have scaled := congrArg (radix * ·) total
        simp only [addWords, List.length_cons, length, value_cons, true_and, Nat.pow_succ]
        linarith

theorem toNat_ofInt (total : Int) :
    ((UInt32.ofInt total).toNat : Int) = total % radix := by
  have positive : 0 ≤ total % radix := Int.emod_nonneg _ (by decide)
  have bounded : total % radix < radix := Int.emod_lt_of_pos _ (by decide)
  have cut : (UInt32.ofInt total).toNat = (total % radix).toNat % radix := UInt32.toNat_ofNat'
  rw [cut, Nat.mod_eq_of_lt (by omega), Int.toNat_of_nonneg positive]

theorem subWords_spec (carry : Int) {as bs : List UInt32} (same : as.length = bs.length) :
    (subWords carry as bs).1.length = as.length ∧
      (value (subWords carry as bs).1 : Int) +
          radix ^ as.length * (subWords carry as bs).2 =
        carry + value as - value bs := by
  induction as generalizing carry bs with
  | nil =>
      obtain rfl := List.length_eq_zero_iff.mp same.symm
      simp [subWords]
  | cons a as ih =>
      obtain _ | ⟨b, bs⟩ := bs
      · cases same
      · obtain ⟨length, total⟩ :=
          ih ((carry + a.toNat - b.toNat) / radix) (Nat.succ.inj same)
        have word := toNat_ofInt (carry + a.toNat - b.toNat)
        have split := Int.emod_add_mul_ediv (carry + a.toNat - b.toNat) radix
        have scaled := congrArg ((radix : Int) * ·) total
        refine ⟨congrArg (· + 1) length, ?_⟩
        simp only [subWords, List.length_cons, value_cons, pow_succ]
        push_cast
        linarith

theorem umaalWords_spec (mand carry : UInt32) {accs miers : List UInt32}
    (same : accs.length = miers.length) :
    (umaalWords mand carry accs miers).1.length = accs.length ∧
      value (umaalWords mand carry accs miers).1 +
          radix ^ accs.length * (umaalWords mand carry accs miers).2.toNat =
        carry.toNat + value accs + mand.toNat * value miers := by
  induction accs generalizing carry miers with
  | nil =>
      obtain rfl := List.length_eq_zero_iff.mp same.symm
      simp [umaalWords]
  | cons acc accs ih =>
      obtain _ | ⟨mier, miers⟩ := miers
      · cases same
      · obtain ⟨length, total⟩ := ih (umaal carry acc mand mier).2 (Nat.succ.inj same)
        have word := umaal_spec carry acc mand mier
        have scaled := congrArg (radix * ·) total
        simp only [umaalWords, List.length_cons, length, value_cons, true_and, Nat.pow_succ]
        linarith

/-! ## Field elements -/

/-- `fe`. -/
structure Fe where
  words : List UInt32
  length : words.length = 8

def prime : Nat :=
  2 ^ 255 - 19

namespace Fe

def value (x : Fe) : Nat :=
  X25519.value x.words

theorem value_lt (x : Fe) : x.value < 2 ^ 256 := by
  have bounded := X25519.value_lt x.words
  rwa [x.length] at bounded

/-- What every operation leaves: less than 2^255 and one word. -/
def IsReduced (x : Fe) : Prop :=
  x.value < 2 ^ 255 + 2 ^ 32

/-- The number modulo 2^255 - 19. -/
def residue (x : Fe) : Nat :=
  x.value % prime

end Fe

def carryInto (carry : UInt32) (x : Fe) : Fe :=
  ⟨(carryIn carry x.words).1, (carryIn_spec carry x.words).1.trans x.length⟩

/-- `x[NLIMBS-1]` with its high bit cleared. -/
def clearTop (x : Fe) : Fe :=
  ⟨x.words.set 7 (x.words.getD 7 0 &&& ~~~((1 : UInt32) <<< 31)), by
    rw [List.length_set, x.length]⟩

def propagate (x : Fe) (overBits : UInt32) : Fe :=
  let overBits : UInt32 := (x.words.getD 7 0 >>> 31) ||| (overBits <<< 1)
  carryInto (overBits * 19) (clearTop x)

def add (a b : Fe) : Fe :=
  let sum := addWords 0 a.words b.words
  propagate ⟨sum.1, (addWords_spec 0 (a.length.trans b.length.symm)).1.trans a.length⟩ sum.2

def sub (a b : Fe) : Fe :=
  let difference := subWords (-38) a.words b.words
  propagate
    ⟨difference.1, (subWords_spec (-38) (a.length.trans b.length.symm)).1.trans a.length⟩
    (UInt32.ofInt (1 + difference.2))

/-- The outer loop of `mul`, on `accum` from the index `i` on. -/
def mulRows (a : List UInt32) : List UInt32 → List UInt32 → List UInt32
  | accum, [] => accum
  | accum, mand :: b =>
      let row := umaalWords mand 0 (accum.take 8) a
      match row.1 ++ row.2 :: accum.drop 9 with
      | [] => []
      | limb :: rest => limb :: mulRows a rest b

/-- The rows of `mul` add a product to the numbers in front of the zeros. -/
theorem mulRows_spec {a : List UInt32} (eight : a.length = 8) (b window : List UInt32)
    (length : window.length = 8) {count : Nat} (room : b.length ≤ count) :
    (mulRows a (window ++ List.replicate count 0) b).length = 8 + count ∧
      value (mulRows a (window ++ List.replicate count 0) b) =
        value window + value a * value b := by
  induction b generalizing window count with
  | nil =>
      have zeros : value (List.replicate count 0) = 0 := by
        clear room
        induction count with
        | zero => rfl
        | succ count ih => rw [List.replicate_succ, value_cons, ih]; rfl
      constructor
      · rw [mulRows, List.length_append, length, List.length_replicate]
      · rw [mulRows, value_append, zeros, value_nil, Nat.mul_zero, Nat.mul_zero]
  | cons mand b ih =>
      rw [List.length_cons] at room
      obtain ⟨rowLength, rowValue⟩ := umaalWords_spec mand 0 (length.trans eight.symm)
      generalize row : umaalWords mand 0 window a = result at rowLength rowValue
      obtain ⟨words, carry⟩ := result
      simp only [length, UInt32.toNat_zero, Nat.zero_add] at rowLength rowValue
      obtain _ | ⟨limb, rest⟩ := words
      · cases rowLength
      have first : (window ++ List.replicate count 0).take 8 = window := by
        rw [← length, List.take_left]
      have behind : (window ++ List.replicate count 0).drop 9 = List.replicate (count - 1) 0 := by
        rw [List.drop_append, List.drop_of_length_le (by omega), List.nil_append,
          List.drop_replicate, length]
      have shape : mulRows a (window ++ List.replicate count 0) (mand :: b) =
          limb :: mulRows a (rest ++ [carry] ++ List.replicate (count - 1) 0) b := by
        rw [mulRows, first, behind, row]
        simp only [List.cons_append, List.append_assoc, List.nil_append]
      rw [List.length_cons] at rowLength
      obtain ⟨sizes, values⟩ := ih (rest ++ [carry])
        (by rw [List.length_append, List.length_singleton]; omega) (show b.length ≤ count - 1 by omega)
      rw [shape]
      constructor
      · rw [List.length_cons, sizes]
        omega
      · have seven : rest.length = 7 := by omega
        simp only [value_cons, value_append, value_nil, seven] at rowValue values ⊢
        rw [values]
        have shift : radix ^ 8 = radix * radix ^ 7 := rfl
        rw [shift] at rowValue
        linarith

/-- The product of a field element and `nb` words. -/
def mul (a : Fe) (b : List UInt32) (nb : b.length ≤ 8) : Fe :=
  let accum := mulRows a.words (List.replicate 16 0) b
  let out := umaalWords 38 0 (accum.take 8) (accum.drop 8)
  have size : accum.length = 16 :=
    (mulRows_spec a.length b (List.replicate 8 0) List.length_replicate nb).1
  propagate
    ⟨out.1, (umaalWords_spec 38 0 (by rw [List.length_take, List.length_drop]; omega)).1.trans
      (by rw [List.length_take]; omega)⟩
    out.2

def sqr (a : Fe) : Fe :=
  mul a a.words (Nat.le_of_eq a.length)

/-- The new value of `out`. -/
def mul1 (out a : Fe) : Fe :=
  mul a out.words (Nat.le_of_eq out.length)

/-- The last loop of `canon`, with `res`. -/
def takeAway (carry : Int) (res : UInt32) : List UInt32 → List UInt32 × UInt32
  | [] => ([], res)
  | x :: xs =>
      let total := carry + x.toNat
      let rest := takeAway (total / radix) (res ||| UInt32.ofInt total) xs
      (UInt32.ofInt total :: rest.1, rest.2)

theorem takeAway_spec (carry : Int) (res : UInt32) (xs : List UInt32) :
    (takeAway carry res xs).1.length = xs.length ∧
      (∃ borrow : Int, (value (takeAway carry res xs).1 : Int) + radix ^ xs.length * borrow =
        carry + value xs) ∧
      ((takeAway carry res xs).2 = 0 ↔ res = 0 ∧ value (takeAway carry res xs).1 = 0) := by
  induction xs generalizing carry res with
  | nil => exact ⟨rfl, ⟨carry, by simp [takeAway]⟩, by simp [takeAway]⟩
  | cons x xs ih =>
      obtain ⟨length, ⟨borrow, total⟩, zero⟩ :=
        ih ((carry + x.toNat) / radix) (res ||| UInt32.ofInt (carry + x.toNat))
      have word := toNat_ofInt (carry + x.toNat)
      have split := Int.emod_add_mul_ediv (carry + x.toNat) radix
      have scaled := congrArg ((radix : Int) * ·) total
      refine ⟨congrArg (· + 1) length, ⟨borrow, ?_⟩, ?_⟩
      · simp only [takeAway, List.length_cons, value_cons, pow_succ]
        push_cast
        linarith
      · have none : res ||| UInt32.ofInt (carry + x.toNat) = 0 ↔
            res = 0 ∧ UInt32.ofInt (carry + x.toNat) = 0 := by
          rw [← UInt32.toNat_inj, ← UInt32.toNat_inj, ← UInt32.toNat_inj, UInt32.toNat_or]
          exact Nat.or_eq_zero_iff
        have positive : 0 < radix := by decide
        simp only [takeAway, zero, none, value_cons, Nat.add_eq_zero_iff, Nat.mul_eq_zero,
          positive.ne', false_or, and_assoc, ← UInt32.toNat_inj]
        rfl

/-- The least residue and the mask that says whether it is zero. -/
def canon (x : Fe) : Fe × UInt32 :=
  let sum := carryIn 19 x.words
  let x := propagate ⟨sum.1, (carryIn_spec 19 x.words).1.trans x.length⟩ sum.2
  let least := takeAway (-19) 0 x.words
  (⟨least.1, (takeAway_spec (-19) 0 x.words).1.trans x.length⟩,
    ((least.2.toUInt64 - 1) >>> 32).toUInt32)

/-! ## Propagating -/

theorem split_top (x : Fe) :
    ∃ low top, low.length = 7 ∧ x.words = low ++ [top] ∧ x.words.getD 7 0 = top ∧
      x.value = X25519.value low + 2 ^ 224 * top.toNat := by
  have length := x.length
  obtain none | ⟨low, top, split⟩ := x.words.eq_nil_or_concat
  · rw [none] at length
    cases length
  rw [List.concat_eq_append] at split
  rw [split, List.length_append, List.length_singleton] at length
  replace length : low.length = 7 := by omega
  refine ⟨low, top, length, split, ?_, ?_⟩
  · rw [split, List.getD_eq_getElem?_getD, ← length, List.getElem?_concat_length]
    rfl
  · rw [Fe.value, split, value_append, length, value_cons, value_nil]
    rfl

theorem value_clearTop (x : Fe) : (clearTop x).value = x.value % 2 ^ 255 := by
  obtain ⟨low, top, length, split, last, whole⟩ := split_top x
  have bounded := X25519.value_lt low
  have cleared : (top &&& ~~~((1 : UInt32) <<< 31)).toNat = top.toNat % 2 ^ 31 := by
    change (top &&& 0x7fffffff).toNat = _
    rw [UInt32.toNat_and]
    exact Nat.and_two_pow_sub_one_eq_mod _ 31
  have shape : (clearTop x).words = low ++ [top &&& ~~~((1 : UInt32) <<< 31)] := by
    have set_top : (clearTop x).words =
        x.words.set 7 (x.words.getD 7 0 &&& ~~~((1 : UInt32) <<< 31)) := rfl
    rw [set_top, last, split, List.set_append_right _ _ (by omega), length]
    rfl
  rw [length] at bounded
  change _ < 2 ^ 224 at bounded
  rw [whole, Fe.value, shape, value_append, length, value_cons, value_nil, cleared]
  change _ + 2 ^ 224 * _ = _
  omega

theorem carryInto_spec {carry : UInt32} {x : Fe} (room : carry.toNat + x.value < 2 ^ 256) :
    (carryInto carry x).value = carry.toNat + x.value := by
  have total := (carryIn_spec carry x.words).2
  rw [x.length] at total
  change (carryInto carry x).value + 2 ^ 256 * (carryIn carry x.words).2.toNat =
    carry.toNat + x.value at total
  omega

/-- Everything from bit 255 on comes back 19 times at the bottom. -/
theorem value_propagate (x : Fe) {overBits : UInt32} (small : overBits.toNat < 2 ^ 26) :
    (propagate x overBits).value =
      (x.value + 2 ^ 256 * overBits.toNat) % 2 ^ 255 +
        19 * ((x.value + 2 ^ 256 * overBits.toNat) / 2 ^ 255) := by
  obtain ⟨low, top, length, split, last, whole⟩ := split_top x
  have bounded := X25519.value_lt low
  rw [length] at bounded
  change _ < 2 ^ 224 at bounded
  have topBit : (top >>> 31).toNat = top.toNat / 2 ^ 31 := by
    rw [UInt32.toNat_shiftRight, Nat.shiftRight_eq_div_pow]
    rfl
  have topBounded := top.toNat_lt
  have joined : ((top >>> 31) ||| (overBits <<< 1)).toNat =
      top.toNat / 2 ^ 31 + overBits.toNat * 2 := by
    rw [toNat_or_shiftLeft (by decide) (show _ < 2 ^ 1 by omega)
      (show overBits.toNat * 2 ^ 1 < 2 ^ 32 by omega), topBit]
    rfl
  have carry : (((top >>> 31) ||| (overBits <<< 1)) * 19).toNat =
      19 * (top.toNat / 2 ^ 31 + overBits.toNat * 2) := by
    rw [UInt32.toNat_mul, joined]
    change _ * 19 % 2 ^ 32 = _
    omega
  have cleared := value_clearTop x
  rw [propagate, last, carryInto_spec (by omega), carry, cleared]
  omega

theorem propagate_spec (x : Fe) {overBits : UInt32} (small : overBits.toNat < 2 ^ 26) :
    (propagate x overBits).IsReduced ∧
      (propagate x overBits).residue = (x.value + 2 ^ 256 * overBits.toNat) % prime := by
  have result := value_propagate x small
  have bounded := x.value_lt
  refine ⟨?_, ?_⟩
  · unfold Fe.IsReduced
    omega
  · have same : x.value + 2 ^ 256 * overBits.toNat =
        (propagate x overBits).value + prime * ((x.value + 2 ^ 256 * overBits.toNat) / 2 ^ 255) := by
      unfold prime
      omega
    rw [Fe.residue, same, Nat.add_mul_mod_self_left]

/-! ## The field -/

theorem add_spec (a b : Fe) :
    (add a b).IsReduced ∧ (add a b).residue = (a.residue + b.residue) % prime := by
  obtain ⟨length, total⟩ := addWords_spec 0 (a.length.trans b.length.symm)
  have firstBounded := a.value_lt
  have secondBounded := b.value_lt
  rw [a.length] at total length
  change _ + 2 ^ 256 * _ = 0 + a.value + b.value at total
  rw [Nat.zero_add] at total
  obtain ⟨reduced, same⟩ := propagate_spec ⟨(addWords 0 a.words b.words).1, length⟩
    (show (addWords 0 a.words b.words).2.toNat < 2 ^ 26 by omega)
  refine ⟨reduced, same.trans ?_⟩
  rw [Fe.residue, Fe.residue, ← Nat.add_mod, ← total]
  rfl

/-- The number that is taken away need not be smaller. -/
theorem sub_spec (a : Fe) {b : Fe} (bReduced : b.IsReduced) :
    (sub a b).IsReduced ∧ (sub a b).residue = (a.residue + (prime - b.residue)) % prime := by
  obtain ⟨length, total⟩ := subWords_spec (-38) (a.length.trans b.length.symm)
  have firstBounded := a.value_lt
  unfold Fe.IsReduced at bReduced
  rw [a.length] at total length
  have low := X25519.value_lt (subWords (-38) a.words b.words).1
  rw [length] at low
  change _ < 2 ^ 256 at low
  change (X25519.value _ : Int) + 2 ^ 256 * _ = -38 + a.value - b.value at total
  generalize difference : subWords (-38) a.words b.words = result at total length low
  obtain ⟨words, carry⟩ := result
  simp only at total length low
  have range : carry = 0 ∨ carry = -1 := by omega
  have unsignedCarry : (UInt32.ofInt (1 + carry)).toNat = (1 + carry).toNat := by
    obtain rfl | rfl := range <;> decide
  obtain ⟨reduced, same⟩ := propagate_spec ⟨words, length⟩
    (show (UInt32.ofInt (1 + carry)).toNat < 2 ^ 26 by rw [unsignedCarry]; omega)
  have shape : sub a b = propagate ⟨words, length⟩ (UInt32.ofInt (1 + carry)) := by
    unfold sub
    simp only [difference]
  rw [shape]
  refine ⟨reduced, same.trans ?_⟩
  rw [unsignedCarry]
  have positive : X25519.value words + 2 ^ 256 * (1 + carry).toNat + b.value =
      a.value + 2 * prime := by
    unfold prime
    omega
  change (X25519.value words + 2 ^ 256 * (1 + carry).toNat) % prime = _
  unfold Fe.residue
  unfold prime at positive ⊢
  omega

theorem mul_spec (a : Fe) {b : List UInt32} (nb : b.length ≤ 8) :
    (mul a b nb).IsReduced ∧ (mul a b nb).residue = a.residue * value b % prime := by
  obtain ⟨size, product⟩ := mulRows_spec a.length b (List.replicate 8 0) List.length_replicate nb
  have rows : List.replicate 8 (0 : UInt32) ++ List.replicate 8 0 = List.replicate 16 0 := rfl
  rw [rows] at size product
  generalize accumulated : mulRows a.words (List.replicate 16 0) b = accum at size product
  have lowSize : (accum.take 8).length = 8 := by
    rw [List.length_take]
    omega
  have highSize : (accum.drop 8).length = 8 := by
    rw [List.length_drop]
    omega
  obtain ⟨length, total⟩ := umaalWords_spec 38 0 (lowSize.trans highSize.symm)
  have lowBounded := X25519.value_lt (accum.take 8)
  have highBounded := X25519.value_lt (accum.drop 8)
  have split : value accum = value (accum.take 8) + 2 ^ 256 * value (accum.drop 8) := by
    have parts := value_append (accum.take 8) (accum.drop 8)
    rwa [List.take_append_drop, lowSize] at parts
  rw [lowSize] at length total lowBounded
  rw [highSize] at highBounded
  change _ < 2 ^ 256 at lowBounded
  change _ < 2 ^ 256 at highBounded
  change _ + 2 ^ 256 * _ = 0 + value (accum.take 8) + 38 * value (accum.drop 8) at total
  obtain ⟨reduced, same⟩ := propagate_spec ⟨(umaalWords 38 0 (accum.take 8) (accum.drop 8)).1, length⟩
    (show (umaalWords 38 0 (accum.take 8) (accum.drop 8)).2.toNat < 2 ^ 26 by omega)
  have shape : mul a b nb =
      propagate ⟨(umaalWords 38 0 (accum.take 8) (accum.drop 8)).1, length⟩
        (umaalWords 38 0 (accum.take 8) (accum.drop 8)).2 := by
    unfold mul
    simp only [accumulated]
  have whole : value accum = X25519.value (umaalWords 38 0 (accum.take 8) (accum.drop 8)).1 +
      2 ^ 256 * (umaalWords 38 0 (accum.take 8) (accum.drop 8)).2.toNat +
        prime * (2 * value (accum.drop 8)) := by
    unfold prime
    omega
  rw [shape]
  refine ⟨reduced, same.trans ?_⟩
  have zero : value (List.replicate 8 0) = 0 := rfl
  rw [zero, Nat.zero_add] at product
  change _ = a.value * value b at product
  rw [Fe.residue, Nat.mod_mul_mod, ← product, whole, Nat.add_mul_mod_self_left]
  rfl

theorem toNat_mask (res : UInt32) :
    ((res.toUInt64 - 1) >>> 32).toUInt32 = if res = 0 then 0xFFFFFFFF else 0 := by
  by_cases zero : res = 0
  · rw [if_pos zero, zero]
    rfl
  · have positive : res.toNat ≠ 0 := fun none => zero (UInt32.toNat_inj.mp none)
    have bounded := res.toNat_lt
    have less : (res.toUInt64 - 1).toNat = res.toNat - 1 := by
      rw [UInt64.toNat_sub, UInt32.toNat_toUInt64]
      change (2 ^ 64 - 1 + res.toNat) % 2 ^ 64 = _
      omega
    rw [if_neg zero, ← UInt32.toNat_inj, UInt64.toNat_toUInt32, UInt64.toNat_shiftRight, less,
      Nat.shiftRight_eq_div_pow]
    change (res.toNat - 1) / 2 ^ 32 % 2 ^ 32 = 0
    omega

/-- The result is the least residue, and the mask says whether it is zero. -/
theorem canon_spec {x : Fe} (reduced : x.IsReduced) :
    (canon x).1.value = x.residue ∧
      (canon x).2 = if x.residue = 0 then 0xFFFFFFFF else 0 := by
  unfold Fe.IsReduced at reduced
  obtain ⟨length, total⟩ := carryIn_spec 19 x.words
  rw [x.length] at length total
  change _ + 2 ^ 256 * _ = 19 + x.value at total
  have none : (carryIn 19 x.words).2 = 0 := UInt32.toNat_inj.mp (by
    change _ = 0
    omega)
  have shape : canon x = (⟨(takeAway (-19) 0 (propagate ⟨(carryIn 19 x.words).1, length⟩ 0).words).1,
      (takeAway_spec (-19) 0 _).1.trans (Fe.length _)⟩,
      (((takeAway (-19) 0 (propagate ⟨(carryIn 19 x.words).1, length⟩ 0).words).2.toUInt64 - 1) >>>
        32).toUInt32) := by
    unfold canon
    simp only [none]
  have propagated := value_propagate ⟨(carryIn 19 x.words).1, length⟩
    (show (0 : UInt32).toNat < 2 ^ 26 by decide)
  have sum : Fe.value ⟨(carryIn 19 x.words).1, length⟩ = 19 + x.value := by
    rw [none] at total
    exact total
  rw [sum, UInt32.toNat_zero, Nat.mul_zero, Nat.add_zero] at propagated
  generalize propagate ⟨(carryIn 19 x.words).1, length⟩ 0 = y at shape propagated
  obtain ⟨lastLength, ⟨borrow, lowered⟩, zero⟩ := takeAway_spec (-19) 0 y.words
  have low := X25519.value_lt (takeAway (-19) 0 y.words).1
  rw [lastLength, y.length] at low
  rw [y.length] at lowered
  change _ < 2 ^ 256 at low
  change (X25519.value _ : Int) + 2 ^ 256 * borrow = -19 + y.value at lowered
  have least : X25519.value (takeAway (-19) 0 y.words).1 = x.residue := by
    unfold Fe.residue prime
    obtain below | above : 19 + x.value < 2 ^ 255 ∨ 2 ^ 255 ≤ 19 + x.value := by omega
    · have settled : borrow = 0 := by omega
      rw [Nat.mod_eq_of_lt (by omega)]
      omega
    · have once : (19 + x.value) / 2 ^ 255 = 1 := by omega
      have settled : borrow = 0 := by omega
      rw [Nat.mod_eq_sub_mod (by omega), Nat.mod_eq_of_lt (by omega)]
      omega
  rw [shape]
  refine ⟨least, ?_⟩
  rw [toNat_mask]
  simp only [zero, true_and, least]

end X25519

end EchoMic
