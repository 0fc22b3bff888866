import EchoMic.X25519Field
import Mathlib.Data.Fintype.Basic
import Mathlib.Tactic.FinCases

/-!
# X25519

The ladder of the key agreement and the inversion behind it, on the five
registers of the source, compute the ladder of RFC 7748 on numbers modulo
2^255 - 19.
-/

namespace EchoMic

namespace X25519

/-- `xs`, with the registers `x2`, `z2`, `x3`, `z3` and `t1`. -/
abbrev Registers :=
  Vector Fe 5

def swapWords (doswap : UInt32) (a b : Fe) : Fe :=
  ⟨List.zipWith (fun a b => a ^^^ ((a ^^^ b) &&& doswap)) a.words b.words, by
    rw [List.length_zipWith, a.length, b.length, Nat.min_self]⟩

/-- `condswap(x2,x3,doswap)`, over two registers each. -/
def condswap (doswap : UInt32) (xs : Registers) : Registers :=
  #v[swapWords doswap xs[0] xs[2], swapWords doswap xs[1] xs[3],
    swapWords doswap xs[2] xs[0], swapWords doswap xs[3] xs[1], xs[4]]

def ladderPart1 (xs : Registers) : Registers :=
  let t1 := add xs[0] xs[1]
  let z2 := sub xs[0] xs[1]
  let x2 := add xs[2] xs[3]
  let z3 := sub xs[2] xs[3]
  let z3 := mul1 z3 t1
  let x2 := mul1 x2 z2
  let x3 := add z3 x2
  let z3 := sub z3 x2
  let t1 := mul1 t1 t1
  let z2 := mul1 z2 z2
  let x2 := sub t1 z2
  let z2 := mul x2 [121665] (Nat.le_add_left 1 7)
  let z2 := add z2 t1
  #v[x2, z2, x3, z3, t1]

def ladderPart2 (xs : Registers) (x1 : Fe) : Registers :=
  let z3 := mul1 xs[3] xs[3]
  let z3 := mul1 z3 x1
  let x3 := mul1 xs[2] xs[2]
  let z2 := mul1 xs[1] xs[0]
  let x2 := sub xs[4] xs[0]
  let x2 := mul1 x2 xs[4]
  #v[x2, z2, x3, z3, xs[4]]

/-- `bytei`, with the bits of a private key set and cleared. -/
def clampedByte (scalar : Bytes) (clamp : Bool) (index : Nat) : UInt8 :=
  let bytei := byteAt scalar index
  if clamp then
    if index = 0 then bytei &&& ~~~7
    else if index = 31 then (bytei &&& 0x7F) ||| 0x40
    else bytei
  else bytei

def scalarBit (scalar : Bytes) (clamp : Bool) (i : Nat) : UInt8 :=
  (clampedByte scalar clamp (i / 8) >>> UInt8.ofNat (i % 8)) &&& 1

/-- One turn of the loop of `x25519_core`, with `swap`. -/
def coreStep (scalar : Bytes) (clamp : Bool) (x1 : Fe) (state : Registers × UInt32) (i : Nat) :
    Registers × UInt32 :=
  let doswap : UInt32 := 0 - (scalarBit scalar clamp i).toUInt32
  let xs := condswap (state.2 ^^^ doswap) state.1
  (ladderPart2 (ladderPart1 xs) x1, doswap)

def small (word : UInt32) : Fe :=
  ⟨word :: List.replicate 7 0, by rw [List.length_cons, List.length_replicate]⟩

/-- `swapin`, of a buffer of 32 bytes. -/
def swapin (x1 : Bytes) : Fe :=
  ⟨(List.range 8).map fun index => u8To32Little (x1.drop (4 * index)), by
    rw [List.length_map, List.length_range]⟩

def swapout (x : Fe) : Bytes :=
  x.words.flatMap u32To8Little

/-- `t1` has not been written before the loop; it is not read either. -/
def x25519Core (scalar x1 : Bytes) (clamp : Bool) : Registers :=
  let start : Registers := #v[small 1, small 0, swapin x1, small 1, small 0]
  let state := (List.range 256).reverse.foldl (coreStep scalar clamp (swapin x1)) (start, 0)
  condswap state.2 state.1

structure ChainStep where
  a : Fin 5
  c : Fin 5
  n : Nat

def steps : List ChainStep :=
  [⟨2, 1, 1⟩, ⟨2, 1, 1⟩, ⟨4, 2, 3⟩, ⟨2, 4, 6⟩, ⟨3, 1, 1⟩, ⟨3, 2, 12⟩, ⟨4, 3, 25⟩, ⟨2, 3, 25⟩,
    ⟨2, 4, 50⟩, ⟨3, 2, 125⟩, ⟨3, 1, 2⟩, ⟨3, 1, 2⟩, ⟨3, 1, 1⟩]

/-- One step of the inversion, with the register that `prev` points to. -/
def chainStep (state : Registers × Fin 5) (step : ChainStep) : Registers × Fin 5 :=
  let xs := state.1.set step.a (sqr^[step.n] state.1[state.2])
  (xs.set step.a (mul1 xs[step.a] xs[step.c]), step.a)

end X25519

open X25519 in
/-- The output and the return value. -/
def x25519 (scalar x1 : Bytes) (clamp : Bool) : Bytes × UInt32 :=
  let xs := x25519Core scalar x1 clamp
  let inverted := (steps.foldl chainStep (xs, 1)).1
  let result := canon (mul1 inverted[0] inverted[3])
  (swapout result.1, if clamp then result.2 else 0)

namespace X25519

/-! ## The ladder on numbers -/

def plus (a b : Nat) : Nat :=
  (a + b) % prime

def minus (a b : Nat) : Nat :=
  (a + (prime - b)) % prime

def times (a b : Nat) : Nat :=
  a * b % prime

structure Ladder where
  x2 : Nat
  z2 : Nat
  x3 : Nat
  z3 : Nat
  deriving DecidableEq

def Ladder.swap (s : Ladder) : Ladder where
  x2 := s.x3
  z2 := s.z3
  x3 := s.x2
  z3 := s.z2

/-- One step of RFC 7748, with `u` for `x1`. -/
def Ladder.step (u : Nat) (s : Ladder) : Ladder :=
  let a := plus s.x2 s.z2
  let aa := times a a
  let b := minus s.x2 s.z2
  let bb := times b b
  let e := minus aa bb
  let c := plus s.x3 s.z3
  let d := minus s.x3 s.z3
  let da := times d a
  let cb := times c b
  { x2 := times aa bb
    z2 := times e (plus aa (times 121665 e))
    x3 := times (plus da cb) (plus da cb)
    z3 := times u (times (minus da cb) (minus da cb)) }

def Ladder.turn (u : Nat) (s : Ladder) (bit : Bool) : Ladder :=
  if bit then (s.swap.step u).swap else s.step u

def ladder (u : Nat) (bits : List Bool) : Ladder :=
  bits.foldl (Ladder.turn u) ⟨1, 0, u, 1⟩

/-- The number that a private key stands for. -/
def privateNumber (scalar : Bytes) (clamp : Bool) : Nat :=
  littleEndian ((List.range 32).map (clampedByte scalar clamp))

/-- The result of the agreement as a number. -/
def agreement (k u : Nat) : Nat :=
  let s := ladder (u % prime) ((List.range 256).reverse.map k.testBit)
  s.x2 * s.z2 ^ (prime - 2) % prime

/-! ## Swapping -/

theorem Fe.ext {x y : Fe} (words : x.words = y.words) : x = y := by
  cases x
  cases y
  cases words
  rfl

theorem swapWords_zero (a b : Fe) : swapWords 0 a b = a := by
  apply Fe.ext
  apply List.ext_getElem
  · exact (swapWords 0 a b).length.trans a.length.symm
  · intro index _ _
    simp [swapWords]

theorem swapWords_ones (a b : Fe) : swapWords 0xFFFFFFFF a b = b := by
  apply Fe.ext
  apply List.ext_getElem
  · exact (swapWords 0xFFFFFFFF a b).length.trans b.length.symm
  · intro index _ _
    have ones (word : UInt32) : word &&& 0xFFFFFFFF = word := UInt32.and_neg_one
    simp only [swapWords, List.getElem_zipWith, ones, ← UInt32.xor_assoc, UInt32.xor_self,
      UInt32.zero_xor]

/-- Registers that are equal to a state of the ladder. -/
structure Shows (s : Ladder) (xs : Registers) : Prop where
  x2 : xs[0].residue = s.x2
  z2 : xs[1].residue = s.z2
  x3 : xs[2].residue = s.x3
  z3 : xs[3].residue = s.z3
  z2Reduced : xs[1].IsReduced
  z3Reduced : xs[3].IsReduced

theorem shows_condswap_zero {s : Ladder} {xs : Registers} (shown : Shows s xs) :
    Shows s (condswap 0 xs) := by
  obtain ⟨x2, z2, x3, z3, z2Reduced, z3Reduced⟩ := shown
  constructor <;> simp only [condswap, swapWords_zero] <;> assumption

theorem shows_condswap_ones {s : Ladder} {xs : Registers} (shown : Shows s xs) :
    Shows s.swap (condswap 0xFFFFFFFF xs) := by
  obtain ⟨x2, z2, x3, z3, z2Reduced, z3Reduced⟩ := shown
  constructor <;> simp only [condswap, swapWords_ones] <;> assumption

/-! ## The steps of the ladder -/

theorem plus_comm (a b : Nat) : plus a b = plus b a := by
  rw [plus, plus, Nat.add_comm]

theorem times_comm (a b : Nat) : times a b = times b a := by
  rw [times, times, Nat.mul_comm]

theorem minus_minus {a b : Nat} (aSmall : a < prime) (bSmall : b < prime) :
    minus a (minus a b) = b := by
  unfold minus
  obtain below | above : a + (prime - b) < prime ∨ prime ≤ a + (prime - b) := by omega
  · rw [Nat.mod_eq_of_lt below, show a + (prime - (a + (prime - b))) = b by omega,
      Nat.mod_eq_of_lt bSmall]
  · rw [Nat.mod_eq_sub_mod above,
      Nat.mod_eq_of_lt (show a + (prime - b) - prime < prime by omega),
      show a + (prime - (a + (prime - b) - prime)) = b + prime by omega, Nat.add_mod_right,
      Nat.mod_eq_of_lt bSmall]

theorem times_lt (a b : Nat) : times a b < prime :=
  Nat.mod_lt _ (by decide)

theorem add_residue (a b : Fe) : (add a b).residue = plus a.residue b.residue :=
  (add_spec a b).2

theorem sub_residue (a : Fe) {b : Fe} (reduced : b.IsReduced) :
    (sub a b).residue = minus a.residue b.residue :=
  (sub_spec a reduced).2

theorem mul1_residue (out a : Fe) : (mul1 out a).residue = times out.residue a.residue := by
  have product := (mul_spec a (Nat.le_of_eq out.length)).2
  rw [times_comm, times]
  change _ = a.residue * out.value % prime at product
  rw [mul1, product, Fe.residue, Fe.residue, Nat.mod_mul_mod, ← Nat.mul_mod]

theorem mul1_isReduced (out a : Fe) : (mul1 out a).IsReduced :=
  (mul_spec a (Nat.le_of_eq out.length)).1

theorem mul_a24_residue (a : Fe) :
    (mul a [121665] (Nat.le_add_left 1 7)).residue = times 121665 a.residue := by
  have product := (mul_spec a (show [121665].length ≤ 8 by decide)).2
  have factor : value [121665] = 121665 := rfl
  rw [factor] at product
  rw [times_comm]
  exact product

/-- Both parts of a step are the step on numbers. -/
theorem shows_step {s : Ladder} {xs : Registers} (x1 : Fe) (shown : Shows s xs) :
    Shows (s.step x1.residue) (ladderPart2 (ladderPart1 xs) x1) := by
  obtain ⟨x2, z2, x3, z3, z2Reduced, z3Reduced⟩ := shown
  let t1 := add xs[0] xs[1]
  let b := sub xs[0] xs[1]
  let da := mul1 (sub xs[2] xs[3]) t1
  let cb := mul1 (add xs[2] xs[3]) b
  let aa := mul1 t1 t1
  let bb := mul1 b b
  let e := sub aa bb
  let z2' := add (mul e [121665] (Nat.le_add_left 1 7)) aa
  have cbReduced : cb.IsReduced := mul1_isReduced _ _
  have bbReduced : bb.IsReduced := mul1_isReduced _ _
  have eReduced : e.IsReduced := (sub_spec aa bbReduced).1
  have t1Value : t1.residue = plus s.x2 s.z2 := by rw [add_residue, x2, z2]
  have bValue : b.residue = minus s.x2 s.z2 := by rw [sub_residue _ z2Reduced, x2, z2]
  have daValue : da.residue = times (minus s.x3 s.z3) (plus s.x2 s.z2) := by
    rw [mul1_residue, sub_residue _ z3Reduced, x3, z3, t1Value]
  have cbValue : cb.residue = times (plus s.x3 s.z3) (minus s.x2 s.z2) := by
    rw [mul1_residue, add_residue, x3, z3, bValue]
  have aaValue : aa.residue = times (plus s.x2 s.z2) (plus s.x2 s.z2) := by
    rw [mul1_residue, t1Value]
  have bbValue : bb.residue = times (minus s.x2 s.z2) (minus s.x2 s.z2) := by
    rw [mul1_residue, bValue]
  have eValue : e.residue = minus aa.residue bb.residue := sub_residue aa bbReduced
  have aaSmall : aa.residue < prime := Nat.mod_lt _ (by decide)
  have bbSmall : bb.residue < prime := Nat.mod_lt _ (by decide)
  constructor
  · change (mul1 (sub aa e) aa).residue = times _ _
    rw [mul1_residue, sub_residue _ eReduced, eValue, minus_minus aaSmall bbSmall, times_comm,
      aaValue, bbValue]
  · change (mul1 z2' e).residue = times _ _
    rw [mul1_residue, add_residue, mul_a24_residue, eValue, times_comm, plus_comm, aaValue,
      bbValue]
  · change (mul1 (add da cb) (add da cb)).residue = times _ _
    rw [mul1_residue, add_residue, daValue, cbValue]
  · change (mul1 (mul1 (sub da cb) (sub da cb)) x1).residue = times _ _
    rw [mul1_residue, mul1_residue, sub_residue _ cbReduced, daValue, cbValue, times_comm]
  · exact mul1_isReduced z2' e
  · exact mul1_isReduced _ x1

/-! ## The bits of the private key -/

theorem testBit_littleEndian (bytes : Bytes) (i : Nat) :
    (littleEndian bytes).testBit i = (byteAt bytes (i / 8)).toNat.testBit (i % 8) := by
  induction bytes generalizing i with
  | nil =>
      rw [littleEndian_nil, Nat.zero_testBit]
      exact (Nat.zero_testBit _).symm
  | cons byte bytes ih =>
      have shape : littleEndian (byte :: bytes) = 2 ^ 8 * littleEndian bytes + byte.toNat := by
        rw [littleEndian_cons, Nat.add_comm]
        rfl
      rw [shape, Nat.testBit_two_pow_mul_add _ byte.toNat_lt]
      by_cases low : i < 8
      · rw [if_pos low, Nat.div_eq_of_lt low, Nat.mod_eq_of_lt low]
        rfl
      · obtain ⟨more, rfl⟩ : ∃ more, i = more + 8 := ⟨i - 8, by omega⟩
        rw [if_neg low, Nat.add_sub_cancel, ih, Nat.add_div_right _ (by decide), Nat.add_mod_right]
        rfl

theorem scalarBit_eq (scalar : Bytes) (clamp : Bool) {i : Nat} (inside : i < 256) :
    scalarBit scalar clamp i =
      if (privateNumber scalar clamp).testBit i then 1 else 0 := by
  have listed : byteAt ((List.range 32).map (clampedByte scalar clamp)) (i / 8) =
      clampedByte scalar clamp (i / 8) := by
    rw [byteAt, List.getD_eq_getElem?_getD, List.getElem?_map,
      List.getElem?_range (show i / 8 < 32 by omega)]
    rfl
  rw [privateNumber, testBit_littleEndian, listed, scalarBit]
  generalize clampedByte scalar clamp (i / 8) = byte
  have shift : (UInt8.ofNat (i % 8)).toNat = i % 8 := by
    rw [UInt8.toNat_ofNat']
    omega
  rw [← UInt8.toNat_inj, UInt8.toNat_and, UInt8.toNat_shiftRight, shift, Nat.mod_mod,
    Nat.testBit_eq_decide_div_mod_eq, Nat.shiftRight_eq_div_pow]
  change _ &&& 1 = _
  rw [Nat.and_one_is_mod]
  have two := Nat.mod_lt (byte.toNat / 2 ^ (i % 8)) (show 2 > 0 by decide)
  by_cases one : byte.toNat / 2 ^ (i % 8) % 2 = 1
  · simp [one]
  · have zero : byte.toNat / 2 ^ (i % 8) % 2 = 0 := by omega
    simp [zero]

/-! ## The loop -/

@[simp]
theorem Ladder.swap_swap (s : Ladder) : s.swap.swap = s :=
  rfl

/-- The registers and the swap that is still to be undone. -/
def Holds (s : Ladder) (state : Registers × UInt32) : Prop :=
  (state.2 = 0 ∧ Shows s state.1) ∨ (state.2 = 0xFFFFFFFF ∧ Shows s.swap state.1)

/-- The swap is undone, or done for the next bit. -/
theorem Holds.condswap {s : Ladder} {state : Registers × UInt32} (holds : Holds s state) :
    Shows s (condswap state.2 state.1) ∧
      Shows s.swap (X25519.condswap (state.2 ^^^ 0xFFFFFFFF) state.1) := by
  obtain ⟨plain, shown⟩ | ⟨swapped, shown⟩ := holds
  · rw [plain]
    exact ⟨shows_condswap_zero shown, shows_condswap_ones shown⟩
  · rw [swapped]
    exact ⟨shows_condswap_ones shown, shows_condswap_zero shown⟩

theorem holds_coreStep {scalar : Bytes} {clamp : Bool} {s : Ladder} {state : Registers × UInt32}
    (x1 : Fe) {i : Nat} (inside : i < 256) (holds : Holds s state) :
    Holds (s.turn x1.residue ((privateNumber scalar clamp).testBit i))
      (coreStep scalar clamp x1 state i) := by
  obtain ⟨same, swapped⟩ := holds.condswap
  unfold coreStep
  rw [scalarBit_eq scalar clamp inside]
  by_cases bit : (privateNumber scalar clamp).testBit i = true
  · rw [bit]
    exact Or.inr ⟨rfl, shows_step x1 swapped⟩
  · rw [Bool.not_eq_true] at bit
    rw [bit]
    refine Or.inl ⟨rfl, shows_step x1 ?_⟩
    rw [show state.2 ^^^ (0 - (if false = true then (1 : UInt8) else 0).toUInt32) = state.2 from
      UInt32.xor_zero]
    exact same

theorem holds_core (scalar : Bytes) (clamp : Bool) {s : Ladder} {state : Registers × UInt32}
    (x1 : Fe) (positions : List Nat) (inside : ∀ i ∈ positions, i < 256) (holds : Holds s state) :
    Holds ((positions.map (privateNumber scalar clamp).testBit).foldl (Ladder.turn x1.residue) s)
      (positions.foldl (coreStep scalar clamp x1) state) := by
  induction positions generalizing s state with
  | nil => exact holds
  | cons i positions ih =>
      rw [List.forall_mem_cons] at inside
      exact ih inside.2 (holds_coreStep x1 inside.1 holds)

theorem value_swapin {x1 : Bytes} (length : x1.length = 32) :
    (swapin x1).value = littleEndian x1 := by
  have bounded := littleEndian_lt_two_pow x1
  have words : (swapin x1).words =
      [u8To32Little (x1.drop 0), u8To32Little (x1.drop 4), u8To32Little (x1.drop 8),
        u8To32Little (x1.drop 12), u8To32Little (x1.drop 16), u8To32Little (x1.drop 20),
        u8To32Little (x1.drop 24), u8To32Little (x1.drop 28)] := rfl
  have word (offset : Nat) (inside : offset ≤ 28) :
      littleEndian x1 / 256 ^ offset =
        (u8To32Little (x1.drop offset)).toNat + radix * (littleEndian x1 / 256 ^ (offset + 4)) := by
    rw [toNat_u8To32Little_drop x1 (by omega), Nat.pow_add, ← Nat.div_div_eq_div_mul]
    exact (Nat.mod_add_div _ _).symm
  have last : littleEndian x1 / 256 ^ 32 = 0 := by
    rw [length] at bounded
    exact Nat.div_eq_of_lt bounded
  have first : littleEndian x1 = littleEndian x1 / 256 ^ 0 := (Nat.div_one _).symm
  rw [Fe.value, words, first, word 0 (by decide), word 4 (by decide), word 8 (by decide),
    word 12 (by decide), word 16 (by decide), word 20 (by decide), word 24 (by decide),
    word 28 (by decide), last]
  rfl

/-- The registers behind the loop. -/
theorem shows_core (scalar : Bytes) (clamp : Bool) {x1 : Bytes} (length : x1.length = 32) :
    Shows (ladder (littleEndian x1 % prime)
        ((List.range 256).reverse.map (privateNumber scalar clamp).testBit))
      (x25519Core scalar x1 clamp) := by
  have point : (swapin x1).residue = littleEndian x1 % prime := by
    rw [Fe.residue, value_swapin length]
  have one : (small 1).residue = 1 := by decide
  have zero : (small 0).residue = 0 := by decide
  have begun : Holds ⟨1, 0, littleEndian x1 % prime, 1⟩
      (#v[small 1, small 0, swapin x1, small 1, small 0], 0) := by
    refine Or.inl ⟨rfl, ?_⟩
    constructor
    · exact one
    · exact zero
    · exact point
    · exact one
    · show (small 0).value < _
      decide
    · show (small 1).value < _
      decide
  have run := holds_core scalar clamp (swapin x1) (List.range 256).reverse
    (fun i member => List.mem_range.mp (List.mem_reverse.mp member)) begun
  rw [point] at run
  exact run.condswap.1

/-! ## The inversion -/

/-- The powers that the registers hold, as far as they hold one. -/
abbrev Exponents :=
  Vector (Option Nat) 5

def IsPower (z : Nat) (exponent : Option Nat) (x : Fe) : Prop :=
  ∀ k, exponent = some k → x.residue = z ^ k % prime

def Holding (z : Nat) (exponents : Exponents) (xs : Registers) : Prop :=
  ∀ index : Fin 5, IsPower z exponents[index] xs[index]

def exponentSum (first second : Option Nat) : Option Nat :=
  first.bind fun a => second.map fun b => a + b

def exponentStep (state : Exponents × Fin 5) (step : ChainStep) : Exponents × Fin 5 :=
  let exponents := state.1.set step.a (state.1[state.2].map (· * 2 ^ step.n))
  (exponents.set step.a (exponentSum exponents[step.a] exponents[step.c]), step.a)

theorem isPower_sqr_iterate {z : Nat} {exponent : Option Nat} {x : Fe} (n : Nat)
    (power : IsPower z exponent x) : IsPower z (exponent.map (· * 2 ^ n)) (sqr^[n] x) := by
  induction n with
  | zero => simpa using power
  | succ n ih =>
      intro k raised
      obtain ⟨e, rfl, rfl⟩ := Option.map_eq_some_iff.mp raised
      have before := ih (e * 2 ^ n) rfl
      rw [Function.iterate_succ_apply']
      change (mul1 (sqr^[n] x) (sqr^[n] x)).residue = _
      rw [mul1_residue, times, before, ← Nat.mul_mod, ← Nat.pow_add]
      congr 2
      rw [Nat.pow_succ, ← Nat.mul_assoc, Nat.mul_two]

theorem isPower_mul1 {z : Nat} {first second : Option Nat} {x y : Fe} (powerX : IsPower z first x)
    (powerY : IsPower z second y) : IsPower z (exponentSum first second) (mul1 x y) := by
  intro k sum
  obtain ⟨a, rfl, added⟩ := Option.bind_eq_some_iff.mp sum
  obtain ⟨b, rfl, rfl⟩ := Option.map_eq_some_iff.mp added
  rw [mul1_residue, times, powerX a rfl, powerY b rfl, ← Nat.mul_mod, ← Nat.pow_add]

theorem holding_set {z : Nat} {exponents : Exponents} {xs : Registers} (index : Fin 5)
    {exponent : Option Nat} {x : Fe} (holding : Holding z exponents xs)
    (power : IsPower z exponent x) :
    Holding z (exponents.set index exponent) (xs.set index x) := by
  intro other
  by_cases same : index.val = other.val
  · simpa [Vector.getElem_set, same] using power
  · simpa [Vector.getElem_set, same] using holding other

theorem holding_chainStep {z : Nat} {exponents : Exponents} {xs : Registers} {prev : Fin 5}
    (step : ChainStep) (holding : Holding z exponents xs) :
    Holding z (exponentStep (exponents, prev) step).1 (chainStep (xs, prev) step).1 := by
  have squared := holding_set step.a holding (isPower_sqr_iterate step.n (holding prev))
  exact holding_set step.a squared (isPower_mul1 (squared step.a) (squared step.c))

theorem holding_chain {z : Nat} {exponents : Exponents} {xs : Registers} {prev : Fin 5}
    (chain : List ChainStep) (holding : Holding z exponents xs) :
    Holding z (chain.foldl exponentStep (exponents, prev)).1
      (chain.foldl chainStep (xs, prev)).1 := by
  induction chain generalizing exponents xs prev with
  | nil => exact holding
  | cons step chain ih => exact ih (holding_chainStep step holding)

/-- The chain leaves the register that it does not name. -/
theorem chain_first {xs : Registers} {prev : Fin 5} {chain : List ChainStep}
    (others : ∀ step ∈ chain, step.a ≠ 0) :
    (chain.foldl chainStep (xs, prev)).1[0] = xs[0] := by
  induction chain generalizing xs prev with
  | nil => rfl
  | cons step chain ih =>
      rw [List.forall_mem_cons] at others
      have apart : step.a.val ≠ 0 := fun none => others.1 (Fin.ext none)
      rw [List.foldl_cons]
      change ((chain.foldl chainStep ((chainStep (xs, prev) step).1,
        (chainStep (xs, prev) step).2)).1[0] = _)
      rw [ih others.2, chainStep, Vector.getElem_set_ne _ _ apart, Vector.getElem_set_ne _ _ apart]

/-- The chain of squarings and products ends with the exponent of the inverse. -/
theorem chain_exponent :
    (steps.foldl exponentStep (#v[none, some 1, none, none, none], 1)).1[3] =
      some (prime - 2) :=
  rfl

/-- The register of the denominator holds its first power. -/
theorem holding_start {z : Nat} {xs : Registers} (denominator : xs[1].residue = z) :
    Holding z #v[none, some 1, none, none, none] xs := by
  have power : IsPower z (some 1) xs[1] := by
    intro k first
    cases first
    rw [Nat.pow_one, ← denominator, Fe.residue, Nat.mod_mod]
  have unknown (x : Fe) : IsPower z none x := fun _ absurdPower => by cases absurdPower
  intro index
  fin_cases index
  · exact unknown xs[0]
  · exact power
  · exact unknown xs[2]
  · exact unknown xs[3]
  · exact unknown xs[4]

theorem Holding.residue {z e : Nat} {exponents : Exponents} {xs : Registers}
    (holding : Holding z exponents xs) (last : exponents[3] = some e) :
    xs[3].residue = z ^ e % prime :=
  holding 3 e last

theorem littleEndian_swapout (x : Fe) : littleEndian (swapout x) = x.value := by
  have inWords (words : List UInt32) :
      littleEndian (words.flatMap u32To8Little) = X25519.value words := by
    induction words with
    | nil => rfl
    | cons word words ih =>
        have base : 256 ^ (u32To8Little word).length = radix := by
          change 256 ^ 4 = radix
          decide
        rw [List.flatMap_cons, littleEndian_append, littleEndian_u32To8Little, ih, value_cons, base]
  exact inWords x.words

theorem length_swapout (x : Fe) : (swapout x).length = 32 := by
  rw [swapout, length_flatMap_u32To8Little, x.length]

end X25519

namespace X25519

/-- The quotient of the registers behind the loop. -/
theorem quotient_spec {x1 : Bytes} (scalar : Bytes) (length : x1.length = 32) :
    ∃ quotient : Fe, quotient.IsReduced ∧
      quotient.residue = agreement (privateNumber scalar true) (littleEndian x1) ∧
      x25519 scalar x1 true = (swapout (canon quotient).1, (canon quotient).2) := by
  obtain ⟨x2, z2, -, -, -, -⟩ := shows_core scalar true length
  have kept : (steps.foldl chainStep (x25519Core scalar x1 true, 1)).1[0] =
      (x25519Core scalar x1 true)[0] := chain_first (by decide)
  have power := (holding_chain steps (holding_start z2)).residue chain_exponent
  refine ⟨mul1 (steps.foldl chainStep (x25519Core scalar x1 true, 1)).1[0]
    (steps.foldl chainStep (x25519Core scalar x1 true, 1)).1[3], mul1_isReduced _ _, ?_, rfl⟩
  rw [mul1_residue, kept, x2, power, times, Nat.mul_mod_mod, agreement]

end X25519

theorem length_x25519 {x1 : Bytes} (scalar : Bytes) (length : x1.length = 32) :
    (x25519 scalar x1 true).1.length = 32 := by
  obtain ⟨quotient, -, -, shape⟩ := X25519.quotient_spec scalar length
  rw [shape]
  exact X25519.length_swapout _

theorem littleEndian_x25519 {x1 : Bytes} (scalar : Bytes) (length : x1.length = 32) :
    littleEndian (x25519 scalar x1 true).1 =
      X25519.agreement (X25519.privateNumber scalar true) (littleEndian x1) := by
  obtain ⟨quotient, reduced, result, shape⟩ := X25519.quotient_spec scalar length
  rw [shape, X25519.littleEndian_swapout, (X25519.canon_spec reduced).1, result]

theorem x25519_return_iff {x1 : Bytes} (scalar : Bytes) (length : x1.length = 32) :
    (x25519 scalar x1 true).2 = 0 ↔ littleEndian (x25519 scalar x1 true).1 ≠ 0 := by
  obtain ⟨quotient, reduced, -, shape⟩ := X25519.quotient_spec scalar length
  obtain ⟨least, mask⟩ := X25519.canon_spec reduced
  rw [shape, X25519.littleEndian_swapout, least, mask]
  split
  · next zero => simp [zero]
  · next positive => simp [positive]

/-- The agreement computes the ladder of RFC 7748 on numbers, reduced
completely, and fails exactly for the result zero. -/
theorem x25519_spec {x1 : Bytes} (scalar : Bytes) (length : x1.length = 32) :
    (x25519 scalar x1 true).1.length = 32 ∧
      littleEndian (x25519 scalar x1 true).1 =
        X25519.agreement (X25519.privateNumber scalar true) (littleEndian x1) ∧
      ((x25519 scalar x1 true).2 = 0 ↔ littleEndian (x25519 scalar x1 true).1 ≠ 0) :=
  ⟨length_x25519 scalar length, littleEndian_x25519 scalar length,
    x25519_return_iff scalar length⟩

theorem x25519_spec_nine :
    (x25519 (List.replicate 32 119) (9 :: List.replicate 31 0) true).1.length = 32 ∧
      littleEndian (x25519 (List.replicate 32 119) (9 :: List.replicate 31 0) true).1 =
        X25519.agreement (X25519.privateNumber (List.replicate 32 119) true)
          (littleEndian (9 :: List.replicate 31 0)) := by
  obtain ⟨length, value, -⟩ := x25519_spec (List.replicate 32 119)
    (show (9 :: List.replicate 31 0).length = 32 from rfl)
  exact ⟨length, value⟩

end EchoMic
