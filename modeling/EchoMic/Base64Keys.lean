import EchoMic.ByteOrder
import EchoMic.WireGuardImport

/-!
# Keys in Base64

`wireguard_base64_decode` and `wireguard_base64_encode` of the WireGuard
library.  Decoding gives back what was encoded, never writes behind the end of
a buffer for a key, and accepts as a key exactly the texts that the importer
of the web interface accepts.
-/

namespace EchoMic

open TextPatterns

def base64Lookup : List Char :=
  "ABCDEFGHIJKLMNOPQRSTUVWXYZabcdefghijklmnopqrstuvwxyz0123456789+/".toList

/-! ## Decoding -/

/-- The variables of the loop of `wireguard_base64_decode`.  The bytes written
to `out` are `out[0..len)`. -/
structure Base64Decoder where
  accum : UInt32
  charCount : Nat
  byteCount : Nat
  out : Bytes
  deriving DecidableEq

def Base64Decoder.start : Base64Decoder where
  accum := 0
  charCount := 0
  byteCount := 3
  out := []

/-- `strchr(base64_lookup, c) - base64_lookup`. -/
def base64Bits (c : Char) : Option UInt32 :=
  (base64Lookup.findIdx? (· = c)).map fun index => UInt32.ofNat index &&& 0x3F

/-- The bits of a character and the bytes that are expected after it, or
`none` where the loop is left. -/
def acceptChar (byteCount : Nat) (c : Char) : Option (UInt32 × Nat) :=
  if c = '=' then
    if byteCount = 0 then none else some (0, byteCount - 1)
  else if byteCount ≠ 3 then none
  else (base64Bits c).map fun bits => (bits, byteCount)

/-- The bytes that a block of four characters writes. -/
def blockBytes (accum : UInt32) (byteCount : Nat) : Bytes :=
  [(accum >>> 16).toUInt8] ++
    (if byteCount > 1 then [(accum >>> 8).toUInt8] else []) ++
    (if byteCount > 2 then [accum.toUInt8] else [])

/-- The rest of the loop and `char_count != 0` after it. -/
def decodeChars (outlen : Nat) : Base64Decoder → List Char → Bool × Bytes
  | decoder, [] => (decide (decoder.charCount = 0), decoder.out)
  | decoder, c :: rest =>
      match acceptChar decoder.byteCount c with
      | none => (false, decoder.out)
      | some (bits, byteCount) =>
          let accum := (decoder.accum <<< 6) ||| bits
          if decoder.charCount + 1 = 4 then
            if decoder.out.length + byteCount > outlen then (false, decoder.out)
            else
              decodeChars outlen
                { accum := 0
                  charCount := 0
                  byteCount := byteCount
                  out := decoder.out ++ blockBytes accum byteCount }
                rest
          else
            decodeChars outlen
              { decoder with
                accum := accum
                charCount := decoder.charCount + 1
                byteCount := byteCount }
              rest

/-- The result and the bytes written, of which `*outlen` is the number
afterwards. -/
def wireguardBase64Decode (str : List Char) (outlen : Nat) : Bool × Bytes :=
  decodeChars outlen .start (str.takeWhile (· ≠ '\x00'))

/-! ## Encoding -/

def base64Char (index : UInt32) : Char :=
  base64Lookup.getD index.toNat '='

/-- The four characters of three bytes.  `limit` is `len - padding`. -/
def encodeGroup (limit writeOffset : Nat) (byte1 byte2 byte3 : UInt8) : List Char :=
  let tmp := (byte1.toUInt32 <<< 16) ||| (byte2.toUInt32 <<< 8) ||| byte3.toUInt32
  [base64Char ((tmp >>> 18) &&& 0x3F),
    base64Char ((tmp >>> 12) &&& 0x3F),
    if writeOffset + 2 < limit then base64Char ((tmp >>> 6) &&& 0x3F) else '=',
    if writeOffset + 3 < limit then base64Char (tmp &&& 0x3F) else '=']

def encodeGroups (limit : Nat) : Nat → Bytes → List Char
  | _, [] => []
  | writeOffset, [byte1] => encodeGroup limit writeOffset byte1 0 0
  | writeOffset, [byte1, byte2] => encodeGroup limit writeOffset byte1 byte2 0
  | writeOffset, byte1 :: byte2 :: byte3 :: rest =>
      encodeGroup limit writeOffset byte1 byte2 byte3 ++
        encodeGroups limit (writeOffset + 4) rest

/-- The text that is written in front of the final NUL, or `none` when the
buffer of `outlen` characters is too short. -/
def wireguardBase64Encode (input : Bytes) (outlen : Nat) : Option (List Char) :=
  let len := 4 * ((input.length + 2) / 3)
  let padding := if 3 - input.length % 3 > 2 then 0 else 3 - input.length % 3
  if outlen > len then some (encodeGroups (len - padding) 0 input) else none

/-! ## Characters and their bits -/

def pushBits (accum bits : UInt32) : UInt32 :=
  (accum <<< 6) ||| bits

theorem toNat_pushBits {accum bits : UInt32} (room : accum.toNat < 2 ^ 26)
    (sextet : bits.toNat < 64) : (pushBits accum bits).toNat = accum.toNat * 64 + bits.toNat := by
  rw [pushBits, UInt32.or_comm,
    toNat_or_shiftLeft (by decide) sextet (show accum.toNat * 2 ^ 6 < 2 ^ 32 by omega),
    Nat.add_comm]
  rfl

theorem base64Bits_lookup :
    ∀ index < 64, base64Bits (base64Lookup.getD index '=') = some (UInt32.ofNat index) ∧
      base64Lookup.getD index '=' ≠ '=' := by
  decide

theorem acceptChar_base64Char {bits : UInt32} (sextet : bits.toNat < 64) :
    acceptChar 3 (base64Char bits) = some (bits, 3) := by
  obtain ⟨read, different⟩ := base64Bits_lookup bits.toNat sextet
  rw [acceptChar, base64Char, if_neg different, if_neg (by decide), read, Option.map_some,
    UInt32.ofNat_toNat]

theorem acceptChar_equals (byteCount : Nat) :
    acceptChar (byteCount + 1) '=' = some (0, byteCount) := by
  simp [acceptChar]

theorem base64Bits_isSome_iff (c : Char) :
    (base64Bits c).isSome = true ↔ isBase64Char c = true := by
  have allowed : ∀ char ∈ base64Lookup, isBase64Char char = true :=
    List.all_eq_true.mp (by decide)
  have found : ∀ code < 128, isBase64Char (Char.ofNat code) = true →
      Char.ofNat code ∈ base64Lookup := by decide +kernel
  rw [base64Bits, Option.isSome_map, List.findIdx?_isSome, List.any_eq_true]
  constructor
  · rintro ⟨char, member, same⟩
    rw [← of_decide_eq_true same]
    exact allowed char member
  · intro base64
    have ascii : c.toNat < 128 := by
      simp only [isBase64Char, Char.isDigit, decide_eq_true_eq, Bool.and_eq_true, Char.le_def,
        UInt32.le_iff_toNat_le, ge_iff_le] at base64
      rcases base64 with ⟨-, high⟩ | ⟨-, high⟩ | ⟨-, high⟩ | rfl | rfl
      · exact Nat.lt_of_le_of_lt high (by decide)
      · exact Nat.lt_of_le_of_lt high (by decide)
      · exact Nat.lt_of_le_of_lt high (by decide)
      · decide
      · decide
    have member := found c.toNat ascii
    rw [Char.ofNat_toNat] at member
    exact ⟨c, member base64, decide_eq_true rfl⟩

/-! ## Blocks of four characters -/

/-- What the loop does with four characters. -/
def acceptGroup (byteCount : Nat) (c0 c1 c2 c3 : Char) : Option (UInt32 × Nat) :=
  (acceptChar byteCount c0).bind fun first =>
    (acceptChar first.2 c1).bind fun second =>
      (acceptChar second.2 c2).bind fun third =>
        (acceptChar third.2 c3).map fun fourth =>
          (pushBits (pushBits (pushBits (pushBits 0 first.1) second.1) third.1) fourth.1,
            fourth.2)

/-- The decoder between two blocks. -/
def Base64Decoder.between (byteCount : Nat) (out : Bytes) : Base64Decoder where
  accum := 0
  charCount := 0
  byteCount := byteCount
  out := out

/-- The next block is written, or nothing more is. -/
theorem decodeChars_cases (outlen byteCount : Nat) (out : Bytes) (text : List Char) :
    (∃ c0 c1 c2 c3 rest accum count, text = c0 :: c1 :: c2 :: c3 :: rest ∧
      acceptGroup byteCount c0 c1 c2 c3 = some (accum, count) ∧ out.length + count ≤ outlen ∧
      decodeChars outlen (.between byteCount out) text =
        decodeChars outlen (.between count (out ++ blockBytes accum count)) rest) ∨
    ((decodeChars outlen (.between byteCount out) text).2 = out ∧
      ((decodeChars outlen (.between byteCount out) text).1 = true → text = [])) := by
  unfold Base64Decoder.between
  cases text with
  | nil => exact Or.inr ⟨rfl, fun _ => rfl⟩
  | cons c0 text =>
  cases first : acceptChar byteCount c0 with
  | none => exact Or.inr (by simp [decodeChars, first])
  | some first' =>
  cases text with
  | nil => exact Or.inr (by simp [decodeChars, first])
  | cons c1 text =>
  cases second : acceptChar first'.2 c1 with
  | none => exact Or.inr (by simp [decodeChars, first, second])
  | some second' =>
  cases text with
  | nil => exact Or.inr (by simp [decodeChars, first, second])
  | cons c2 text =>
  cases third : acceptChar second'.2 c2 with
  | none => exact Or.inr (by simp [decodeChars, first, second, third])
  | some third' =>
  cases text with
  | nil => exact Or.inr (by simp [decodeChars, first, second, third])
  | cons c3 rest =>
  cases fourth : acceptChar third'.2 c3 with
  | none => exact Or.inr (by simp [decodeChars, first, second, third, fourth])
  | some fourth' =>
  by_cases room : out.length + fourth'.2 ≤ outlen
  · have group : acceptGroup byteCount c0 c1 c2 c3 =
        some (pushBits (pushBits (pushBits (pushBits 0 first'.1) second'.1) third'.1) fourth'.1,
          fourth'.2) := by
      simp [acceptGroup, first, second, third, fourth]
    refine Or.inl ⟨c0, c1, c2, c3, rest, _, _, rfl, group, room, ?_⟩
    simp [decodeChars, first, second, third, fourth, pushBits, Nat.not_lt.mpr room]
  · exact Or.inr (by simp [decodeChars, first, second, third, fourth, Nat.lt_of_not_le room])

/-- A character of the alphabet in front of the padding, or an equals sign. -/
theorem acceptChar_some {byteCount count : Nat} {c : Char} {bits : UInt32}
    (accepted : acceptChar byteCount c = some (bits, count)) :
    (c = '=' ∧ byteCount = count + 1) ∨
      (isBase64Char c = true ∧ byteCount = 3 ∧ count = 3) := by
  unfold acceptChar at accepted
  split at accepted
  · next equals =>
      split at accepted
      · cases accepted
      · next remaining =>
          cases accepted
          exact Or.inl ⟨equals, by omega⟩
  · split at accepted
    · cases accepted
    · next full =>
        have found : (base64Bits c).isSome = true := by
          cases read : base64Bits c with
          | none => simp [read] at accepted
          | some value => rfl
        obtain ⟨value, -, same⟩ := Option.map_eq_some_iff.mp accepted
        cases same
        exact Or.inr ⟨(base64Bits_isSome_iff c).mp found, not_not.mp full, not_not.mp full⟩

/-- The four steps of an accepted block. -/
theorem acceptGroup_some {byteCount count : Nat} {c0 c1 c2 c3 : Char} {accum : UInt32}
    (accepted : acceptGroup byteCount c0 c1 c2 c3 = some (accum, count)) :
    ∃ first second third fourth : UInt32 × Nat,
      acceptChar byteCount c0 = some first ∧ acceptChar first.2 c1 = some second ∧
        acceptChar second.2 c2 = some third ∧ acceptChar third.2 c3 = some fourth ∧
        fourth.2 = count := by
  obtain ⟨first, one, accepted⟩ := Option.bind_eq_some_iff.mp accepted
  obtain ⟨second, two, accepted⟩ := Option.bind_eq_some_iff.mp accepted
  obtain ⟨third, three, accepted⟩ := Option.bind_eq_some_iff.mp accepted
  obtain ⟨fourth, four, same⟩ := Option.map_eq_some_iff.mp accepted
  exact ⟨first, second, third, fourth, one, two, three, four, congrArg Prod.snd same⟩

/-- No block follows a padded one. -/
theorem acceptGroup_padded {byteCount : Nat} (padded : byteCount < 3) (c0 c1 c2 c3 : Char) :
    acceptGroup byteCount c0 c1 c2 c3 = none := by
  cases accepted : acceptGroup byteCount c0 c1 c2 c3 with
  | none => rfl
  | some result =>
      obtain ⟨first, second, third, fourth, one, two, three, four, -⟩ := acceptGroup_some accepted
      have step1 := acceptChar_some one
      have step2 := acceptChar_some two
      have step3 := acceptChar_some three
      have step4 := acceptChar_some four
      omega

/-- A block is a body of characters of the alphabet and its padding. -/
theorem acceptGroup_body {count : Nat} {c0 c1 c2 c3 : Char} {accum : UInt32}
    (accepted : acceptGroup 3 c0 c1 c2 c3 = some (accum, count)) :
    ∃ body padding, [c0, c1, c2, c3] = body ++ List.replicate padding '=' ∧
      (∀ c ∈ body, isBase64Char c = true) ∧ count + padding = 3 := by
  obtain ⟨first, second, third, fourth, one, two, three, four, last⟩ := acceptGroup_some accepted
  have step1 := acceptChar_some one
  have step2 := acceptChar_some two
  have step3 := acceptChar_some three
  have step4 := acceptChar_some four
  obtain ⟨base0, -, left0⟩ := step1.resolve_left fun other => by omega
  obtain ⟨equals1, left1⟩ | ⟨base1, -, left1⟩ := step2
  · obtain ⟨equals2, left2⟩ := step3.resolve_right fun other => by omega
    obtain ⟨equals3, left3⟩ := step4.resolve_right fun other => by omega
    exact ⟨[c0], 3, by simp [equals1, equals2, equals3], by simp [base0], by omega⟩
  obtain ⟨equals2, left2⟩ | ⟨base2, -, left2⟩ := step3
  · obtain ⟨equals3, left3⟩ := step4.resolve_right fun other => by omega
    exact ⟨[c0, c1], 2, by simp [equals2, equals3], by simp [base0, base1], by omega⟩
  obtain ⟨equals3, left3⟩ | ⟨base3, -, left3⟩ := step4
  · exact ⟨[c0, c1, c2], 1, by simp [equals3], by simp [base0, base1, base2], by omega⟩
  · exact ⟨[c0, c1, c2, c3], 0, by simp, by simp [base0, base1, base2, base3], by omega⟩

theorem length_blockBytes (accum : UInt32) {byteCount : Nat} (atMost : byteCount ≤ 3) :
    (blockBytes accum byteCount).length = max byteCount 1 := by
  unfold blockBytes
  split <;> split <;> simp <;> omega

/-- After a padded block nothing more is accepted, and nothing more written. -/
theorem decodeChars_padded {outlen byteCount : Nat} (padded : byteCount < 3) (out : Bytes)
    (text : List Char) :
    (decodeChars outlen (.between byteCount out) text).2 = out ∧
      ((decodeChars outlen (.between byteCount out) text).1 = true → text = []) := by
  obtain ⟨c0, c1, c2, c3, rest, accum, count, -, accepted, -⟩ | done :=
    decodeChars_cases outlen byteCount out text
  · rw [acceptGroup_padded padded] at accepted
    cases accepted
  · exact done

/-- The form of an accepted text and the number of bytes that it writes. -/
theorem decodeChars_accepted {outlen : Nat} {out : Bytes} {text : List Char}
    (accepted : (decodeChars outlen (.between 3 out) text).1 = true) :
    ∃ body padding, text = body ++ List.replicate padding '=' ∧
      (∀ c ∈ body, isBase64Char c = true) ∧ padding ≤ 3 ∧
      4 * ((decodeChars outlen (.between 3 out) text).2.length + min padding 2) =
        4 * out.length + 3 * text.length := by
  induction length : text.length using Nat.strongRecOn generalizing text out with
  | ind size ih =>
  obtain ⟨c0, c1, c2, c3, rest, accum, count, rfl, group, -, goesOn⟩ | ⟨same, ended⟩ :=
    decodeChars_cases outlen 3 out text
  · obtain ⟨body, padding, shape, inBody, total⟩ := acceptGroup_body group
    have written := length_blockBytes accum (show count ≤ 3 by omega)
    rw [goesOn] at accepted ⊢
    obtain rfl | padded : padding = 0 ∨ count < 3 := by omega
    · obtain rfl : count = 3 := by omega
      have shorter : rest.length < size := by
        simp only [List.length_cons] at length
        omega
      obtain ⟨body', padding', rfl, inBody', atMost, bytes⟩ := ih _ shorter accepted rfl
      refine ⟨[c0, c1, c2, c3] ++ body', padding', by simp, ?_, atMost, ?_⟩
      · intro c member
        obtain here | later := List.mem_append.mp member
        · rw [shape, List.replicate_zero, List.append_nil] at here
          exact inBody c here
        · exact inBody' c later
      · simp only [List.length_append, written] at bytes
        simp only [List.length_cons, List.length_append] at length
        omega
    · obtain ⟨kept, ended⟩ := decodeChars_padded padded (out ++ blockBytes accum count) rest
      obtain rfl := ended accepted
      refine ⟨body, padding, shape, inBody, by omega, ?_⟩
      rw [kept, List.length_append, written, ← length]
      simp only [List.length_cons, List.length_nil]
      omega
  · obtain rfl := ended accepted
    refine ⟨[], 0, rfl, by simp, by omega, ?_⟩
    rw [same]
    simp [← length]

/-! ## Accepted blocks -/

theorem acceptChar_alphabet {c : Char} (base64 : isBase64Char c = true) :
    ∃ bits, acceptChar 3 c = some (bits, 3) := by
  have different : c ≠ '=' := by
    rintro rfl
    revert base64
    decide
  obtain ⟨bits, read⟩ := Option.isSome_iff_exists.mp ((base64Bits_isSome_iff c).mpr base64)
  exact ⟨bits, by simp [acceptChar, different, read]⟩

/-- Three characters of the alphabet and a fourth one that is accepted. -/
theorem acceptGroup_of_alphabet {c0 c1 c2 c3 : Char} (base0 : isBase64Char c0 = true)
    (base1 : isBase64Char c1 = true) (base2 : isBase64Char c2 = true) {last : UInt32 × Nat}
    (accepted : acceptChar 3 c3 = some last) :
    ∃ accum, acceptGroup 3 c0 c1 c2 c3 = some (accum, last.2) := by
  obtain ⟨bits0, read0⟩ := acceptChar_alphabet base0
  obtain ⟨bits1, read1⟩ := acceptChar_alphabet base1
  obtain ⟨bits2, read2⟩ := acceptChar_alphabet base2
  simp [acceptGroup, read0, read1, read2, accepted]

/-- A block that is accepted and finds room is written. -/
theorem decodeChars_group {outlen byteCount count : Nat} {out : Bytes} {c0 c1 c2 c3 : Char}
    {accum : UInt32} (accepted : acceptGroup byteCount c0 c1 c2 c3 = some (accum, count))
    (room : out.length + count ≤ outlen) (rest : List Char) :
    decodeChars outlen (.between byteCount out) (c0 :: c1 :: c2 :: c3 :: rest) =
      decodeChars outlen (.between count (out ++ blockBytes accum count)) rest := by
  obtain ⟨first, one, accepted⟩ := Option.bind_eq_some_iff.mp accepted
  obtain ⟨second, two, accepted⟩ := Option.bind_eq_some_iff.mp accepted
  obtain ⟨third, three, accepted⟩ := Option.bind_eq_some_iff.mp accepted
  obtain ⟨fourth, four, same⟩ := Option.map_eq_some_iff.mp accepted
  cases same
  simp [decodeChars, Base64Decoder.between, one, two, three, four, pushBits, Nat.not_lt.mpr room]

/-- Whole blocks of the alphabet. -/
theorem decodeChars_body {outlen : Nat} (blocks : Nat) (out : Bytes) {body : List Char}
    (length : body.length = 4 * blocks) (inBody : ∀ c ∈ body, isBase64Char c = true)
    (room : out.length + 3 * blocks ≤ outlen) (rest : List Char) :
    ∃ written : Bytes, written.length = 3 * blocks ∧
      decodeChars outlen (.between 3 out) (body ++ rest) =
        decodeChars outlen (.between 3 (out ++ written)) rest := by
  induction blocks generalizing out body with
  | zero =>
      obtain rfl := List.length_eq_zero_iff.mp length
      exact ⟨[], rfl, by rw [List.append_nil, List.nil_append]⟩
  | succ blocks ih =>
      obtain _ | ⟨c0, _ | ⟨c1, _ | ⟨c2, _ | ⟨c3, body⟩⟩⟩⟩ := body
      all_goals simp only [List.length_cons, List.length_nil] at length
      all_goals try omega
      simp only [List.forall_mem_cons] at inBody
      obtain ⟨base0, base1, base2, base3, inBody⟩ := inBody
      obtain ⟨bits, read⟩ := acceptChar_alphabet base3
      obtain ⟨accum, accepted⟩ := acceptGroup_of_alphabet base0 base1 base2 read
      have first := length_blockBytes accum (Nat.le_refl 3)
      obtain ⟨written, count, goesOn⟩ := ih (out ++ blockBytes accum 3) (by omega) inBody
        (by rw [List.length_append, first]; omega)
      refine ⟨blockBytes accum 3 ++ written, ?_, ?_⟩
      · rw [List.length_append, first, count]
        omega
      · rw [← List.append_assoc, ← goesOn]
        exact decodeChars_group accepted (show out.length + 3 ≤ outlen by omega) (body ++ rest)

/-! ## The end of the buffer -/

/-- How far behind the end of the buffer a text is written. -/
theorem decodeChars_written {outlen : Nat} (out : Bytes) (text : List Char)
    (inside : out.length ≤ outlen) (blocks : 3 ∣ out.length) :
    (decodeChars outlen (.between 3 out) text).2.length ≤ outlen ∨ 3 ∣ outlen := by
  induction length : text.length using Nat.strongRecOn generalizing text out with
  | ind size ih =>
  obtain ⟨c0, c1, c2, c3, rest, accum, count, rfl, group, room, goesOn⟩ | ⟨same, -⟩ :=
    decodeChars_cases outlen 3 out text
  · obtain ⟨body, padding, -, -, total⟩ := acceptGroup_body group
    have written := length_blockBytes accum (show count ≤ 3 by omega)
    have after : (out ++ blockBytes accum count).length = out.length + max count 1 := by
      rw [List.length_append, written]
    rw [goesOn]
    obtain rfl | padded : count = 3 ∨ count < 3 := by omega
    · simp only [List.length_cons] at length
      exact ih _ (by omega) _ rest (by omega) (by omega) rfl
    · rw [(decodeChars_padded padded _ rest).1, after]
      omega
  · rw [same]
    exact Or.inl inside

/-- A text that is written behind the end of the buffer exists exactly for
buffers of whole blocks. -/
theorem base64_decode_overruns_iff (outlen : Nat) :
    (∃ text, outlen < (wireguardBase64Decode text outlen).2.length) ↔ 3 ∣ outlen := by
  constructor
  · rintro ⟨text, overrun⟩
    obtain inside | blocks := decodeChars_written []
      (text.takeWhile (· ≠ '\x00')) (Nat.zero_le _) (Nat.dvd_zero 3)
    · exact absurd overrun (Nat.not_lt.mpr inside)
    · exact blocks
  · rintro ⟨blocks, rfl⟩
    let body := List.replicate (4 * blocks) 'A'
    have inBody : ∀ c ∈ body, isBase64Char c = true := by
      intro c member
      rw [List.eq_of_mem_replicate member]
      decide
    obtain ⟨written, count, goesOn⟩ := decodeChars_body blocks []
      List.length_replicate inBody (show 0 + 3 * blocks ≤ 3 * blocks by omega) ['A', '=', '=', '=']
    refine ⟨body ++ ['A', '=', '=', '='], ?_⟩
    have noNul : (body ++ ['A', '=', '=', '=']).takeWhile (· ≠ '\x00') =
        body ++ ['A', '=', '=', '='] := by
      rw [List.takeWhile_eq_self_iff]
      intro c member
      obtain here | here := List.mem_append.mp member
      · rw [List.eq_of_mem_replicate here]
        decide
      · have listed : ['A', '=', '=', '='].all (decide <| · ≠ '\x00') = true := by decide
        exact List.all_eq_true.mp listed c here
    have last : acceptGroup 3 'A' '=' '=' '=' = some (0, 0) := by decide
    rw [wireguardBase64Decode, noNul]
    change 3 * blocks < (decodeChars (3 * blocks) (.between 3 []) _).2.length
    rw [goesOn, decodeChars_group last (by rw [List.nil_append, count]; omega)]
    simp [decodeChars, Base64Decoder.between, count, blockBytes]

/-! ## Keys -/

theorem isBase64Key_iff (text : List Char) :
    isBase64Key text = true ↔
      ∃ body, text = body ++ ['='] ∧ body.length = 43 ∧ ∀ c ∈ body, isBase64Char c = true := by
  rw [isBase64Key, base64KeyPattern, Pattern.matchesText_seq_iff]
  constructor
  · rintro ⟨body, last, rfl, run, equals⟩
    obtain rfl := Pattern.matchesText_literal_iff.mp equals
    obtain ⟨atLeast, atMost, inBody⟩ := Pattern.matchesText_run_iff.mp run
    exact ⟨body, rfl, by omega, inBody⟩
  · rintro ⟨body, rfl, length, inBody⟩
    exact ⟨body, ['='], rfl, Pattern.matchesText_run_iff.mpr ⟨by omega, by omega, inBody⟩,
      Pattern.matchesText_literal_iff.mpr rfl⟩

/-- A text gives the 32 bytes of a key exactly if the importer of the web
interface accepts it. -/
theorem base64_decodes_key_iff (text : List Char) :
    ((wireguardBase64Decode text 32).1 = true ∧
        (wireguardBase64Decode text 32).2.length = 32) ↔
      isBase64Key (text.takeWhile (· ≠ '\x00')) = true := by
  rw [isBase64Key_iff, wireguardBase64Decode]
  generalize text.takeWhile (· ≠ '\x00') = chars
  change (decodeChars 32 (.between 3 []) chars).1 = true ∧
    (decodeChars 32 (.between 3 []) chars).2.length = 32 ↔ _
  constructor
  · rintro ⟨accepted, whole⟩
    obtain ⟨body, padding, rfl, inBody, -, bytes⟩ := decodeChars_accepted accepted
    rw [whole, List.length_append, List.length_replicate, List.length_nil] at bytes
    obtain rfl : padding = 1 := by omega
    exact ⟨body, rfl, by omega, inBody⟩
  · rintro ⟨body, rfl, length, inBody⟩
    have split : body = body.take 40 ++ body.drop 40 := (List.take_append_drop 40 body).symm
    obtain ⟨c0, c1, c2, tail⟩ : ∃ c0 c1 c2, body.drop 40 = [c0, c1, c2] :=
      List.length_eq_three.mp (by rw [List.length_drop]; omega)
    have inTail : ∀ c ∈ [c0, c1, c2], isBase64Char c = true := by
      intro c member
      rw [← tail] at member
      exact inBody c (List.mem_of_mem_drop member)
    obtain ⟨written, count, goesOn⟩ := decodeChars_body 10 []
      (show (body.take 40).length = 40 by rw [List.length_take]; omega)
      (fun c member => inBody c (List.mem_of_mem_take member)) (show 0 + 3 * 10 ≤ 32 by decide)
      [c0, c1, c2, '=']
    obtain ⟨accum, accepted⟩ := acceptGroup_of_alphabet (inTail c0 (by simp))
      (inTail c1 (by simp)) (inTail c2 (by simp)) (acceptChar_equals 2)
    have last := length_blockBytes accum (show 2 ≤ 3 by decide)
    have whole : ([] ++ written ++ blockBytes accum 2).length = 32 := by
      rw [List.length_append, last, List.nil_append, count]
      rfl
    rw [split, tail, List.append_assoc]
    change (decodeChars 32 (.between 3 []) (body.take 40 ++ [c0, c1, c2, '='])).1 = true ∧
      (decodeChars 32 (.between 3 []) (body.take 40 ++ [c0, c1, c2, '='])).2.length = 32
    rw [goesOn, decodeChars_group accepted (by rw [List.nil_append, count]; decide)]
    exact ⟨rfl, whole⟩

/-! ## Round trip -/

theorem toNat_sextet (word shift : UInt32) (inside : shift.toNat < 32) :
    ((word >>> shift) &&& 0x3F).toNat = word.toNat / 2 ^ shift.toNat % 64 := by
  rw [UInt32.toNat_and, UInt32.toNat_shiftRight, Nat.mod_eq_of_lt inside,
    Nat.shiftRight_eq_div_pow]
  exact Nat.and_two_pow_sub_one_eq_mod _ 6

/-- The three bytes of a group as one word. -/
def groupWord (byte1 byte2 byte3 : UInt8) : UInt32 :=
  (byte1.toUInt32 <<< 16) ||| (byte2.toUInt32 <<< 8) ||| byte3.toUInt32

theorem toNat_groupWord (byte1 byte2 byte3 : UInt8) :
    (groupWord byte1 byte2 byte3).toNat = littleEndian [byte3, byte2, byte1] := by
  have one : byte3.toUInt32.toNat = littleEndian [byte3] := by simp
  have two := toNat_or_nextByte one byte2 8 rfl (by decide)
  have three := toNat_or_nextByte two byte1 16 rfl (by decide)
  rw [groupWord, UInt32.or_comm (byte1.toUInt32 <<< 16), UInt32.or_assoc,
    UInt32.or_comm (byte1.toUInt32 <<< 16), ← UInt32.or_assoc,
    UInt32.or_comm (byte2.toUInt32 <<< 8)]
  exact three

theorem groupWord_lt (byte1 byte2 byte3 : UInt8) :
    (groupWord byte1 byte2 byte3).toNat < 2 ^ 24 := by
  rw [toNat_groupWord]
  exact littleEndian_lt_two_pow _

/-- The four sextets of a word put together again. -/
theorem pushBits_sextets {word : UInt32} (bounded : word.toNat < 2 ^ 24) :
    pushBits (pushBits (pushBits (pushBits 0 ((word >>> 18) &&& 0x3F)) ((word >>> 12) &&& 0x3F))
      ((word >>> 6) &&& 0x3F)) (word &&& 0x3F) = word := by
  have first := toNat_sextet word 18 (by decide)
  have second := toNat_sextet word 12 (by decide)
  have third := toNat_sextet word 6 (by decide)
  have fourth : (word &&& 0x3F).toNat = word.toNat % 64 := Nat.and_two_pow_sub_one_eq_mod _ 6
  change _ = word.toNat / 2 ^ 18 % 64 at first
  change _ = word.toNat / 2 ^ 12 % 64 at second
  change _ = word.toNat / 2 ^ 6 % 64 at third
  have push1 := toNat_pushBits (show (0 : UInt32).toNat < 2 ^ 26 by decide)
    (show ((word >>> 18) &&& 0x3F).toNat < 64 by omega)
  have zero : (0 : UInt32).toNat = 0 := rfl
  have push2 := toNat_pushBits
    (show (pushBits 0 ((word >>> 18) &&& 0x3F)).toNat < 2 ^ 26 by omega)
    (show ((word >>> 12) &&& 0x3F).toNat < 64 by omega)
  have push3 := toNat_pushBits
    (show (pushBits (pushBits 0 ((word >>> 18) &&& 0x3F)) ((word >>> 12) &&& 0x3F)).toNat < 2 ^ 26 by
      omega)
    (show ((word >>> 6) &&& 0x3F).toNat < 64 by omega)
  apply UInt32.toNat_inj.mp
  rw [toNat_pushBits (by omega) (by omega), push3, push2, push1]
  omega

theorem sextet_lt (word : UInt32) : (word &&& 0x3F).toNat < 64 := by
  rw [UInt32.toNat_and]
  exact Nat.lt_of_le_of_lt Nat.and_le_right (by decide)

section Groups

variable {word : UInt32} (bounded : word.toNat < 2 ^ 24)

include bounded

theorem acceptGroup_full :
    acceptGroup 3 (base64Char ((word >>> 18) &&& 0x3F)) (base64Char ((word >>> 12) &&& 0x3F))
        (base64Char ((word >>> 6) &&& 0x3F)) (base64Char (word &&& 0x3F)) =
      some (word, 3) := by
  simp only [acceptGroup, acceptChar_base64Char (sextet_lt _), Option.bind_some, Option.map_some,
    pushBits_sextets bounded]

theorem acceptGroup_onePad (low : word &&& 0x3F = 0) :
    acceptGroup 3 (base64Char ((word >>> 18) &&& 0x3F)) (base64Char ((word >>> 12) &&& 0x3F))
        (base64Char ((word >>> 6) &&& 0x3F)) '=' =
      some (word, 2) := by
  have whole := pushBits_sextets bounded
  rw [low] at whole
  simp only [acceptGroup, acceptChar_base64Char (sextet_lt _), acceptChar_equals 2,
    Option.bind_some, Option.map_some, whole]

theorem acceptGroup_twoPads (middle : (word >>> 6) &&& 0x3F = 0) (low : word &&& 0x3F = 0) :
    acceptGroup 3 (base64Char ((word >>> 18) &&& 0x3F)) (base64Char ((word >>> 12) &&& 0x3F))
        '=' '=' =
      some (word, 1) := by
  have whole := pushBits_sextets bounded
  rw [low, middle] at whole
  simp only [acceptGroup, acceptChar_base64Char (sextet_lt _), acceptChar_equals 2,
    acceptChar_equals 1, Option.bind_some, Option.map_some, whole]

end Groups

theorem blockBytes_groupWord (byte1 byte2 byte3 : UInt8) (byteCount : Nat) :
    blockBytes (groupWord byte1 byte2 byte3) byteCount =
      [byte1] ++ (if byteCount > 1 then [byte2] else []) ++
        (if byteCount > 2 then [byte3] else []) := by
  have value := toNat_groupWord byte1 byte2 byte3
  have bound1 := byte1.toNat_lt
  have bound2 := byte2.toNat_lt
  have bound3 := byte3.toNat_lt
  simp only [littleEndian_cons, littleEndian_nil] at value
  have first : (groupWord byte1 byte2 byte3 >>> 16).toUInt8 = byte1 := by
    apply UInt8.toNat_inj.mp
    rw [UInt32.toNat_toUInt8, UInt32.toNat_shiftRight, Nat.shiftRight_eq_div_pow]
    change (groupWord byte1 byte2 byte3).toNat / 2 ^ 16 % 2 ^ 8 = byte1.toNat
    omega
  have second : (groupWord byte1 byte2 byte3 >>> 8).toUInt8 = byte2 := by
    apply UInt8.toNat_inj.mp
    rw [UInt32.toNat_toUInt8, UInt32.toNat_shiftRight, Nat.shiftRight_eq_div_pow]
    change (groupWord byte1 byte2 byte3).toNat / 2 ^ 8 % 2 ^ 8 = byte2.toNat
    omega
  have third : (groupWord byte1 byte2 byte3).toUInt8 = byte3 := by
    apply UInt8.toNat_inj.mp
    rw [UInt32.toNat_toUInt8]
    omega
  rw [blockBytes, first, second, third]

theorem groupWord_low (byte1 byte2 : UInt8) : groupWord byte1 byte2 0 &&& 0x3F = 0 := by
  apply UInt32.toNat_inj.mp
  have value := toNat_groupWord byte1 byte2 0
  simp only [littleEndian_cons, littleEndian_nil, UInt8.toNat_zero] at value
  rw [UInt32.toNat_and]
  change (groupWord byte1 byte2 0).toNat &&& 2 ^ 6 - 1 = 0
  rw [Nat.and_two_pow_sub_one_eq_mod]
  omega

theorem groupWord_middle (byte1 : UInt8) : (groupWord byte1 0 0 >>> 6) &&& 0x3F = 0 := by
  apply UInt32.toNat_inj.mp
  have value := toNat_groupWord byte1 0 0
  simp only [littleEndian_cons, littleEndian_nil, UInt8.toNat_zero] at value
  rw [toNat_sextet _ _ (by decide)]
  change (groupWord byte1 0 0).toNat / 2 ^ 6 % 64 = 0
  omega

/-- The groups of an encoding are decoded one after the other. -/
theorem decodeChars_encodeGroups {capacity limit padding : Nat} (writeOffset : Nat)
    (input out : Bytes) (fits : out.length + input.length ≤ capacity)
    (padded : padding = if 3 - input.length % 3 > 2 then 0 else 3 - input.length % 3)
    (ends : limit + padding = writeOffset + 4 * ((input.length + 2) / 3)) :
    decodeChars capacity (.between 3 out) (encodeGroups limit writeOffset input) =
      (true, out ++ input) := by
  induction writeOffset, input using encodeGroups.induct generalizing out with
  | case1 writeOffset => simp [encodeGroups, decodeChars, Base64Decoder.between]
  | case2 writeOffset byte1 =>
      simp only [List.length_cons, List.length_nil] at fits padded ends
      have noThird : ¬ writeOffset + 2 < limit := by simp at padded; omega
      have noFourth : ¬ writeOffset + 3 < limit := by omega
      have accepted := acceptGroup_twoPads (groupWord_lt byte1 0 0) (groupWord_middle byte1)
        (groupWord_low byte1 0)
      simp only [encodeGroups, encodeGroup, if_neg noThird, if_neg noFourth]
      rw [← groupWord, decodeChars_group accepted (by omega), blockBytes_groupWord]
      simp [decodeChars, Base64Decoder.between]
  | case3 writeOffset byte1 byte2 =>
      simp only [List.length_cons, List.length_nil] at fits padded ends
      have hasThird : writeOffset + 2 < limit := by simp at padded; omega
      have noFourth : ¬ writeOffset + 3 < limit := by simp at padded; omega
      have accepted := acceptGroup_onePad (groupWord_lt byte1 byte2 0) (groupWord_low byte1 byte2)
      simp only [encodeGroups, encodeGroup, if_pos hasThird, if_neg noFourth]
      rw [← groupWord, decodeChars_group accepted (by omega), blockBytes_groupWord]
      simp [decodeChars, Base64Decoder.between]
  | case4 writeOffset byte1 byte2 byte3 rest ih =>
      simp only [List.length_cons] at fits padded ends
      have blocks : (rest.length + 1 + 1 + 1 + 2) / 3 = (rest.length + 2) / 3 + 1 := by omega
      have same : (rest.length + 1 + 1 + 1) % 3 = rest.length % 3 := by omega
      rw [blocks] at ends
      rw [same] at padded
      have room : padding ≤ 2 ∧ (padding = 0 ∨ rest ≠ []) := by
        constructor
        · split at padded <;> omega
        · cases rest with
          | nil => exact Or.inl padded
          | cons byte rest => exact Or.inr (List.cons_ne_nil _ _)
      have hasFourth : writeOffset + 3 < limit := by
        obtain none | more := room.2
        · omega
        · have positive := List.length_pos_iff.mpr more
          omega
      have hasThird : writeOffset + 2 < limit := by omega
      have accepted := acceptGroup_full (groupWord_lt byte1 byte2 byte3)
      have written : blockBytes (groupWord byte1 byte2 byte3) 3 = [byte1, byte2, byte3] := by
        rw [blockBytes_groupWord]
        rfl
      simp only [encodeGroups, encodeGroup, if_pos hasThird, if_pos hasFourth, List.cons_append,
        List.nil_append]
      rw [← groupWord, decodeChars_group accepted (by omega), written,
        ih _ (by simp only [List.length_append, List.length_cons, List.length_nil]; omega) padded
          (by omega)]
      simp

theorem base64Char_ne_nul (index : UInt32) : base64Char index ≠ '\x00' := by
  have listed : ('=' :: base64Lookup).all (· ≠ '\x00') = true := by decide
  apply of_decide_eq_true
  apply List.all_eq_true.mp listed
  rw [base64Char, List.getD_eq_getElem?_getD]
  cases found : base64Lookup[index.toNat]? with
  | none => exact List.mem_cons_self
  | some char => exact List.mem_cons_of_mem _ (List.mem_of_getElem? found)

theorem encodeGroup_ne_nul (limit writeOffset : Nat) (byte1 byte2 byte3 : UInt8) :
    ∀ char ∈ encodeGroup limit writeOffset byte1 byte2 byte3, char ≠ '\x00' := by
  intro char member
  simp only [encodeGroup, List.mem_cons, List.not_mem_nil, or_false] at member
  obtain rfl | rfl | rfl | rfl := member
  · exact base64Char_ne_nul _
  · exact base64Char_ne_nul _
  · split
    · exact base64Char_ne_nul _
    · decide
  · split
    · exact base64Char_ne_nul _
    · decide

theorem encodeGroups_ne_nul (limit writeOffset : Nat) (input : Bytes) :
    ∀ char ∈ encodeGroups limit writeOffset input, char ≠ '\x00' := by
  induction writeOffset, input using encodeGroups.induct with
  | case1 writeOffset => exact fun char member => absurd member List.not_mem_nil
  | case2 writeOffset byte1 => exact encodeGroup_ne_nul _ _ _ _ _
  | case3 writeOffset byte1 byte2 => exact encodeGroup_ne_nul _ _ _ _ _
  | case4 writeOffset byte1 byte2 byte3 rest ih =>
      intro char member
      obtain here | later := List.mem_append.mp member
      · exact encodeGroup_ne_nul _ _ _ _ _ char here
      · exact ih char later

/-- Every sequence of bytes is decoded from its encoding. -/
theorem base64_decode_encode (input : Bytes) {outlen capacity : Nat}
    (room : 4 * ((input.length + 2) / 3) < outlen) (fits : input.length ≤ capacity) :
    ∃ text, wireguardBase64Encode input outlen = some text ∧
      wireguardBase64Decode text capacity = (true, input) := by
  refine ⟨_, if_pos room, ?_⟩
  rw [wireguardBase64Decode, List.takeWhile_eq_self_iff.mpr]
  · exact decodeChars_encodeGroups 0 input [] (by simpa using fits) rfl (by
      have small : (if 3 - input.length % 3 > 2 then 0 else 3 - input.length % 3) ≤
          4 * ((input.length + 2) / 3) := by
        split <;> omega
      omega)
  · intro char member
    exact decide_eq_true (encodeGroups_ne_nul _ _ _ char member)

theorem base64_decode_encode_four :
    ∃ text, wireguardBase64Encode [77, 0, 255, 128] 9 = some text ∧
      wireguardBase64Decode text 4 = (true, [77, 0, 255, 128]) :=
  base64_decode_encode [77, 0, 255, 128] (by decide) (by decide)

end EchoMic
