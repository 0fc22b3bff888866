import EchoMic.ChaCha20
import EchoMic.Poly1305

/-!
# Authenticated encryption

The encryption of the packets and of the handshake fields.  A text is accepted
exactly when it is an encryption, and the authenticated text determines the
associated data and the ciphertext.
-/

namespace EchoMic

open Keystreams

namespace ChaCha20Poly1305

def zero : Bytes :=
  List.replicate 64 0

/-- `padded_len - len`, in 32 bits. -/
def padding (len : Nat) : Nat :=
  let paddedLen : UInt32 := (UInt32.ofNat len + 15) &&& 0xFFFFFFF0
  (paddedLen - UInt32.ofNat len).toNat

end ChaCha20Poly1305

/-- The authenticator under the first half of block 0, and the state behind
that block. -/
def generatePoly1305Key (key : Bytes) (nonce : UInt64) : Poly1305State × ChaChaState :=
  let block := chacha20 (chacha20Init key nonce) (List.replicate 32 0)
  (poly1305Init block.1, block.2)

namespace ChaCha20Poly1305

/-- The updates of encryption and of decryption, and the tag. -/
def tagOfText (poly1305State : Poly1305State) (ad ciphertext : Bytes) : Bytes :=
  let st := poly1305Update poly1305State ad
  let st := poly1305Update st (zero.take (padding ad.length))
  let st := poly1305Update st ciphertext
  let st := poly1305Update st (zero.take (padding ciphertext.length))
  let st := poly1305Update st (u64To8Little (UInt64.ofNat ad.length))
  let st := poly1305Update st (u64To8Little (UInt64.ofNat ciphertext.length))
  poly1305Finish st

end ChaCha20Poly1305

open ChaCha20Poly1305

def chacha20poly1305Encrypt (src ad : Bytes) (nonce : UInt64) (key : Bytes) : Bytes :=
  let (poly1305State, chacha20State) := generatePoly1305Key key nonce
  let dst := (chacha20 chacha20State src).1
  dst ++ tagOfText poly1305State ad dst

def chacha20poly1305Decrypt (src ad : Bytes) (nonce : UInt64) (key : Bytes) : Option Bytes :=
  if 16 ≤ src.length then
    let dstLen := src.length - 16
    let (poly1305State, chacha20State) := generatePoly1305Key key nonce
    let mac := tagOfText poly1305State ad (src.take dstLen)
    if cryptoEqual mac (src.drop dstLen) 16 then
      some (chacha20 chacha20State (src.take dstLen)).1
    else none
  else none

def xchacha20poly1305Encrypt (src ad nonce key : Bytes) : Bytes :=
  chacha20poly1305Encrypt src ad (u8To64Little (nonce.drop 16)) (hchacha20 nonce key)

def xchacha20poly1305Decrypt (src ad nonce key : Bytes) : Option Bytes :=
  chacha20poly1305Decrypt src ad (u8To64Little (nonce.drop 16)) (hchacha20 nonce key)

namespace ChaCha20Poly1305

@[simp]
theorem length_tagOfText (poly1305State : Poly1305State) (ad ciphertext : Bytes) :
    (tagOfText poly1305State ad ciphertext).length = 16 :=
  (Poly1305.littleEndian_addPad _ _).1

@[simp]
theorem length_encrypt (src ad : Bytes) (nonce : UInt64) (key : Bytes) :
    (chacha20poly1305Encrypt src ad nonce key).length = src.length + 16 := by
  simp [chacha20poly1305Encrypt]

/-- What has been encrypted is decrypted. -/
theorem decrypt_encrypt (src ad : Bytes) (nonce : UInt64) (key : Bytes) :
    chacha20poly1305Decrypt (chacha20poly1305Encrypt src ad nonce key) ad nonce key =
      some src := by
  have size := length_encrypt src ad nonce key
  have cut : (chacha20poly1305Encrypt src ad nonce key).length - 16 =
      (chacha20 (generatePoly1305Key key nonce).2 src).1.length := by
    rw [size, length_chacha20, Nat.add_sub_cancel]
  rw [chacha20poly1305Decrypt, if_pos (by omega), cut]
  simp only [chacha20poly1305Encrypt, List.take_left, List.drop_left, cryptoEqual_self, if_true,
    chacha20_chacha20]

/-- What is decrypted is an encryption. -/
theorem eq_encrypt_of_decrypt {src ad plain : Bytes} {nonce : UInt64} {key : Bytes}
    (accepted : chacha20poly1305Decrypt src ad nonce key = some plain) :
    src = chacha20poly1305Encrypt plain ad nonce key := by
  unfold chacha20poly1305Decrypt at accepted
  by_cases long : 16 ≤ src.length
  · simp only [if_pos long] at accepted
    split at accepted
    · rename_i equal
      have mac := eq_of_cryptoEqual (length_tagOfText _ _ _)
        (show (src.drop (src.length - 16)).length = 16 by rw [List.length_drop]; omega) equal
      obtain rfl := Option.some.inj accepted
      simp only [chacha20poly1305Encrypt, chacha20_chacha20, mac, List.take_append_drop]
    · cases accepted
  · rw [if_neg long] at accepted
    cases accepted

/-! ## The authenticated text -/

theorem and_sixteens (word : UInt32) :
    (word &&& 0xFFFFFFF0).toNat = word.toNat / 16 * 16 := by
  have bounded := word.toNat_lt
  have quotient : (word.toNat &&& 0xFFFFFFF0) / 2 ^ 4 = word.toNat / 2 ^ 4 &&& 0xFFFFFFF :=
    Nat.and_div_two_pow
  have remainder : (word.toNat &&& 0xFFFFFFF0) % 2 ^ 4 = word.toNat % 2 ^ 4 &&& 0 :=
    Nat.and_mod_two_pow
  have above : word.toNat / 2 ^ 4 &&& 0xFFFFFFF = word.toNat / 2 ^ 4 % 2 ^ 28 :=
    Nat.and_two_pow_sub_one_eq_mod _ 28
  rw [above] at quotient
  rw [Nat.and_zero] at remainder
  rw [UInt32.toNat_and]
  change word.toNat &&& 0xFFFFFFF0 = _
  omega

/-- The bytes up to the next multiple of 16, also where 32 bits overflow. -/
theorem padding_eq (len : Nat) : padding len = 15 - (len + 15) % 16 := by
  have value : (UInt32.ofNat len).toNat = len % 2 ^ 32 := UInt32.toNat_ofNat'
  unfold padding
  rw [UInt32.toNat_sub, and_sixteens, UInt32.toNat_add, value]
  change (2 ^ 32 - len % 2 ^ 32 + (len % 2 ^ 32 + 15) % 2 ^ 32 / 16 * 16) % 2 ^ 32 = _
  omega

/-- The text of which a packet has the tag. -/
def aeadText (ad ciphertext : Bytes) : Bytes :=
  ad ++ List.replicate (15 - (ad.length + 15) % 16) 0 ++ ciphertext ++
    List.replicate (15 - (ciphertext.length + 15) % 16) 0 ++
    u64To8Little (UInt64.ofNat ad.length) ++ u64To8Little (UInt64.ofNat ciphertext.length)

theorem zero_take_padding (len : Nat) :
    zero.take (padding len) = List.replicate (15 - (len + 15) % 16) 0 := by
  rw [padding_eq, zero, List.take_replicate, Nat.min_eq_left (by omega)]

theorem littleEndian_tagOfText {key : Bytes} (length : key.length = 32) (ad ciphertext : Bytes) :
    littleEndian (tagOfText (poly1305Init key) ad ciphertext) =
      Poly1305.authenticate (Poly1305.multiplier key) (Poly1305.summand key)
        (aeadText ad ciphertext) := by
  have receives := Poly1305.receives_pieces (Poly1305.receives_init key)
    [ad, zero.take (padding ad.length), ciphertext, zero.take (padding ciphertext.length),
      u64To8Little (UInt64.ofNat ad.length), u64To8Little (UInt64.ofNat ciphertext.length)]
  have text : [] ++ [ad, zero.take (padding ad.length), ciphertext,
      zero.take (padding ciphertext.length), u64To8Little (UInt64.ofNat ad.length),
      u64To8Little (UInt64.ofNat ciphertext.length)].flatten = aeadText ad ciphertext := by
    simp only [aeadText, zero_take_padding, List.flatten_cons, List.flatten_nil, List.nil_append,
      List.append_nil, List.append_assoc]
  rw [text] at receives
  exact (Poly1305.tag_of_receives length receives).2

theorem ofNat_inj_of_lt {first second : Nat} (firstFits : first < 2 ^ 64)
    (secondFits : second < 2 ^ 64)
    (same : u64To8Little (UInt64.ofNat first) = u64To8Little (UInt64.ofNat second)) :
    first = second := by
  have words := congrArg littleEndian same
  rw [littleEndian_u64To8Little, littleEndian_u64To8Little] at words
  change first % 2 ^ 64 = second % 2 ^ 64 at words
  omega

/-- The authenticated text determines its parts. -/
theorem aeadText_inj {ad ciphertext otherAd otherCiphertext : Bytes}
    (adFits : ad.length < 2 ^ 64) (otherAdFits : otherAd.length < 2 ^ 64)
    (fits : ciphertext.length < 2 ^ 64) (otherFits : otherCiphertext.length < 2 ^ 64)
    (same : aeadText ad ciphertext = aeadText otherAd otherCiphertext) :
    ad = otherAd ∧ ciphertext = otherCiphertext := by
  obtain ⟨same, length⟩ := List.append_inj' same rfl
  obtain ⟨same, adLength⟩ := List.append_inj' same rfl
  replace length := ofNat_inj_of_lt fits otherFits length
  replace adLength := ofNat_inj_of_lt adFits otherAdFits adLength
  rw [length, adLength] at same
  obtain ⟨same, -⟩ := List.append_inj' same rfl
  obtain ⟨same, ciphertexts⟩ := List.append_inj' same length
  exact ⟨(List.append_inj' same rfl).1, ciphertexts⟩

/-- The authenticator has the first half of block 0 as its key. -/
theorem generatePoly1305Key_eq (key : Bytes) (nonce : UInt64) :
    generatePoly1305Key key nonce =
      (poly1305Init ((chacha20Block (chacha20Init key nonce)).take 32),
        nextBlock (chacha20Init key nonce)) := by
  have enough : 32 ≤ (chacha20Block (chacha20Init key nonce)).length := by
    rw [length_chacha20Block]
    decide
  rw [generatePoly1305Key, chacha20_eq, List.length_replicate]
  change (poly1305Init (xorBytes _ (chacha20Block (chacha20Init key nonce) ++ [])), _) = _
  rw [List.append_nil, xorBytes_zeros enough]
  rfl

end ChaCha20Poly1305

/-- A packet is accepted exactly when it is the encryption of the text that is
read from it. -/
theorem aead_decrypt_iff_encrypt (src ad : Bytes) (nonce : UInt64) (key plain : Bytes) :
    chacha20poly1305Decrypt src ad nonce key = some plain ↔
      src = chacha20poly1305Encrypt plain ad nonce key := by
  constructor
  · exact eq_encrypt_of_decrypt
  · rintro rfl
    exact decrypt_encrypt plain ad nonce key

/-- A packet is the text under the keystream from block 1 and the tag, under
the key of block 0, of a text that determines the associated data and the
ciphertext. -/
theorem aead_encrypt_construction {src ad : Bytes} (nonce : UInt64) (key : Bytes)
    (srcFits : src.length < 2 ^ 32) (adFits : ad.length < 2 ^ 32) :
    let start := chacha20Init key nonce
    let oneTimeKey := (chacha20Block start).take 32
    let ciphertext :=
      xorBytes src (keystream chacha20Block nextBlock (blockCount src.length) (nextBlock start))
    ∃ tag, chacha20poly1305Encrypt src ad nonce key = ciphertext ++ tag ∧
      littleEndian tag = Poly1305.authenticate (Poly1305.multiplier oneTimeKey)
        (Poly1305.summand oneTimeKey) (aeadText ad ciphertext) ∧
      ∀ otherAd other : Bytes, otherAd.length < 2 ^ 32 → other.length < 2 ^ 32 →
        aeadText otherAd other = aeadText ad ciphertext → otherAd = ad ∧ other = ciphertext := by
  intro start oneTimeKey ciphertext
  have encrypted : (chacha20 (nextBlock start) src).1 = ciphertext := by
    rw [chacha20_eq]
  have size : ciphertext.length = src.length := by
    rw [← encrypted, length_chacha20]
  have half : oneTimeKey.length = 32 := by
    rw [List.length_take, length_chacha20Block]
    rfl
  refine ⟨tagOfText (poly1305Init oneTimeKey) ad ciphertext, ?_, ?_, ?_⟩
  · rw [chacha20poly1305Encrypt, generatePoly1305Key_eq]
    simp only [start, oneTimeKey, encrypted]
  · exact littleEndian_tagOfText half ad ciphertext
  · intro otherAd other otherAdFits otherFits same
    exact aeadText_inj (by omega) (by omega) (by omega) (by omega) same

theorem aead_encrypt_construction_two :
    ∃ ciphertext tag,
      chacha20poly1305Encrypt [104, 105] [7] 5 (List.replicate 32 1) = ciphertext ++ tag ∧
        littleEndian tag = Poly1305.authenticate
          (Poly1305.multiplier ((chacha20Block (chacha20Init (List.replicate 32 1) 5)).take 32))
          (Poly1305.summand ((chacha20Block (chacha20Init (List.replicate 32 1) 5)).take 32))
          (aeadText [7] ciphertext) := by
  obtain ⟨tag, whole, number, -⟩ := aead_encrypt_construction 5 (List.replicate 32 1)
    (show [104, 105].length < 2 ^ 32 by decide) (show [7].length < 2 ^ 32 by decide)
  exact ⟨_, tag, whole, number⟩

end EchoMic
