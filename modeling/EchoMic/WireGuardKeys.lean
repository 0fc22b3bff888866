import EchoMic.Blake2s
import EchoMic.ChaCha20Poly1305
import EchoMic.X25519Curve

/-!
# The keys of the WireGuard handshake

The hashes, message authentication codes and key derivations that the
handshake is put together from.
-/

namespace EchoMic

/-- The bytes of a string of ASCII characters. -/
def asciiBytes (text : String) : Bytes :=
  text.toList.map fun char => UInt8.ofNat char.toNat

def construction : Bytes :=
  asciiBytes "Noise_IKpsk2_25519_ChaChaPoly_BLAKE2s"

def identifier : Bytes :=
  asciiBytes "WireGuard v1 zx2c4 Jason@zx2c4.com"

def labelMac1 : Bytes :=
  asciiBytes "mac1----"

def labelCookie : Bytes :=
  asciiBytes "cookie--"

def zeroKey : Bytes :=
  List.replicate 32 0

/-- A hash over updates, with parameters that are legal wherever it is used. -/
def wireguardBlake2sOf (outlen : Nat) (key : Bytes) (updates : List Bytes) : Bytes :=
  ((blake2sInit outlen key).map fun ctx =>
    blake2sFinal (updates.foldl blake2sUpdate ctx)).getD []

/-- `wireguard_init` calculates it. -/
def constructionHash : Bytes :=
  wireguardBlake2sOf 32 [] [construction]

def identifierHash : Bytes :=
  wireguardBlake2sOf 32 [] [constructionHash, identifier]

def wireguardMac (message key : Bytes) : Bytes :=
  wireguardBlake2sOf 16 key [message]

def wireguardMacKey (publicKey label : Bytes) : Bytes :=
  wireguardBlake2sOf 32 [] [label, publicKey]

/-- The new hash. -/
def wireguardMixHash (hash src : Bytes) : Bytes :=
  wireguardBlake2sOf 32 [] [hash, src]

def wireguardHmac (key text : Bytes) : Bytes :=
  let key := if key.length > 64 then wireguardBlake2sOf 32 [] [key] else key
  let padded := key ++ List.replicate (64 - key.length) 0
  let kIpad := padded.map (· ^^^ 0x36)
  let kOpad := padded.map (· ^^^ 0x5c)
  let digest := wireguardBlake2sOf 32 [] [kIpad, text]
  wireguardBlake2sOf 32 [] [kOpad, digest]

def wireguardKdf1 (chainingKey data : Bytes) : Bytes :=
  let tau0 := wireguardHmac chainingKey data
  wireguardHmac tau0 [1]

def wireguardKdf2 (chainingKey data : Bytes) : Bytes × Bytes :=
  let tau0 := wireguardHmac chainingKey data
  let tau1 := wireguardHmac tau0 [1]
  let tau2 := wireguardHmac tau0 (tau1 ++ [2])
  (tau1, tau2)

/-- The third key is derived from the second one, as in HKDF. -/
def wireguardKdf3 (chainingKey data : Bytes) : Bytes × Bytes × Bytes :=
  let tau0 := wireguardHmac chainingKey data
  let tau1 := wireguardHmac tau0 [1]
  let tau2 := wireguardHmac tau0 (tau1 ++ [2])
  let tau3 := wireguardHmac tau0 (tau2 ++ [3])
  (tau1, tau2, tau3)

def wireguardX25519 (privateKey publicKey : Bytes) : Bytes × UInt32 :=
  x25519 privateKey publicKey true

def wireguardClampPrivateKey (key : Bytes) : Bytes :=
  (key.set 0 (byteAt key 0 &&& 248)).set 31 ((byteAt key 31 &&& 127) ||| 64)

/-- From the random bytes that are drawn. -/
def wireguardGeneratePrivateKey (random : Bytes) : Bytes :=
  wireguardClampPrivateKey random

def basepoint : Bytes :=
  9 :: List.replicate 31 0

/-- `none` where the generation fails. -/
def wireguardGeneratePublicKey (privateKey : Bytes) : Option Bytes :=
  if privateKey ≠ zeroKey then
    let result := wireguardX25519 privateKey basepoint
    if result.2 = 0 then some result.1 else none
  else none

/-- The result of an agreement, unless it is zero. -/
def agreedSecret (privateKey publicKey : Bytes) : Option Bytes :=
  let dhCalculation := (wireguardX25519 privateKey publicKey).1
  if cryptoEqual dhCalculation zeroKey 32 then none else some dhCalculation

/-! ## Agreement -/

theorem basepoint_on_curve : (littleEndian basepoint : ZMod X25519.prime) =
    MontgomeryLadders.abscissa X25519.base := by
  have number : littleEndian basepoint = 9 := by decide
  rw [number]
  exact Nat.cast_ofNat

/-- A private key and the public key behind it. -/
theorem generatePublicKey_some {privateKey publicKey : Bytes}
    (generated : wireguardGeneratePublicKey privateKey = some publicKey) :
    publicKey = (wireguardX25519 privateKey basepoint).1 := by
  unfold wireguardGeneratePublicKey at generated
  split at generated
  · dsimp only at generated
    split at generated
    · exact (Option.some.inj generated).symm
    · cases generated
  · cases generated

theorem length_generatePublicKey {privateKey publicKey : Bytes}
    (generated : wireguardGeneratePublicKey privateKey = some publicKey) :
    publicKey.length = 32 := by
  rw [generatePublicKey_some generated]
  exact length_x25519 privateKey rfl

/-- An agreement succeeds unless its result is zero. -/
theorem wireguardX25519_returns {publicKey : Bytes} (privateKey : Bytes)
    (length : publicKey.length = 32)
    (nonzero : X25519.agreement (X25519.privateNumber privateKey true)
      (littleEndian publicKey) ≠ 0) : (wireguardX25519 privateKey publicKey).2 = 0 := by
  apply (x25519_return_iff privateKey length).mpr
  rw [littleEndian_x25519 privateKey length]
  exact nonzero

theorem generatePublicKey_of_ne {privateKey : Bytes} (notZero : privateKey ≠ zeroKey)
    (nonzero : X25519.agreement (X25519.privateNumber privateKey true)
      (littleEndian basepoint) ≠ 0) :
    wireguardGeneratePublicKey privateKey =
      some (wireguardX25519 privateKey basepoint).1 :=
  (if_pos notZero).trans (if_pos (wireguardX25519_returns privateKey rfl nonzero))

theorem agreedSecret_of_ne {publicKey : Bytes} (privateKey : Bytes)
    (length : publicKey.length = 32)
    (nonzero : X25519.agreement (X25519.privateNumber privateKey true)
      (littleEndian publicKey) ≠ 0) :
    agreedSecret privateKey publicKey = some (wireguardX25519 privateKey publicKey).1 := by
  refine if_neg fun equal => nonzero ?_
  have zero := eq_of_cryptoEqual (length_x25519 privateKey length) rfl equal
  rw [← littleEndian_x25519 privateKey length]
  exact (congrArg littleEndian zero).trans (by decide)

/-- The two ends of an agreement, each with the public key of the other one. -/
theorem wireguardX25519_comm {privateKey publicKey other otherPublic : Bytes}
    (generated : wireguardGeneratePublicKey privateKey = some publicKey)
    (otherGenerated : wireguardGeneratePublicKey other = some otherPublic) :
    (wireguardX25519 privateKey otherPublic).1 = (wireguardX25519 other publicKey).1 := by
  rw [generatePublicKey_some generated, generatePublicKey_some otherGenerated]
  exact x25519_comm privateKey other rfl basepoint_on_curve

/-- Both ends compute the same secret, whatever their private keys are. -/
theorem x25519_agrees_from_basepoint (privateKey other : Bytes) :
    (wireguardX25519 privateKey (wireguardX25519 other basepoint).1).1 =
      (wireguardX25519 other (wireguardX25519 privateKey basepoint).1).1 :=
  x25519_comm privateKey other rfl basepoint_on_curve

theorem clampedByte_clamp {key : Bytes} (length : key.length = 32) {index : Nat}
    (inside : index < 32) :
    X25519.clampedByte (wireguardClampPrivateKey key) true index =
      X25519.clampedByte key true index := by
  unfold X25519.clampedByte wireguardClampPrivateKey byteAt
  simp only [if_true]
  by_cases first : index = 0
  · subst first
    simp only [if_true, List.getD_eq_getElem?_getD]
    rw [List.getElem?_set_ne (by decide), List.getElem?_set_self (by omega), Option.getD_some,
      UInt8.and_assoc]
    rfl
  by_cases last : index = 31
  · subst last
    have twice (byte : UInt8) :
        (byte &&& 127 ||| 64) &&& 0x7F ||| 0x40 = byte &&& 0x7F ||| 0x40 := by
      apply UInt8.toBitVec_inj.mp
      simp only [UInt8.toBitVec_or, UInt8.toBitVec_and]
      rw [BitVec.and_or_distrib_right, BitVec.and_assoc, BitVec.or_assoc]
      rfl
    simp only [List.getD_eq_getElem?_getD, if_neg first, if_true]
    rw [List.getElem?_set_self (by rw [List.length_set]; omega), Option.getD_some]
    exact twice _
  · simp only [if_neg first, if_neg last, List.getD_eq_getElem?_getD]
    rw [List.getElem?_set_ne (Ne.symm last), List.getElem?_set_ne (Ne.symm first)]

/-- The agreement clamps the private key once more, which changes nothing. -/
theorem wireguardX25519_clamp {key point : Bytes} (length : key.length = 32)
    (pointLength : point.length = 32) :
    (wireguardX25519 (wireguardClampPrivateKey key) point).1 =
      (wireguardX25519 key point).1 := by
  have number : X25519.privateNumber (wireguardClampPrivateKey key) true =
      X25519.privateNumber key true := by
    unfold X25519.privateNumber
    congr 1
    apply List.map_congr_left
    intro index member
    exact clampedByte_clamp length (List.mem_range.mp member)
  apply littleEndian_inj
  · exact (length_x25519 _ pointLength).trans (length_x25519 _ pointLength).symm
  · unfold wireguardX25519
    rw [littleEndian_x25519 _ pointLength, littleEndian_x25519 _ pointLength, number]

end EchoMic
