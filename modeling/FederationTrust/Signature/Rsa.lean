import FederationTrust.Digest.Sha2
import FederationTrust.KeyFile.Der
import FederationTrust.Signature.Modular

/-!
# RSA signatures

Signatures with appendix in the two encodings of PKCS #1: the one that pads a fixed
frame and the probabilistic one, whose salt is as long as the hash. A key outside the
accepted bounds verifies nothing.
-/

namespace FederationTrust

namespace Rsa

structure PublicKey where
  modulus : Nat
  exponent : Nat
  deriving DecidableEq, Repr

def bitLength (n : Nat) : Nat :=
  if n = 0 then 0 else Nat.log2 n + 1

namespace PublicKey

def isAcceptable (k : PublicKey) : Bool :=
  k.exponent % 2 = 1 && 2 ≤ k.exponent && k.exponent < Nat.pow 2 33 && k.modulus % 2 = 1
    && bitLength k.modulus ≤ 4096 && k.exponent < k.modulus

/-- The number of octets of the modulus. -/
def size (k : PublicKey) : Nat :=
  (bitLength k.modulus + 7) / 8

/-- The encoded message that a signature holds. -/
def open? (k : PublicKey) (signature : Bytes) : Option Bytes :=
  let s := Bytes.toNat signature
  if k.isAcceptable ∧ signature.length = k.size ∧ s < k.modulus then
    some (Bytes.ofNat k.size (Modular.pow k.modulus s k.exponent))
  else none

end PublicKey

/-- The DER frame that names a hash function in front of its value. -/
def hashFrame (v : Sha2.Variant) : Bytes :=
  let last : UInt8 := if v.digestBytes = 32 then 1 else if v.digestBytes = 48 then 2 else 3
  let n := UInt8.ofNat v.digestBytes
  [0x30, 0x11 + n, 0x30, 0x0D, 0x06, 0x09, 0x60, 0x86, 0x48, 0x01, 0x65, 0x03, 0x04, 0x02, last,
    0x05, 0x00, 0x04, n]

def verifyPkcs1 (v : Sha2.Variant) (k : PublicKey) (message signature : Bytes) : Bool :=
  match k.open? signature with
  | none => false
  | some encoded =>
    let inner := hashFrame v ++ v.hash message
    inner.length + 11 ≤ k.size
      && encoded == 0 :: 1 :: List.replicate (k.size - inner.length - 3) 0xFF ++ 0 :: inner

/-- The mask generation function: hashes of a seed with a counter. -/
def mask (v : Sha2.Variant) (seed : Bytes) (size : Nat) : Bytes :=
  ((List.range (size / v.digestBytes + 1)).flatMap fun i =>
    v.hash (seed ++ Bytes.ofNat 4 i)).take size

def verifyPss (v : Sha2.Variant) (k : PublicKey) (message signature : Bytes) : Bool :=
  match k.open? signature with
  | none => false
  | some encoded =>
    let bits := bitLength k.modulus - 1
    let size := (bits + 7) / 8
    let encoded := encoded.drop (encoded.length - size)
    let h := v.digestBytes
    if size < 2 * h + 2 then false
    else
      let masked := encoded.take (size - h - 1)
      let hash := (encoded.drop (size - h - 1)).take h
      let unusedTop : UInt8 := UInt8.ofNat (256 - Nat.pow 2 (8 - (8 * size - bits)))
      let block := List.zipWith (· ^^^ ·) masked (mask v hash masked.length)
      match masked, block with
      | top :: _, first :: rest =>
        let block := (first &&& (unusedTop ^^^ 0xFF)) :: rest
        let padding := block.take (size - 2 * h - 2)
        let salt := block.drop (size - 2 * h - 1)
        top &&& unusedTop == 0 && encoded.getLast? == some 0xBC && padding.all (· == 0)
          && block[size - 2 * h - 2]? == some 1
          && v.hash (List.replicate 8 0 ++ v.hash message ++ salt) == hash
      | _, _ => false

end Rsa

end FederationTrust
