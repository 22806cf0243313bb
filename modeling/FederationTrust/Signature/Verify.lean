import FederationTrust.KeyFile.Jwk
import FederationTrust.Signature.Edwards
import FederationTrust.Signature.Rsa
import FederationTrust.Signature.Weierstrass

/-!
# Verification of one signature by one key

A key of another family than the algorithm's, a public point that is none and a
signature that is not base64 are faults; beyond that the answer is yes or no.
-/

namespace FederationTrust

inductive SignatureFault where
  | otherFamily
  | badKey
  | badEncoding
  deriving DecidableEq, Repr, Inhabited

namespace Signature

/-- The RSA public key of some material; none where a document does not hold one. -/
def rsaKey? : KeyMaterial → Option Rsa.PublicKey
  | .rsaNumbers n e => some ⟨Bytes.toNat n, Bytes.toNat e⟩
  | .rsaDocument der => (Der.natPair? der).map fun k => ⟨k.1, k.2⟩
  | _ => none

def decode (signature : String) : Except SignatureFault Bytes :=
  match Base64.decode? Base64.urlSafe signature.toList with
  | some b => .ok b
  | none => .error .badEncoding

def verifySecret (v : Sha2.Variant) (secret message : Bytes) (signature : String) :
    Except SignatureFault Bool := do
  let b ← decode signature
  return v.hmac secret message == b

def verifyEc (c : Weierstrass.Curve) (key message : Bytes) (signature : String) :
    Except SignatureFault Bool :=
  match c.point? key with
  | none => .error .badKey
  | some point => do
    let b ← decode signature
    return c.verify point message b

/-- Verification on the Edwards curve; only the first 32 octets of the key count. -/
def verifyEd (key message : Bytes) (signature : String) : Except SignatureFault Bool :=
  match Edwards.decode? (key.take 32) with
  | none => .error .badKey
  | some point => do
    let b ← decode signature
    return Edwards.verify point (key.take 32) message b

def verifyRsa (check : Rsa.PublicKey → Bytes → Bytes → Bool) (key : KeyMaterial) (message : Bytes)
    (signature : String) : Except SignatureFault Bool := do
  let b ← decode signature
  return match rsaKey? key with
    | some k => check k message b
    | none => false

def verify (a : Algorithm) (key : KeyMaterial) (message : Bytes) (signature : String) :
    Except SignatureFault Bool :=
  if a.family ≠ key.family then .error .otherFamily
  else
    match a with
    | .hs256 => verifySecret Sha2.sha256 key.octets message signature
    | .hs384 => verifySecret Sha2.sha384 key.octets message signature
    | .hs512 => verifySecret Sha2.sha512 key.octets message signature
    | .es256 => verifyEc Weierstrass.p256 key.octets message signature
    | .es384 => verifyEc Weierstrass.p384 key.octets message signature
    | .rs256 => verifyRsa (Rsa.verifyPkcs1 Sha2.sha256) key message signature
    | .rs384 => verifyRsa (Rsa.verifyPkcs1 Sha2.sha384) key message signature
    | .rs512 => verifyRsa (Rsa.verifyPkcs1 Sha2.sha512) key message signature
    | .ps256 => verifyRsa (Rsa.verifyPss Sha2.sha256) key message signature
    | .ps384 => verifyRsa (Rsa.verifyPss Sha2.sha384) key message signature
    | .ps512 => verifyRsa (Rsa.verifyPss Sha2.sha512) key message signature
    | .edDSA => verifyEd key.octets message signature

end Signature

end FederationTrust
