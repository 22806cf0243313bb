import FederationTrust.Envelope
import FederationTrust.Instant
import FederationTrust.KeyFile.KeySet
import FederationTrust.Policy
import FederationTrust.Signature.Verify

/-!
# Verification of an envelope

The entries are tried in their order against the whole key set. An entry is expired
when its header reads and its expiry is past, whatever else is wrong with it, and
rejected when anything else keeps it from being verified; the first verified entry
decides. The payload that is returned is decoded from the very text that was signed.
-/

namespace FederationTrust

inductive Rejection where
  | fault (f : EntryFault)
  | expiryOutOfRange (exp : Int)
  | noAlgorithm
  | unsupported (name : String)
  | notPermitted (a : Algorithm) (policy : AlgorithmPolicy)
  | noKeys
  | mismatch
  | signatureFault (f : SignatureFault)
  | badPayload
  deriving DecidableEq, Repr

namespace Rejection

def faultMessage : SignatureFault → String
  | .otherFamily => "key of another family"
  | .badKey => "invalid public key"
  | .badEncoding => "malformed signature"

def message : Rejection → String
  | .fault f => f.message
  | .expiryOutOfRange exp => "exp out of range: " ++ toString exp
  | .noAlgorithm => "protected header has no alg"
  | .unsupported name => "unsupported algorithm: " ++ name
  | .notPermitted a policy =>
    "algorithm " ++ a.name ++ " not allowed (allowed: " ++ policy.text ++ ")"
  | .noKeys => "key set is empty"
  | .mismatch => "signature does not match"
  | .signatureFault f => faultMessage f
  | .badPayload => "invalid payload encoding: malformed base64"

end Rejection

structure VerifiedPayload where
  payload : Bytes
  entryIndex : Nat
  kid : Option String
  algorithm : Algorithm
  digest : String
  deriving DecidableEq, Repr

inductive EntryOutcome where
  | verified (payload : Bytes) (kid : Option String) (algorithm : Algorithm)
  | expired (time : Int)
  | rejected (reason : Rejection)
  deriving DecidableEq, Repr

inductive VerificationError where
  | malformed
  | noSignatures
  | noneVerified (expired rejected : Nat)
  deriving DecidableEq, Repr

def VerificationError.message : VerificationError → String
  | .malformed => "invalid signed envelope: malformed document"
  | .noSignatures => "no signatures in envelope"
  | .noneVerified expired rejected =>
    "no signature entry verified (" ++ toString expired ++ " expired, " ++ toString rejected
      ++ " rejected)"

def VerificationError.failure (e : VerificationError) : Failure :=
  .verification e.message

namespace Verification

/-- Each key in turn until one verifies; otherwise what the last key showed counts. -/
def tryKeys (verify : KeyMaterial → Except SignatureFault Bool) (last : Rejection) :
    List TrustedKey → Except Rejection (Option String)
  | [] => .error last
  | key :: rest =>
    match verify key.material with
    | .ok true => .ok key.kid
    | .ok false => tryKeys verify .mismatch rest
    | .error f => tryKeys verify (.signatureFault f) rest

def verifySignature (keys : KeySet) (a : Algorithm) (message signature : String) :
    Except Rejection (Option String) :=
  tryKeys (fun m => Signature.verify a m (Bytes.ofText message) signature) .noKeys keys.keys

/-- The algorithm that a header names, if it is known and the policy permits it. -/
def chooseAlgorithm (policy : AlgorithmPolicy) (h : ProtectedHeader) : Except Rejection Algorithm :=
  match h.alg with
  | none => .error .noAlgorithm
  | some name =>
    match Algorithm.ofName? name with
    | none => .error (.unsupported name)
    | some a => if policy.permits a then .ok a else .error (.notPermitted a policy)

def checkEntry (envelope : Envelope) (keys : KeySet) (policy : AlgorithmPolicy)
    (entry : SignatureEntry) (h : ProtectedHeader) : Except Rejection EntryOutcome := do
  let a ← chooseAlgorithm policy h
  let (message, signature) ← (envelope.signingInput entry).mapError .fault
  let kid ← verifySignature keys a message signature
  match envelope.payloadBytes? with
  | none => throw .badPayload
  | some payload => return .verified payload kid a

def tryEntry (envelope : Envelope) (keys : KeySet) (policy : AlgorithmPolicy) (now : Instant)
    (entry : SignatureEntry) : EntryOutcome :=
  match entry.unverifiedHeader with
  | .error f => .rejected (.fault f)
  | .ok h =>
    match h.expiresAt? with
    | none => .rejected (.expiryOutOfRange h.exp)
    | some t =>
      if Instant.before ⟨t, 0⟩ now then .expired t
      else
        match checkEntry envelope keys policy entry h with
        | .error reason => .rejected reason
        | .ok outcome => outcome

/-- The outcomes up to and including the first verified entry. -/
def search (judge : SignatureEntry → EntryOutcome) : List SignatureEntry → List EntryOutcome
  | [] => []
  | entry :: rest =>
    match judge entry with
    | .verified payload kid a => [.verified payload kid a]
    | outcome => outcome :: search judge rest

def expiredCount (outcomes : List EntryOutcome) : Nat :=
  outcomes.countP fun
    | .expired _ => true
    | _ => false

def rejectedCount (outcomes : List EntryOutcome) : Nat :=
  outcomes.countP fun
    | .rejected _ => true
    | _ => false

def conclude (outcomes : List EntryOutcome) : Except VerificationError VerifiedPayload :=
  match outcomes.getLast? with
  | none => .error .noSignatures
  | some (.verified payload kid a) =>
    .ok ⟨payload, outcomes.length - 1, kid, a, payloadDigest payload⟩
  | some _ => .error (.noneVerified (expiredCount outcomes) (rejectedCount outcomes))

end Verification

namespace Envelope

def outcomesAt (envelope : Envelope) (keys : KeySet) (policy : AlgorithmPolicy) (now : Instant) :
    List EntryOutcome :=
  Verification.search (Verification.tryEntry envelope keys policy now) envelope.signatures

def verifyAt (envelope : Envelope) (keys : KeySet) (policy : AlgorithmPolicy) (now : Instant) :
    Except VerificationError VerifiedPayload :=
  Verification.conclude (envelope.outcomesAt keys policy now)

end Envelope

/-- The outcomes of the entries of a document that are tried; none when it does not parse. -/
def entryOutcomesAt (document : Bytes) (keys : KeySet) (policy : AlgorithmPolicy) (now : Instant) :
    List EntryOutcome :=
  match Envelope.parse? document with
  | none => []
  | some envelope => envelope.outcomesAt keys policy now

def verifyEnvelopeAt (document : Bytes) (keys : KeySet) (policy : AlgorithmPolicy) (now : Instant) :
    Except VerificationError VerifiedPayload :=
  match Envelope.parse? document with
  | none => .error .malformed
  | some envelope => envelope.verifyAt keys policy now

end FederationTrust
