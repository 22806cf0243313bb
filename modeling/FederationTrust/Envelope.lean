import FederationTrust.Base64
import FederationTrust.Json.Decode
import FederationTrust.Json.Printer
import FederationTrust.Text.Blank

/-!
# Signed envelopes

An envelope has one payload, kept as the text that is signed, and signature entries
that each sign it under a protected header of their own. The parts of an entry may be
absent, so that one incomplete entry does not spoil the envelope.

Nothing is verified here. A protected header is read for its expiry, which may be
written as a number or as a text, its algorithm and its key identifier.
-/

namespace FederationTrust

structure SignatureEntry where
  protectedHeader : Option String
  signature : Option String
  deriving DecidableEq, Repr, Inhabited

structure Envelope where
  payload : String
  signatures : List SignatureEntry
  deriving DecidableEq, Repr, Inhabited

/-- The members of a protected header that matter before verification. -/
structure ProtectedHeader where
  exp : Int
  alg : Option String
  kid : Option String
  deriving DecidableEq, Repr, Inhabited

inductive EntryFault where
  | noHeader
  | noSignature
  | badHeaderEncoding
  | badHeaderDocument
  deriving DecidableEq, Repr, Inhabited

def EntryFault.message : EntryFault → String
  | .noHeader => "signature entry has no protected header"
  | .noSignature => "signature entry has no signature"
  | .badHeaderEncoding => "invalid protected header: malformed base64"
  | .badHeaderDocument => "invalid protected header: malformed document"

/-- Octets of a text in base64 for URLs, without white space around it and equals signs after it. -/
def decodeTolerant? (s : String) : Option Bytes :=
  Base64.decode? Base64.urlSafe (Text.dropEndWhile (· = '=') (Text.trim s.toList))

def encodeUrlSafe (b : Bytes) : String :=
  String.ofList (Base64.encode Base64.urlSafe b)

namespace SignatureEntry

def ofJson? (j : Json) : Option SignatureEntry := do
  match ← j.fields? [["protected"], ["signature"]] with
  | [header, signature] =>
    let header ← Json.optional? Json.text? header
    let signature ← Json.optional? Json.text? signature
    some ⟨header, signature⟩
  | _ => none

def toJson (e : SignatureEntry) : Json :=
  .record [("protected", Json.orNull .text e.protectedHeader),
    ("signature", Json.orNull .text e.signature)]

end SignatureEntry

namespace Envelope

def ofJson? (j : Json) : Option Envelope := do
  match ← j.fields? [["payload"], ["signatures"]] with
  | [payload, signatures] =>
    let payload ← Json.required? Json.text? payload
    let signatures ← Json.required? (Json.listOf? SignatureEntry.ofJson?) signatures
    some ⟨payload, signatures⟩
  | _ => none

def toJson (e : Envelope) : Json :=
  .record [("payload", .text e.payload),
    ("signatures", .array (e.signatures.map SignatureEntry.toJson))]

def parse? (document : Bytes) : Option Envelope :=
  (Json.parse? document).bind ofJson?

def payloadBytes? (e : Envelope) : Option Bytes :=
  decodeTolerant? e.payload

/-- The text that an entry signs, and its signature. -/
def signingInput (e : Envelope) (entry : SignatureEntry) : Except EntryFault (String × String) :=
  match entry.protectedHeader, entry.signature with
  | none, _ => .error .noHeader
  | some _, none => .error .noSignature
  | some header, some signature => .ok (header ++ "." ++ e.payload, signature)

end Envelope

namespace ProtectedHeader

/-- The seconds of an expiry: a whole number, any other number cut at its point, or a text. -/
def expiry? : Json → Option Int
  | .number n =>
    match n.int64? with
    | some v => some v
    | none => n.truncated?
  | .string (some s) => Text.int64? (Text.trim s.toList)
  | _ => none

def ofJson? (j : Json) : Option ProtectedHeader := do
  match ← j.fields? [["exp"], ["alg"], ["kid"]] with
  | [exp, alg, kid] =>
    let exp ← Json.required? expiry? exp
    let alg ← Json.optional? Json.text? alg
    let kid ← Json.optional? Json.text? kid
    some ⟨exp, alg, kid⟩
  | _ => none

/-- The first second that dates are kept for. -/
def earliest : Int := -8334601228800

/-- The last second that dates are kept for. -/
def latest : Int := 8210266876799

/-- The expiry as seconds since the beginning of 1970, if dates are kept for it. -/
def expiresAt? (h : ProtectedHeader) : Option Int :=
  if earliest ≤ h.exp ∧ h.exp ≤ latest then some h.exp else none

end ProtectedHeader

namespace SignatureEntry

/-- The protected header, read without any verification. -/
def unverifiedHeader (e : SignatureEntry) : Except EntryFault ProtectedHeader :=
  match e.protectedHeader with
  | none => .error .noHeader
  | some s =>
    match decodeTolerant? s with
    | none => .error .badHeaderEncoding
    | some b =>
      match (Json.parse? b).bind ProtectedHeader.ofJson? with
      | none => .error .badHeaderDocument
      | some h => .ok h

end SignatureEntry

end FederationTrust
