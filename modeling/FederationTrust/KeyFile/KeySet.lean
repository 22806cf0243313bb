import FederationTrust.KeyFile.Jwk
import FederationTrust.KeyFile.Pem
import FederationTrust.KeyFile.Der

/-!
# Trusted key sets

A key file holds a set of JSON Web Keys, a single one, or a public key in armour. In
a set a malformed key spoils the whole file, while a key whose material does not
decode is passed over; alone, either is an error.
-/

namespace FederationTrust

/-- Trusted keys in the order of their file, and how many were passed over. -/
structure KeySet where
  keys : List TrustedKey
  skipped : Nat
  deriving DecidableEq, Repr, Inhabited

inductive KeyFileError where
  | notUtf8
  | notJson
  | badSet
  | badKey
  | unusableKey
  | badArmour
  deriving DecidableEq, Repr, Inhabited

def KeyFileError.message : KeyFileError → String
  | .notUtf8 => "key set is not valid UTF-8: malformed octets"
  | .notJson => "invalid key set JSON: malformed document"
  | .badSet => "invalid JWK set: malformed key"
  | .badKey => "invalid JWK: malformed key"
  | .unusableKey => "unusable JWK: malformed key material"
  | .badArmour => "unsupported PEM public key: invalid key format"

namespace KeySet

def ofKeys (keys : List TrustedKey) : KeySet :=
  ⟨keys, 0⟩

def empty : KeySet :=
  ofKeys []

def ofJwks (jwks : List Jwk) : KeySet :=
  ⟨jwks.filterMap Jwk.key?, (jwks.filter fun k => k.key?.isNone).length⟩

def familyOf? (arcs : List Nat) : Option KeyFamily :=
  if arcs = [1, 2, 840, 10045, 2, 1] then some .ec
  else if arcs = [1, 2, 840, 113549, 1, 1, 1] then some .rsa
  else if arcs = [1, 3, 101, 112] then some .ed
  else none

def armoured? (block : Pem.Block) : Option KeyMaterial := do
  let elements ← Der.read? block.content
  if block.label = "RSA PUBLIC KEY" ∨ block.label = "RSA PRIVATE KEY" then
    some (.rsaDocument block.content)
  else if ["PUBLIC KEY", "CERTIFICATE", "PRIVATE KEY"].contains block.label then
    let family ← Der.findObjectId familyOf? elements
    let content ← Der.findString elements
    match family with
    | .rsa => some (.rsaDocument content)
    | .ec => if block.label = "PRIVATE KEY" then none else some (.ecPoint content)
    | .ed => if block.label = "PRIVATE KEY" then none else some (.edPoint content)
    | .hmac => none
  else none

def ofArmour (text : String) : Except KeyFileError KeySet :=
  match (Pem.parse? text).bind armoured? with
  | some m => .ok (ofKeys [⟨none, m⟩])
  | none => .error .badArmour

def ofJson (j : Json) : Except KeyFileError KeySet :=
  match j.get? "keys" with
  | some members =>
    match Json.listOf? Jwk.ofJson? members with
    | some jwks => .ok (ofJwks jwks)
    | none => .error .badSet
  | none =>
    match Jwk.ofJson? j with
    | none => .error .badKey
    | some jwk =>
      match jwk.key? with
      | none => .error .unusableKey
      | some key => .ok (ofKeys [key])

def parse (file : Bytes) : Except KeyFileError KeySet :=
  match Bytes.text? file with
  | none => .error .notUtf8
  | some text =>
    let text := Text.trimmed text
    if (Pem.after? "-----BEGIN".toList text.toList).isSome then ofArmour text
    else
      match Json.parsePlain? (Bytes.ofText text) with
      | none => .error .notJson
      | some j => ofJson j

end KeySet

end FederationTrust
