import FederationTrust.Base64
import FederationTrust.Json.Value
import FederationTrust.Signature.Algorithm

/-!
# JSON Web Keys

A key is well-formed when its members have the right types for its kind; whether its
numbers decode is a second question. The name of the curve has to be a known one, but
the point itself decides later which curve it lies on. Of the algorithm any name will do.

Kind, curve and algorithm are named cases: text, or an object whose one member has the
name and null as content. For the algorithm an empty object will do as well.
-/

namespace FederationTrust

inductive KeyMaterial where
  | secret (bytes : Bytes)
  | ecPoint (bytes : Bytes)
  | edPoint (bytes : Bytes)
  | rsaNumbers (modulus exponent : Bytes)
  | rsaDocument (der : Bytes)
  deriving DecidableEq, Repr, Inhabited

def KeyMaterial.family : KeyMaterial → KeyFamily
  | .secret _ => .hmac
  | .ecPoint _ => .ec
  | .edPoint _ => .ed
  | .rsaNumbers _ _ | .rsaDocument _ => .rsa

/-- The octets of a secret or a point, or of a key document. -/
def KeyMaterial.octets : KeyMaterial → Bytes
  | .secret b | .ecPoint b | .edPoint b | .rsaDocument b => b
  | .rsaNumbers _ _ => []

structure TrustedKey where
  kid : Option String
  material : KeyMaterial
  deriving DecidableEq, Repr, Inhabited

inductive JwkNumbers where
  | ec (x y : String)
  | rsa (n e : String)
  | oct (k : String)
  | okp (x : String)
  deriving DecidableEq, Repr

structure Jwk where
  kid : Option String
  numbers : JwkNumbers
  deriving DecidableEq, Repr

namespace Jwk

def curves : List String := ["P-256", "P-384", "P-521", "Ed25519"]

def case? (j : Json) (name : String) : Option String :=
  (j.get? name).bind fun value => Json.bareCase? value.settled

def curve? (j : Json) : Option String :=
  (case? j "crv").filter curves.contains

/-- The text of a member that has to be given. -/
def member? (j : Json) (name : String) : Option String :=
  (j.get? name).bind Json.text?

def numbers? (j : Json) : Option JwkNumbers := do
  match ← case? j "kty" with
  | "EC" =>
    let _ ← curve? j
    let x ← member? j "x"
    let y ← member? j "y"
    some (.ec x y)
  | "RSA" =>
    let n ← member? j "n"
    let e ← member? j "e"
    some (.rsa n e)
  | "oct" =>
    let k ← member? j "k"
    some (.oct k)
  | "OKP" =>
    let _ ← curve? j
    let x ← member? j "x"
    some (.okp x)
  | _ => none

def algorithm? (j : Json) : Option String :=
  match j.settled with
  | .object [(name, .object [])] => name
  | value => Json.bareCase? value

/-- The members that are text where they are given, besides the identifier. -/
def textMembers : List String := ["use", "x5u", "x5t", "x5t#S256"]

/-- The members that are lists of texts where they are given. -/
def listMembers : List String := ["key_ops", "x5c"]

def ofJson? : Json → Option Jwk
  | .object members => do
    let j := Json.object members
    let kid ← Json.optional? Json.text? (j.get? "kid")
    let _ ← Json.optional? algorithm? (j.get? "alg")
    let _ ← textMembers.mapM fun name => Json.optional? Json.text? (j.get? name)
    let _ ← listMembers.mapM fun name => Json.optional? (Json.listOf? Json.text?) (j.get? name)
    let numbers ← numbers? j
    some ⟨kid, numbers⟩
  | _ => none

def decode? (s : String) : Option Bytes :=
  Base64.decode? Base64.urlSafe s.toList

/-- The material of a key, if all its numbers decode. -/
def material? (k : Jwk) : Option KeyMaterial :=
  match k.numbers with
  | .ec x y => do
    let x ← decode? x
    let y ← decode? y
    some (.ecPoint (0x04 :: x ++ y))
  | .rsa n e => do
    let n ← decode? n
    let e ← decode? e
    some (.rsaNumbers n e)
  | .oct k => (decode? k).map .secret
  | .okp x => (decode? x).map .edPoint

def key? (k : Jwk) : Option TrustedKey :=
  k.material?.map fun m => ⟨k.kid, m⟩

end Jwk

end FederationTrust
