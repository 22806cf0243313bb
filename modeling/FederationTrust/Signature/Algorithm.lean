import FederationTrust.Digest.Sha2

/-!
# Signature algorithms

The algorithms that a protected header may name, each with its hash function and
the family of keys that it works with.
-/

namespace FederationTrust

inductive KeyFamily where
  | hmac
  | rsa
  | ec
  | ed
  deriving DecidableEq, Repr, Inhabited

inductive Algorithm where
  | hs256
  | hs384
  | hs512
  | es256
  | es384
  | rs256
  | rs384
  | rs512
  | ps256
  | ps384
  | ps512
  | edDSA
  deriving DecidableEq, Repr, Inhabited

namespace Algorithm

def all : List Algorithm :=
  [.hs256, .hs384, .hs512, .es256, .es384, .rs256, .rs384, .rs512, .ps256, .ps384, .ps512, .edDSA]

def name : Algorithm → String
  | .hs256 => "HS256"
  | .hs384 => "HS384"
  | .hs512 => "HS512"
  | .es256 => "ES256"
  | .es384 => "ES384"
  | .rs256 => "RS256"
  | .rs384 => "RS384"
  | .rs512 => "RS512"
  | .ps256 => "PS256"
  | .ps384 => "PS384"
  | .ps512 => "PS512"
  | .edDSA => "EdDSA"

/-- The algorithm of a name, in exactly this spelling. -/
def ofName? (s : String) : Option Algorithm :=
  all.find? fun a => a.name == s

theorem ofName?_name (a : Algorithm) : ofName? a.name = some a := by
  cases a <;> decide

theorem name_of_ofName? {s : String} {a : Algorithm} (h : ofName? s = some a) : a.name = s := by
  simpa using List.find?_some h

theorem name_injective {a b : Algorithm} (h : a.name = b.name) : a = b := by
  have known := ofName?_name a
  rw [h, ofName?_name b] at known
  exact (Option.some.inj known).symm

def family : Algorithm → KeyFamily
  | .hs256 | .hs384 | .hs512 => .hmac
  | .es256 | .es384 => .ec
  | .rs256 | .rs384 | .rs512 | .ps256 | .ps384 | .ps512 => .rsa
  | .edDSA => .ed

end Algorithm

end FederationTrust
