import FederationTrust.Bytes

/-!
# JSON documents

A document as written: members stay in order and may repeat, numbers keep their
decimal form, and a string whose content is not Unicode text is kept as `none`,
so that a reader decides for itself which members have to be text and which
numbers have to fit a type.

No limit on depth or on the size of a number is part of this type.
-/

namespace FederationTrust

structure Exponent where
  negative : Bool
  size : Nat
  deriving DecidableEq, Repr, Inhabited

/-- A JSON number as written; an empty fraction means that no point is written. -/
structure Numeral where
  negative : Bool
  whole : Nat
  fraction : List (Fin 10)
  exponent : Option Exponent
  deriving DecidableEq, Repr, Inhabited

def Numeral.ofNat (n : Nat) : Numeral :=
  ⟨false, n, [], none⟩

/-- The natural number that a numeral without sign, point and exponent writes. -/
def Numeral.nat? (n : Numeral) : Option Nat :=
  if n.negative = false ∧ n.fraction = [] ∧ n.exponent = none then some n.whole else none

inductive Json where
  | null
  | bool (b : Bool)
  | number (n : Numeral)
  | string (s : Option String)
  | array (items : List Json)
  | object (members : List (Option String × Json))
  deriving Inhabited, Repr

namespace Json

abbrev text (s : String) : Json :=
  .string (some s)

def texts (l : List String) : Json :=
  .array (l.map text)

def record (members : List (String × Json)) : Json :=
  .object (members.map fun m => (some m.1, m.2))

end Json

end FederationTrust
