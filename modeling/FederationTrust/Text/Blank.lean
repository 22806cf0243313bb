/-!
# White space and decimal numbers in text

White space is every character with the Unicode property of that name, which are
twenty-five. Numbers are read from ASCII digits with an optional plus sign, and
for numbers with sign a minus sign.
-/

namespace FederationTrust

namespace Text

def isBlank (c : Char) : Bool :=
  let n := c.toNat
  (9 ≤ n && n ≤ 13) || n = 0x20 || n = 0x85 || n = 0xA0 || n = 0x1680 || (0x2000 ≤ n && n ≤ 0x200A)
    || n = 0x2028 || n = 0x2029 || n = 0x202F || n = 0x205F || n = 0x3000

/-- The characters without the last ones, as long as these are of a class. -/
def dropEndWhile (p : Char → Bool) (s : List Char) : List Char :=
  (s.reverse.dropWhile p).reverse

def trim (s : List Char) : List Char :=
  dropEndWhile isBlank (s.dropWhile isBlank)

def trimmed (s : String) : String :=
  String.ofList (trim s.toList)

def digit? (c : Char) : Option Nat :=
  if 48 ≤ c.toNat ∧ c.toNat ≤ 57 then some (c.toNat - 48) else none

/-- The number that one or more ASCII digits write. -/
def digits? : List Char → Option Nat
  | [] => none
  | cs => (cs.mapM digit?).map fun ds => ds.foldl (fun n d => n * 10 + d) 0

/-- A natural number below a limit, with an optional plus sign. -/
def natBelow? (limit : Nat) : List Char → Option Nat
  | '+' :: cs => (digits? cs).filter (· < limit)
  | cs => (digits? cs).filter (· < limit)

def word? (cs : List Char) : Option UInt64 :=
  (natBelow? (Nat.pow 2 64) cs).map UInt64.ofNat

def int64? : List Char → Option Int
  | '-' :: cs => ((digits? cs).filter (· ≤ Nat.pow 2 63)).map fun n => -(n : Int)
  | cs => (natBelow? (Nat.pow 2 63) cs).map fun n => (n : Int)

def splitAt (sep : Char) : List Char → List (List Char)
  | [] => [[]]
  | c :: cs =>
    if c = sep then [] :: splitAt sep cs
    else match splitAt sep cs with
      | [] => [[c]]
      | piece :: rest => (c :: piece) :: rest

def lowerAscii (c : Char) : Char :=
  if 65 ≤ c.toNat ∧ c.toNat ≤ 90 then Char.ofNat (c.toNat + 32) else c

end Text

end FederationTrust
