import FederationTrust.Json.Basic

/-!
# Writing JSON

The compact form: no blanks, and in strings only the quotation mark, the
reverse solidus and the controls below U+0020 are escaped. A string that is no
text is written as a lone surrogate, which reads back as no text.
-/

namespace FederationTrust

namespace Json

def escapeChar (c : Char) : List Char :=
  if c = '"' then ['\\', '"']
  else if c = '\\' then ['\\', '\\']
  else if 0x20 ≤ c.toNat then [c]
  else if c = '\x08' then ['\\', 'b']
  else if c = '\t' then ['\\', 't']
  else if c = '\n' then ['\\', 'n']
  else if c = '\x0c' then ['\\', 'f']
  else if c = '\r' then ['\\', 'r']
  else ['\\', 'u', '0', '0', Bytes.hexDigit (c.toNat / 16), Bytes.hexDigit (c.toNat % 16)]

def printString : Option String → List Char
  | some s => '"' :: s.toList.flatMap escapeChar ++ ['"']
  | none => ['"', '\\', 'u', 'd', '8', '0', '0', '"']

def printNumber (n : Numeral) : List Char :=
  (if n.negative then ['-'] else []) ++ Nat.toDigits 10 n.whole
    ++ (if n.fraction.isEmpty then [] else '.' :: n.fraction.map fun d => Nat.digitChar d.val)
    ++ match n.exponent with
      | none => []
      | some e => 'e' :: ((if e.negative then ['-'] else []) ++ Nat.toDigits 10 e.size)

mutual

def print : Json → List Char
  | .null => ['n', 'u', 'l', 'l']
  | .bool true => ['t', 'r', 'u', 'e']
  | .bool false => ['f', 'a', 'l', 's', 'e']
  | .number n => printNumber n
  | .string s => printString s
  | .array items => '[' :: printItems items ++ [']']
  | .object members => '{' :: printMembers members ++ ['}']

def printItems : List Json → List Char
  | [] => []
  | item :: rest => print item ++ if rest.isEmpty then [] else ',' :: printItems rest

def printMembers : List (Option String × Json) → List Char
  | [] => []
  | (name, value) :: rest =>
    printString name ++ ':' :: print value ++ if rest.isEmpty then [] else ',' :: printMembers rest

end

/-- The compact text of a value. -/
def render (j : Json) : String :=
  String.ofList (print j)

end Json

end FederationTrust
