import FederationTrust.Bytes

/-!
# Percent-encoding in URLs

Each part of a URL has a set of ASCII characters that are written as a percent sign
and two hexadecimal digits; characters beyond ASCII always are, octet by octet. A
percent sign itself is in no set, so encoded text stays as it is.
-/

namespace FederationTrust

namespace Url

def upperHex (n : Nat) : Char :=
  if n < 10 then Char.ofNat (48 + n) else Char.ofNat (55 + n)

def percentByte (b : UInt8) : List Char :=
  ['%', upperHex (b.toNat / 16), upperHex (b.toNat % 16)]

/-- The controls, which no part of a URL holds. -/
def isControl (c : Char) : Bool :=
  c.toNat < 0x20 || c.toNat = 0x7F

def inFragmentSet (c : Char) : Bool :=
  isControl c || [' ', '"', '<', '>', Char.ofNat 0x60].contains c

def inPathSet (c : Char) : Bool :=
  inFragmentSet c || ['#', '?', Char.ofNat 0x7B, Char.ofNat 0x7D].contains c

def inUserinfoSet (c : Char) : Bool :=
  inPathSet c || ['/', ':', ';', '=', '@', '[', '\\', ']', '^', '|'].contains c

def inQuerySet (c : Char) : Bool :=
  isControl c || [' ', '"', '#', '<', '>'].contains c

def inSpecialQuerySet (c : Char) : Bool :=
  inQuerySet c || c = '\''

/-- A character as it is written where a set is encoded. -/
def encodeChar (set : Char → Bool) (c : Char) : List Char :=
  if c.toNat < 128 ∧ set c = false then [c]
  else (String.utf8EncodeChar c).flatMap percentByte

def encode (set : Char → Bool) (s : List Char) : List Char :=
  s.flatMap (encodeChar set)

/-- The octets of a text in which encoded octets stand for themselves. -/
def decodeBytes : Bytes → Bytes
  | [] => []
  | [b] => [b]
  | [b, c] => [b, c]
  | b :: h :: l :: rest =>
    match b == 0x25, Bytes.hexValue? h, Bytes.hexValue? l with
    | true, some x, some y => UInt8.ofNat (x * 16 + y) :: decodeBytes rest
    | _, _, _ => b :: decodeBytes (h :: l :: rest)

end Url

end FederationTrust
