import FederationTrust.Bytes

/-!
# Base64

Octets in groups of three become letters in groups of four; a last group of one or
two octets becomes two or three letters, whose unused bits are zero. Decoding
accepts exactly the texts that encoding writes, so no two texts stand for the same
octets. Padding is not part of the code here; `decodePadded?` takes it off where a
format asks for it.
-/

namespace FederationTrust

namespace Base64

/-- The two letters in which the alphabets differ. -/
structure Alphabet where
  plus : Char
  slash : Char
  deriving DecidableEq, Repr

def standard : Alphabet := ⟨'+', '/'⟩

def urlSafe : Alphabet := ⟨'-', '_'⟩

namespace Alphabet

def letter (a : Alphabet) (n : Nat) : Char :=
  if n < 26 then Char.ofNat (65 + n)
  else if n < 52 then Char.ofNat (71 + n)
  else if n < 62 then Char.ofNat (n - 4)
  else if n = 62 then a.plus
  else a.slash

def value? (a : Alphabet) (c : Char) : Option Nat :=
  let n := c.toNat
  if 65 ≤ n ∧ n ≤ 90 then some (n - 65)
  else if 97 ≤ n ∧ n ≤ 122 then some (n - 71)
  else if 48 ≤ n ∧ n ≤ 57 then some (n + 4)
  else if c = a.plus then some 62
  else if c = a.slash then some 63
  else none

end Alphabet

/-- The letters of a string of octets, without padding. -/
def encode (a : Alphabet) : Bytes → List Char
  | [] => []
  | [x] => [a.letter (x.toNat / 4), a.letter (x.toNat % 4 * 16)]
  | [x, y] =>
    [a.letter (x.toNat / 4), a.letter (x.toNat % 4 * 16 + y.toNat / 16),
      a.letter (y.toNat % 16 * 4)]
  | x :: y :: z :: rest =>
    a.letter (x.toNat / 4) :: a.letter (x.toNat % 4 * 16 + y.toNat / 16)
      :: a.letter (y.toNat % 16 * 4 + z.toNat / 64) :: a.letter (z.toNat % 64) :: encode a rest

/-- The octets of six-bit numbers; unused bits have to be zero. -/
def join? : List Nat → Option Bytes
  | [] => some []
  | [_] => none
  | [p, q] => if q % 16 = 0 then some [UInt8.ofNat (p * 4 + q / 16)] else none
  | [p, q, r] =>
    if r % 4 = 0 then some [UInt8.ofNat (p * 4 + q / 16), UInt8.ofNat (q % 16 * 16 + r / 4)]
    else none
  | p :: q :: r :: s :: rest =>
    (join? rest).map fun b =>
      UInt8.ofNat (p * 4 + q / 16) :: UInt8.ofNat (q % 16 * 16 + r / 4)
        :: UInt8.ofNat (r % 4 * 64 + s) :: b

/-- The octets that a text without padding stands for. -/
def decode? (a : Alphabet) (text : List Char) : Option Bytes :=
  (text.mapM a.value?).bind join?

/-- The octets that a text stands for whose last group is filled up with equals signs. -/
def decodePadded? (a : Alphabet) (text : List Char) : Option Bytes :=
  let core := text.takeWhile (· ≠ '=')
  let padding := text.drop core.length
  if padding.all (· = '=') ∧ text.length % 4 = 0 ∧ padding.length ≤ 2 then decode? a core else none

end Base64

end FederationTrust
