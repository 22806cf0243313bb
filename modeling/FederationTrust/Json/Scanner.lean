import FederationTrust.Json.Basic

/-!
# JSON tokens

The scanner reads a document one octet at a time and says after each octet which
tokens are complete. A number is complete only at the octet after it, so an octet
may complete two tokens.

Between quotation marks any octet from U+0020 on may stand, well-formed UTF-8 or
not, and an escape may name any UTF-16 unit; whether the content is text is
settled when the string ends.
-/

namespace FederationTrust

namespace Json

inductive Token where
  | openArray
  | closeArray
  | openObject
  | closeObject
  | comma
  | colon
  | null
  | bool (b : Bool)
  | number (n : Numeral)
  | string (s : Option String)
  deriving Inhabited, Repr

/-- A piece of a string: an octet, or a UTF-16 unit written with four hexadecimal digits. -/
inductive Piece where
  | octet (b : UInt8)
  | unit (u : Nat)
  deriving DecidableEq, Repr

namespace Piece

/-- The octets that the pieces spell, unless a surrogate stands without its partner. -/
def bytes? : List Piece → Option Bytes
  | [] => some []
  | .octet b :: rest => (bytes? rest).map (b :: ·)
  | .unit u :: rest =>
    if 0xD800 ≤ u ∧ u < 0xDC00 then
      match rest with
      | .unit v :: rest =>
        if 0xDC00 ≤ v ∧ v < 0xE000 then
          let c := Char.ofNat (0x10000 + (u - 0xD800) * 0x400 + (v - 0xDC00))
          (bytes? rest).map (String.utf8EncodeChar c ++ ·)
        else none
      | _ => none
    else if 0xDC00 ≤ u ∧ u < 0xE000 then none
    else (bytes? rest).map (String.utf8EncodeChar (Char.ofNat u) ++ ·)

/-- The text that the pieces spell, if they spell one. -/
def text? (pieces : List Piece) : Option String :=
  (bytes? pieces).bind Bytes.text?

end Piece

/-- Which part of a number the last octet belongs to. -/
inductive NumeralPart where
  | sign
  | zero
  | whole
  | point
  | fraction
  | mark
  | markSign
  | exponent
  deriving DecidableEq, Repr

/-- A number being read; the digits after the point are kept last first. -/
structure NumeralSoFar where
  part : NumeralPart
  negative : Bool
  whole : Nat
  fraction : List (Fin 10)
  exponentNegative : Bool
  exponent : Nat
  deriving DecidableEq, Repr

namespace NumeralSoFar

/-- The number after a first octet that can begin one. -/
def start? (b : UInt8) : Option NumeralSoFar :=
  if b = 0x2D then some ⟨.sign, true, 0, [], false, 0⟩
  else if b = 0x30 then some ⟨.zero, false, 0, [], false, 0⟩
  else if 0x31 ≤ b ∧ b ≤ 0x39 then some ⟨.whole, false, b.toNat - 48, [], false, 0⟩
  else none

/-- The number one octet longer, if the octet belongs to it. -/
def extend? (n : NumeralSoFar) (b : UInt8) : Option NumeralSoFar :=
  if 0x30 ≤ b ∧ b ≤ 0x39 then
    let d := b.toNat - 48
    match n.part with
    | .sign => some { n with part := if d = 0 then .zero else .whole, whole := d }
    | .zero => none
    | .whole => some { n with whole := n.whole * 10 + d }
    | .point | .fraction =>
      some { n with part := .fraction, fraction := Fin.ofNat 10 d :: n.fraction }
    | .mark | .markSign | .exponent =>
      some { n with part := .exponent, exponent := n.exponent * 10 + d }
  else if b = 0x2E then
    match n.part with
    | .zero | .whole => some { n with part := .point }
    | _ => none
  else if b = 0x65 ∨ b = 0x45 then
    match n.part with
    | .zero | .whole | .fraction => some { n with part := .mark }
    | _ => none
  else if b = 0x2B ∨ b = 0x2D then
    match n.part with
    | .mark => some { n with part := .markSign, exponentNegative := b = 0x2D }
    | _ => none
  else none

def finish? (n : NumeralSoFar) : Option Numeral :=
  match n.part with
  | .zero | .whole | .fraction => some ⟨n.negative, n.whole, n.fraction.reverse, none⟩
  | .exponent =>
    some ⟨n.negative, n.whole, n.fraction.reverse, some ⟨n.exponentNegative, n.exponent⟩⟩
  | _ => none

end NumeralSoFar

/-- Where the scanner stands; the pieces of a string are kept last first. -/
inductive Scanner where
  | between
  | string (pieces : List Piece)
  | escape (pieces : List Piece)
  | unit (pieces : List Piece) (digits value : Nat)
  | number (n : NumeralSoFar)
  | word (rest : Bytes) (token : Token)
  deriving Inhabited, Repr

namespace Scanner

/-- One octet that does not continue a number, string or word. -/
def fresh? (b : UInt8) : Option (List Token × Scanner) :=
  if b = 0x20 ∨ b = 0x09 ∨ b = 0x0A ∨ b = 0x0D then some ([], .between)
  else if b = 0x22 then some ([], .string [])
  else if b = 0x5B then some ([.openArray], .between)
  else if b = 0x5D then some ([.closeArray], .between)
  else if b = 0x7B then some ([.openObject], .between)
  else if b = 0x7D then some ([.closeObject], .between)
  else if b = 0x2C then some ([.comma], .between)
  else if b = 0x3A then some ([.colon], .between)
  else if b = 0x6E then some ([], .word [0x75, 0x6C, 0x6C] .null)
  else if b = 0x74 then some ([], .word [0x72, 0x75, 0x65] (.bool true))
  else if b = 0x66 then some ([], .word [0x61, 0x6C, 0x73, 0x65] (.bool false))
  else (NumeralSoFar.start? b).map fun n => ([], .number n)

def escaped? (b : UInt8) : Option UInt8 :=
  if b = 0x22 ∨ b = 0x5C ∨ b = 0x2F then some b
  else if b = 0x62 then some 0x08
  else if b = 0x66 then some 0x0C
  else if b = 0x6E then some 0x0A
  else if b = 0x72 then some 0x0D
  else if b = 0x74 then some 0x09
  else none

/-- One octet: the tokens that it completes and where the scanner stands after it. -/
def step? : Scanner → UInt8 → Option (List Token × Scanner)
  | .between, b => fresh? b
  | .string pieces, b =>
    if b = 0x22 then some ([.string (Piece.text? pieces.reverse)], .between)
    else if b = 0x5C then some ([], .escape pieces)
    else if b < 0x20 then none
    else some ([], .string (.octet b :: pieces))
  | .escape pieces, b =>
    if b = 0x75 then some ([], .unit pieces 0 0)
    else (escaped? b).map fun x => ([], .string (.octet x :: pieces))
  | .unit pieces digits value, b =>
    (Bytes.hexValue? b).map fun d =>
      if digits = 3 then ([], .string (.unit (value * 16 + d) :: pieces))
      else ([], .unit pieces (digits + 1) (value * 16 + d))
  | .number n, b =>
    match n.extend? b with
    | some n => some ([], .number n)
    | none => do
      let numeral ← n.finish?
      let (tokens, next) ← fresh? b
      some (.number numeral :: tokens, next)
  | .word [] _, _ => none
  | .word [x] token, b => if b = x then some ([token], .between) else none
  | .word (x :: rest) token, b => if b = x then some ([], .word rest token) else none

def finish? : Scanner → Option (List Token)
  | .between => some []
  | .number n => n.finish?.map fun numeral => [.number numeral]
  | _ => none

end Scanner

end Json

end FederationTrust
