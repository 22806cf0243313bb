import FederationTrust.Json.Basic
import FederationTrust.Binary64

/-!
# Numbers of a document as machine numbers

A numeral without point and exponent is a whole number. Any other is read as a
binary64 number in steps, each of them rounded: the leading digits that fit 64
bits, then one product or quotient with a power of ten, or several quotients
where the power is beyond the format.
-/

namespace FederationTrust

def wordLimit : Nat := Nat.pow 2 64

namespace Numeral

def word? (n : Numeral) : Option UInt64 :=
  n.nat?.bind fun v => if v < wordLimit then some (UInt64.ofNat v) else none

/-- The number in 64 bits with sign; a zero with a minus sign is no whole number. -/
def int64? (n : Numeral) : Option Int :=
  if n.fraction = [] ∧ n.exponent = none then
    if n.negative then
      if 0 < n.whole ∧ n.whole ≤ Nat.pow 2 63 then some (-(n.whole : Int)) else none
    else if n.whole < Nat.pow 2 63 then some n.whole else none
  else none

/-- Leading digits that fit 64 bits, and how many digits are left out after them. -/
def leading : Nat → Nat → Nat × Nat
  | 0, n => (n, 0)
  | fuel + 1, n =>
    if n < wordLimit then (n, 0)
    else
      let (kept, dropped) := leading fuel (n / 10)
      (kept, dropped + 1)

/-- Digits after the point joined to a significand while 64 bits hold it, and their number. -/
def joinFraction (significand : Nat) : List (Fin 10) → Nat × Nat
  | [] => (significand, 0)
  | d :: rest =>
    if significand * 10 + d.val < wordLimit then
      let (kept, joined) := joinFraction (significand * 10 + d.val) rest
      (kept, joined + 1)
    else (significand, 0)

/-- The power of ten by which the significand is scaled before the written exponent counts. -/
structure Decimal where
  significand : Nat
  power : Int
  deriving DecidableEq, Repr

/-- Significand and power of the digits of a numeral, without its exponent. -/
def decimal (n : Numeral) : Decimal :=
  let (whole, dropped) := leading n.whole n.whole
  let (significand, joined) := joinFraction whole n.fraction
  ⟨significand, (dropped : Int) - joined⟩

/-- The greatest power of ten that the format scales by at once. -/
def powerLimit : Nat := 308

/-- Division by 10 ^ 308 as long as the power is beyond the limit. -/
def scaleDown : Nat → Binary64 → Nat → Option Binary64
  | 0, _, _ => some ⟨0, 0⟩
  | fuel + 1, x, power =>
    if power ≤ powerLimit then
      (Binary64.ofNat? (Nat.pow 10 power)).bind fun p => x.div? p
    else if x.mantissa = 0 then some x
    else do
      let p ← Binary64.ofNat? (Nat.pow 10 powerLimit)
      let x ← x.div? p
      scaleDown fuel x (power - powerLimit)

def scale? (significand : Nat) (power : Int) : Option Binary64 := do
  let x ← Binary64.ofNat? significand
  if 0 ≤ power then
    if power.toNat ≤ powerLimit then
      let p ← Binary64.ofNat? (Nat.pow 10 power.toNat)
      x.mul? p
    else if significand = 0 then some x
    else none
  else scaleDown 8 x (-power).toNat

/-- Beyond this size a written exponent is not added up any more. -/
def exponentLimit : Nat := Nat.pow 2 31 - 1

/-- The power of ten after a written exponent, held within 32 bits. -/
def addExponent (power : Int) (e : Exponent) : Int :=
  if e.negative then max (power - e.size) (-(Nat.pow 2 31 : Nat))
  else min (power + e.size) exponentLimit

/-- The size of the number in the binary64 format, if that has a finite number for it. -/
def magnitude? (n : Numeral) : Option Binary64 :=
  let d := n.decimal
  match n.exponent with
  | none => scale? d.significand d.power
  | some e =>
    if exponentLimit < e.size then
      if d.significand ≠ 0 ∧ e.negative = false then none else some ⟨0, 0⟩
    else scale? d.significand (addExponent d.power e)

/-- The number in the binary64 format rounded toward zero and held within 64 bits with sign. -/
def truncated? (n : Numeral) : Option Int :=
  n.magnitude?.map fun x =>
    if n.negative then max (-(x.floor : Int)) (-(Nat.pow 2 63 : Nat))
    else min (x.floor : Int) ((Nat.pow 2 63 : Nat) - 1)

/-- Whether a generic reader can hold the number. -/
def isFinite (n : Numeral) : Bool :=
  n.magnitude?.isSome

end Numeral

end FederationTrust
