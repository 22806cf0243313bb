/-!
# Rounding to binary floating point

A finite non-negative number of the binary64 format, as a mantissa and a power of
two. The nearest such number to a quotient of natural numbers is chosen in exact
arithmetic, a tie going to the even mantissa; quotients of 2^1024 and more, after
rounding, have none.
-/

namespace FederationTrust

/-- The number `mantissa * 2 ^ exponent`. -/
structure Binary64 where
  mantissa : Nat
  exponent : Int
  deriving DecidableEq, Repr, Inhabited

namespace Binary64

/-- The quotient of two numbers rounded to a whole number, a half going to the even neighbour. -/
def roundDiv (num den : Nat) : Nat :=
  let q := num / den
  let r := num % den
  if den < 2 * r ∨ (den = 2 * r ∧ q % 2 = 1) then q + 1 else q

/-- The numerator of `x * 2 ^ e` over the denominator `den x e`. -/
private def scaleNum (x : Nat) (e : Int) : Nat :=
  x * Nat.pow 2 e.toNat

/-- The denominator `2 ^ -e` where the power is negative. -/
private def scaleDen (e : Int) : Nat :=
  Nat.pow 2 (-e).toNat

/-- The power of two for which the quotient has 53 binary digits, or the least there is. -/
def scaleOf (num den : Nat) : Int :=
  let guess : Int := (Nat.log2 num : Int) - (Nat.log2 den : Int) - 52
  let quotient := scaleNum num (-guess) / scaleDen (-guess)
  let e := if quotient < den * Nat.pow 2 52 then guess - 1 else guess
  max e (-1074)

/-- The number nearest to a quotient. -/
def nearest? (num den : Nat) : Option Binary64 :=
  if num = 0 then some ⟨0, 0⟩
  else
    let e := scaleOf num den
    let m := roundDiv (scaleNum num (-e)) (den * scaleDen (-e))
    if Nat.pow 2 1024 ≤ scaleNum m e / scaleDen e then none else some ⟨m, e⟩

def ofNat? (n : Nat) : Option Binary64 :=
  nearest? n 1

def mul? (a b : Binary64) : Option Binary64 :=
  let e := a.exponent + b.exponent
  nearest? (scaleNum (a.mantissa * b.mantissa) e) (scaleDen e)

def div? (a b : Binary64) : Option Binary64 :=
  let e := a.exponent - b.exponent
  nearest? (scaleNum a.mantissa e) (b.mantissa * scaleDen e)

def floor (a : Binary64) : Nat :=
  scaleNum a.mantissa a.exponent / scaleDen a.exponent

end Binary64

end FederationTrust
