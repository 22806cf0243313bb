/-!
# Modular arithmetic

Powers and inverses of natural numbers modulo a number, by repeated squaring.
-/

namespace FederationTrust

namespace Modular

/-- Repeated squaring over the binary digits of the exponent, the least first. -/
def powFrom (m : Nat) : Nat → Nat → Nat → Nat → Nat
  | 0, _, _, acc => acc
  | fuel + 1, base, e, acc =>
    if e = 0 then acc
    else powFrom m fuel (base * base % m) (e / 2) (if e % 2 = 1 then acc * base % m else acc)

def pow (m base e : Nat) : Nat :=
  powFrom m (Nat.log2 e + 1) (base % m) e (1 % m)

/-- The inverse of a number modulo a prime. -/
def inv (p x : Nat) : Nat :=
  pow p x (p - 2)

/-- The difference modulo `m` of numbers below it. -/
def sub (m x y : Nat) : Nat :=
  (x + m - y) % m

/-- The binary digits of a number, most significant first. -/
def bits (n : Nat) : List Bool :=
  go (Nat.log2 n + 1) n []
where
  /-- Digits are taken from the end. -/
  go : Nat → Nat → List Bool → List Bool
    | 0, _, acc => acc
    | fuel + 1, n, acc => if n = 0 then acc else go fuel (n / 2) ((n % 2 = 1) :: acc)

end Modular

end FederationTrust
