import FederationTrust.Digest.Sha2
import FederationTrust.Signature.Modular

/-!
# ECDSA on the curves P-256 and P-384

Points of `y² = x³ - 3x + b` over a prime field, in coordinates that put off the
division to the end of a computation, the reading of a public point in any of its
encodings, and the verification of a signature made of two numbers.
-/

namespace FederationTrust

namespace Weierstrass

structure Curve where
  prime : Nat
  b : Nat
  baseX : Nat
  baseY : Nat
  order : Nat
  size : Nat
  hash : Sha2.Variant

def p256 : Curve where
  prime := 0xffffffff00000001000000000000000000000000ffffffffffffffffffffffff
  b := 0x5ac635d8aa3a93e7b3ebbd55769886bc651d06b0cc53b0f63bce3c3e27d2604b
  baseX := 0x6b17d1f2e12c4247f8bce6e563a440f277037d812deb33a0f4a13945d898c296
  baseY := 0x4fe342e2fe1a7f9b8ee7eb4a7c0f9e162bce33576b315ececbb6406837bf51f5
  order := 0xffffffff00000000ffffffffffffffffbce6faada7179e84f3b9cac2fc632551
  size := 32
  hash := Sha2.sha256

def p384 : Curve where
  prime := 0xfffffffffffffffffffffffffffffffffffffffffffffffffffffffffffffffeffffffff0000000000000000ffffffff
  b := 0xb3312fa7e23ee7e4988e056be3f82d19181d9c6efe8141120314088f5013875ac656398d8a2ed19d2a85c8edd3ec2aef
  baseX := 0xaa87ca22be8b05378eb1c71ef320ad746e1d3b628ba79b9859f741e082542a385502f25dbf55296c3a545e3872760ab7
  baseY := 0x3617de4a96262c6f5d9e98bf9292dc29f8f41dbd289a147ce9da3113b5f0b8c00a60b1ce1d7e819d7a431d7c90ea0e5f
  order := 0xffffffffffffffffffffffffffffffffffffffffffffffffc7634d81f4372ddf581a0db248b0a77aecec196accc52973
  size := 48
  hash := Sha2.sha384

/-- The point with the coordinates `x / z²` and `y / z³`; without a point where `z` is zero. -/
structure Point where
  x : Nat
  y : Nat
  z : Nat
  deriving DecidableEq, Repr

namespace Curve

variable (c : Curve)

def zero : Point := ⟨1, 1, 0⟩

def cubic (x : Nat) : Nat :=
  (x * x % c.prime * x + (c.prime - 3) * x + c.b) % c.prime

def double (p : Point) : Point :=
  let m := c.prime
  if p.z = 0 ∨ p.y = 0 then zero
  else
    let zz := p.z * p.z % m
    let yy := p.y * p.y % m
    let s := 4 * p.x * yy % m
    let slope := 3 * (Modular.sub m p.x zz) * (p.x + zz) % m
    let x := Modular.sub m (slope * slope % m) (2 * s % m)
    ⟨x, Modular.sub m (slope * Modular.sub m s x % m) (8 * yy * yy % m), 2 * p.y * p.z % m⟩

def add (p q : Point) : Point :=
  let m := c.prime
  if p.z = 0 then q
  else if q.z = 0 then p
  else
    let pzz := p.z * p.z % m
    let qzz := q.z * q.z % m
    let u := p.x * qzz % m
    let v := q.x * pzz % m
    let s := p.y * qzz % m * q.z % m
    let t := q.y * pzz % m * p.z % m
    let h := Modular.sub m v u
    let r := Modular.sub m t s
    if h = 0 then (if r = 0 then c.double p else zero)
    else
      let hh := h * h % m
      let hhh := hh * h % m
      let uhh := u * hh % m
      let x := Modular.sub m (Modular.sub m (r * r % m) hhh) (2 * uhh % m)
      ⟨x, Modular.sub m (r * Modular.sub m uhh x % m) (s * hhh % m), p.z * q.z % m * h % m⟩

def multiply (k : Nat) (p : Point) : Point :=
  (Modular.bits k).foldl (fun acc bit => if bit then c.add (c.double acc) p else c.double acc) zero

/-- The first coordinate of a point other than the neutral element. -/
def affineX? (p : Point) : Option Nat :=
  if p.z = 0 then none
  else some (p.x * Modular.inv c.prime (p.z * p.z % c.prime) % c.prime)

/-- The point with a first coordinate and an odd or even second one. -/
def lift? (x : Nat) (odd : Bool) : Option Point :=
  if c.prime ≤ x then none
  else
    let y := Modular.pow c.prime (c.cubic x) ((c.prime + 1) / 4)
    if y * y % c.prime ≠ c.cubic x then none
    else if (y % 2 = 1) = odd then some ⟨x, y, 1⟩
    else some ⟨x, (c.prime - y) % c.prime, 1⟩

/-- The public point that octets encode: both coordinates, or the first one and a sign. -/
def point? : Bytes → Option Point
  | [] => none
  | form :: rest =>
    let x := Bytes.toNat (rest.take c.size)
    if form = 4 then
      let y := Bytes.toNat (rest.drop c.size)
      if rest.length = 2 * c.size ∧ x < c.prime ∧ y < c.prime ∧ y * y % c.prime = c.cubic x then
        some ⟨x, y, 1⟩
      else none
    else if rest.length = c.size then
      if form = 2 ∨ form = 5 then c.lift? x false
      else if form = 3 then c.lift? x true
      else none
    else none

/-- Whether a signature of two numbers, each in as many octets as the order, fits the message. -/
def verify (key : Point) (message signature : Bytes) : Bool :=
  let r := Bytes.toNat (signature.take c.size)
  let s := Bytes.toNat (signature.drop c.size)
  if signature.length = 2 * c.size ∧ 0 < r ∧ r < c.order ∧ 0 < s ∧ s < c.order then
    let w := Modular.inv c.order s
    let e := Bytes.toNat (c.hash.hash message) % c.order
    let base : Point := ⟨c.baseX, c.baseY, 1⟩
    let ofHash := c.multiply (e * w % c.order) base
    match c.affineX? (c.add ofHash (c.multiply (r * w % c.order) key)) with
    | some x => x % c.order == r
    | none => false
  else false

end Curve

end Weierstrass

end FederationTrust
