import FederationTrust.Digest.Sha2
import FederationTrust.Signature.Modular

/-!
# Ed25519 signatures

Points of the twisted Edwards curve over the integers modulo `2^255 - 19`. A
signature fits when the point computed from its number and the key has exactly the
encoding that the signature begins with; the number has to be below the order of
the base point. A key whose second coordinate is not reduced is taken as it is.
-/

namespace FederationTrust

namespace Edwards

def prime : Nat := Nat.pow 2 255 - 19

def order : Nat := Nat.pow 2 252 + 27742317777372353535851937790883648493

def d : Nat := 0x52036cee2b6ffe738cc740797779e89800700a4d4141d8ab75eb4dca135978a3

def rootOfMinusOne : Nat := 0x2b8324804fc1df0b2b4d00993dfbd7a72f431806ad2fe478c4ee1b274a0ea0b0

/-- The point with the coordinates `x / z` and `y / z`, where `x * y = t * z`. -/
structure Point where
  x : Nat
  y : Nat
  z : Nat
  t : Nat
  deriving DecidableEq, Repr

def zero : Point := ⟨0, 1, 1, 0⟩

def ofAffine (x y : Nat) : Point :=
  ⟨x, y, 1, x * y % prime⟩

def base : Point :=
  ofAffine 0x216936d3cd6e53fec0a4e231fdd6dc5c692cc7609525a7b2c9562d608f25d51a
    0x6666666666666666666666666666666666666666666666666666666666666658

def add (p q : Point) : Point :=
  let a := Modular.sub prime p.y p.x * Modular.sub prime q.y q.x % prime
  let b := (p.y + p.x) * (q.y + q.x) % prime
  let c := 2 * p.t * q.t % prime * d % prime
  let e := 2 * p.z * q.z % prime
  let f := Modular.sub prime e c
  let g := (e + c) % prime
  let h := (b + a) % prime
  let k := Modular.sub prime b a
  ⟨k * f % prime, g * h % prime, f * g % prime, k * h % prime⟩

def neg (p : Point) : Point :=
  ⟨(prime - p.x) % prime, p.y, p.z, (prime - p.t) % prime⟩

def multiply (k : Nat) (p : Point) : Point :=
  (Modular.bits k).foldl (fun acc bit => if bit then add (add acc acc) p else add acc acc) zero

/-- The encoding of a point: its second coordinate and the parity of the first. -/
def encode (p : Point) : Bytes :=
  let w := Modular.inv prime p.z
  let x := p.x * w % prime
  let y := p.y * w % prime
  Bytes.ofNatLE 32 (y + (x % 2) * Nat.pow 2 255)

def decode? (b : Bytes) : Option Point :=
  let n := Bytes.toNatLE b
  let y := n % Nat.pow 2 255 % prime
  let odd := n / Nat.pow 2 255
  let u := Modular.sub prime (y * y % prime) 1
  let v := (d * (y * y % prime) + 1) % prime
  let square := u * Modular.inv prime v % prime
  let r := Modular.pow prime square ((prime + 3) / 8)
  let x := if r * r % prime = square then r else r * rootOfMinusOne % prime
  if b.length ≠ 32 ∨ x * x % prime ≠ square then none
  else some (ofAffine (if x % 2 = odd then x else (prime - x) % prime) y)

/-- Whether a signature of 64 octets fits the message under a key, given as point and as octets. -/
def verify (key : Point) (keyBytes message signature : Bytes) : Bool :=
  let r := signature.take 32
  let s := Bytes.toNatLE (signature.drop 32)
  if signature.length = 64 ∧ s < order then
    let k := Bytes.toNatLE (Sha2.sha512.hash (r ++ keyBytes ++ message)) % order
    encode (add (multiply s base) (multiply k (neg key))) == r
  else false

end Edwards

end FederationTrust
