import FederationTrust.Bytes

/-!
# The SHA-2 hash functions

SHA-256, SHA-384 and SHA-512 as one function over a variant that fixes the word
size, the rotations and the starting value. The constants of the 32-bit variant are
the upper halves of those of the 64-bit ones, as both are binary digits of the cube
roots of the first primes.

Words are natural numbers below two to the word size.
-/

namespace FederationTrust

namespace Sha2

/-- Two rotations and a third one, or a shift, that are added without carry. -/
structure Mix where
  first : Nat
  second : Nat
  third : Nat
  deriving Repr

structure Variant where
  wordBits : Nat
  rounds : Nat
  initial : List Nat
  sumA : Mix
  sumE : Mix
  scheduleNear : Mix
  scheduleFar : Mix
  digestBytes : Nat
  deriving Repr

/-- The first 64 binary digits after the point of the cube roots of the first eighty primes. -/
def cubeRoots : List Nat := [
  0x428a2f98d728ae22, 0x7137449123ef65cd, 0xb5c0fbcfec4d3b2f, 0xe9b5dba58189dbbc,
  0x3956c25bf348b538, 0x59f111f1b605d019, 0x923f82a4af194f9b, 0xab1c5ed5da6d8118,
  0xd807aa98a3030242, 0x12835b0145706fbe, 0x243185be4ee4b28c, 0x550c7dc3d5ffb4e2,
  0x72be5d74f27b896f, 0x80deb1fe3b1696b1, 0x9bdc06a725c71235, 0xc19bf174cf692694,
  0xe49b69c19ef14ad2, 0xefbe4786384f25e3, 0x0fc19dc68b8cd5b5, 0x240ca1cc77ac9c65,
  0x2de92c6f592b0275, 0x4a7484aa6ea6e483, 0x5cb0a9dcbd41fbd4, 0x76f988da831153b5,
  0x983e5152ee66dfab, 0xa831c66d2db43210, 0xb00327c898fb213f, 0xbf597fc7beef0ee4,
  0xc6e00bf33da88fc2, 0xd5a79147930aa725, 0x06ca6351e003826f, 0x142929670a0e6e70,
  0x27b70a8546d22ffc, 0x2e1b21385c26c926, 0x4d2c6dfc5ac42aed, 0x53380d139d95b3df,
  0x650a73548baf63de, 0x766a0abb3c77b2a8, 0x81c2c92e47edaee6, 0x92722c851482353b,
  0xa2bfe8a14cf10364, 0xa81a664bbc423001, 0xc24b8b70d0f89791, 0xc76c51a30654be30,
  0xd192e819d6ef5218, 0xd69906245565a910, 0xf40e35855771202a, 0x106aa07032bbd1b8,
  0x19a4c116b8d2d0c8, 0x1e376c085141ab53, 0x2748774cdf8eeb99, 0x34b0bcb5e19b48a8,
  0x391c0cb3c5c95a63, 0x4ed8aa4ae3418acb, 0x5b9cca4f7763e373, 0x682e6ff3d6b2b8a3,
  0x748f82ee5defb2fc, 0x78a5636f43172f60, 0x84c87814a1f0ab72, 0x8cc702081a6439ec,
  0x90befffa23631e28, 0xa4506cebde82bde9, 0xbef9a3f7b2c67915, 0xc67178f2e372532b,
  0xca273eceea26619c, 0xd186b8c721c0c207, 0xeada7dd6cde0eb1e, 0xf57d4f7fee6ed178,
  0x06f067aa72176fba, 0x0a637dc5a2c898a6, 0x113f9804bef90dae, 0x1b710b35131c471b,
  0x28db77f523047d84, 0x32caab7b40c72493, 0x3c9ebe0a15c9bebc, 0x431d67c49c100d4c,
  0x4cc5d4becb3e42b6, 0x597f299cfc657e2a, 0x5fcb6fab3ad6faec, 0x6c44198c4a475817]

/-- The first 64 binary digits after the point of the square roots of the first eight primes. -/
def squareRoots : List Nat := [
  0x6a09e667f3bcc908, 0xbb67ae8584caa73b, 0x3c6ef372fe94f82b, 0xa54ff53a5f1d36f1,
  0x510e527fade682d1, 0x9b05688c2b3e6c1f, 0x1f83d9abfb41bd6b, 0x5be0cd19137e2179]

/-- The same digits for the next eight primes. -/
def nextSquareRoots : List Nat := [
  0xcbbb9d5dc1059ed8, 0x629a292a367cd507, 0x9159015a3070dd17, 0x152fecd8f70e5939,
  0x67332667ffc00b31, 0x8eb44a8768581511, 0xdb0c2e0d64f98fa7, 0x47b5481dbefa4fa4]

def sha256 : Variant where
  wordBits := 32
  rounds := 64
  initial := squareRoots.map (· / Nat.pow 2 32)
  sumA := ⟨2, 13, 22⟩
  sumE := ⟨6, 11, 25⟩
  scheduleNear := ⟨7, 18, 3⟩
  scheduleFar := ⟨17, 19, 10⟩
  digestBytes := 32

def sha512 : Variant where
  wordBits := 64
  rounds := 80
  initial := squareRoots
  sumA := ⟨28, 34, 39⟩
  sumE := ⟨14, 18, 41⟩
  scheduleNear := ⟨1, 8, 7⟩
  scheduleFar := ⟨19, 61, 6⟩
  digestBytes := 64

def sha384 : Variant :=
  { sha512 with initial := nextSquareRoots, digestBytes := 48 }

namespace Variant

variable (v : Variant)

def blockBytes : Nat :=
  2 * v.wordBits

/-- The sum of words, without what a word does not hold. -/
def wrap (n : Nat) : Nat :=
  n % Nat.pow 2 v.wordBits

def rotate (x n : Nat) : Nat :=
  v.wrap ((x >>> n) ||| (x <<< (v.wordBits - n)))

/-- Three rotations of a word, added without carry. -/
def sum (m : Mix) (x : Nat) : Nat :=
  v.rotate x m.first ^^^ v.rotate x m.second ^^^ v.rotate x m.third

/-- Two rotations and a shift of a word, added without carry. -/
def scheduleSum (m : Mix) (x : Nat) : Nat :=
  v.rotate x m.first ^^^ v.rotate x m.second ^^^ (x >>> m.third)

def constants : List Nat :=
  (cubeRoots.take v.rounds).map (· >>> (64 - v.wordBits))

/-- The message filled up to whole blocks: a one bit, zeros, and the length in bits. -/
def padded (message : Bytes) : Bytes :=
  let used := (message.length + 1 + v.wordBits / 4) % v.blockBytes
  message ++ 0x80 :: List.replicate ((v.blockBytes - used) % v.blockBytes) 0
    ++ Bytes.ofNat (v.wordBits / 4) (8 * message.length)

/-- The pieces of a list, each with the same number of members, the last one possibly shorter. -/
def chunks {α : Type} (size : Nat) : Nat → List α → List (List α)
  | 0, _ => []
  | _, [] => []
  | fuel + 1, l => l.take size :: chunks size fuel (l.drop size)

/-- The working values and the next sixteen words of the schedule. -/
structure Working where
  values : List Nat
  window : List Nat

def nextWord : List Nat → Nat
  | [w0, w1, _, _, _, _, _, _, _, w9, _, _, _, _, w14, _] =>
    v.wrap (v.scheduleSum v.scheduleFar w14 + w9 + v.scheduleSum v.scheduleNear w1 + w0)
  | _ => 0

def round (s : Working) (k : Nat) : Working :=
  match s.values, s.window with
  | [a, b, c, d, e, f, g, h], w :: rest =>
    let choice := (e &&& f) ^^^ ((Nat.pow 2 v.wordBits - 1 - e) &&& g)
    let majority := (a &&& b) ^^^ (a &&& c) ^^^ (b &&& c)
    let t := h + v.sum v.sumE e + choice + k + w
    ⟨[v.wrap (t + v.sum v.sumA a + majority), a, b, c, v.wrap (d + t), e, f, g],
      rest ++ [v.nextWord s.window]⟩
  | _, _ => s

/-- The chaining value after a block of sixteen words. -/
def compress (chain : List Nat) (block : List Nat) : List Nat :=
  let last := v.constants.foldl v.round ⟨chain, block⟩
  List.zipWith (fun x y => v.wrap (x + y)) chain last.values

def hash (message : Bytes) : Bytes :=
  let text := v.padded message
  let words := (chunks (v.wordBits / 8) text.length text).map Bytes.toNat
  let chain := (chunks 16 words.length words).foldl v.compress v.initial
  (chain.flatMap (Bytes.ofNat (v.wordBits / 8))).take v.digestBytes

/-- The keyed hash of a message; a key longer than a block is hashed first. -/
def hmac (key message : Bytes) : Bytes :=
  let short := if v.blockBytes < key.length then v.hash key else key
  let block := short ++ List.replicate (v.blockBytes - short.length) 0
  v.hash (block.map (· ^^^ 0x5C) ++ v.hash (block.map (· ^^^ 0x36) ++ message))

end Variant

end Sha2

/-- The SHA-256 hash of a payload as text, with the name of the function in front. -/
def payloadDigest (payload : Bytes) : String :=
  "sha256:" ++ Bytes.toHex (Sha2.sha256.hash payload)

end FederationTrust
