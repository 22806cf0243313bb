/-!
# Punycode

Labels of code points as ASCII letters, digits and hyphens: the ASCII characters
first, then a hyphen if there are any, then the others as insertions in the order of
their code points, each insertion a number in a mixed radix that adapts to the
numbers before it.
-/

namespace FederationTrust

namespace Punycode

/-- The radix of a digit at a place, which the bias moves between the least and the greatest one. -/
def threshold (bias k : Nat) : Nat :=
  if k ≤ bias then 1 else if bias + 26 ≤ k then 26 else k - bias

/-- How often a number can be divided before it is small, and what is left then. -/
def reduce : Nat → Nat → Nat → Nat × Nat
  | 0, k, delta => (k, delta)
  | fuel + 1, k, delta => if 455 < delta then reduce fuel (k + 36) (delta / 35) else (k, delta)

def adapt (delta count : Nat) (first : Bool) : Nat :=
  let scaled := if first then delta / 700 else delta / 2
  let start := scaled + scaled / count
  let (k, delta) := reduce (Nat.log2 start + 1) 0 start
  k + 36 * delta / (delta + 38)

def digitChar (d : Nat) : Char :=
  if d < 26 then Char.ofNat (97 + d) else Char.ofNat (22 + d)

def digit? (c : Char) : Option Nat :=
  let n := c.toNat
  if 97 ≤ n ∧ n ≤ 122 then some (n - 97)
  else if 65 ≤ n ∧ n ≤ 90 then some (n - 65)
  else if 48 ≤ n ∧ n ≤ 57 then some (n - 22)
  else none

/-- The digits of a number, the last one below its radix. -/
def digitsFrom (bias : Nat) : Nat → Nat → Nat → List Char
  | 0, _, q => [digitChar q]
  | fuel + 1, k, q =>
    let t := threshold bias k
    if q < t then [digitChar q]
    else digitChar (t + (q - t) % (36 - t)) :: digitsFrom bias fuel (k + 36) ((q - t) / (36 - t))

def digitsOf (bias q : Nat) : List Char :=
  digitsFrom bias (Nat.log2 q + 1) 36 q

/-- The number that digits begin with, and the digits after it. -/
def number? (bias : Nat) : Nat → Nat → Nat → List Nat → Option (Nat × List Nat)
  | _, _, _, [] => none
  | k, weight, sum, d :: rest =>
    let sum := sum + d * weight
    let t := threshold bias k
    if d < t then some (sum, rest) else number? bias (k + 36) (weight * (36 - t)) sum rest

structure Writing where
  delta : Nat
  bias : Nat
  handled : Nat
  basic : Nat
  output : List Char

/-- The occurrences of one code point are written. -/
def writePoint (n : Nat) (w : Writing) (c : Nat) : Writing :=
  if c < n then { w with delta := w.delta + 1 }
  else if c = n then
    { w with
      delta := 0
      bias := adapt w.delta (w.handled + 1) (w.handled == w.basic)
      handled := w.handled + 1
      output := w.output ++ digitsOf w.bias w.delta }
  else w

/-- The code points from `n` on are written in their order. -/
def writeFrom (input : List Nat) : Nat → Nat → Writing → Writing
  | 0, _, w => w
  | fuel + 1, n, w =>
    match (input.filter (n ≤ ·)).min? with
    | none => w
    | some m =>
      let w := { w with delta := w.delta + (m - n) * (w.handled + 1) }
      let w := input.foldl (writePoint m) w
      writeFrom input fuel (m + 1) { w with delta := w.delta + 1 }

def encode (input : List Nat) : List Char :=
  let basic := input.filter (· < 128)
  let start := basic.map Char.ofNat ++ if basic.isEmpty then [] else ['-']
  (writeFrom input input.length 128 ⟨0, 72, basic.length, basic.length, start⟩).output

/-- The insertions that digits describe, made one after another. -/
def readFrom : Nat → Nat → Nat → Nat → List Nat → List Nat → Option (List Nat)
  | _, _, _, _, output, [] => some output
  | 0, _, _, _, _, _ => none
  | fuel + 1, n, i, bias, output, digits => do
    let (sum, rest) ← number? bias 36 1 i digits
    let count := output.length + 1
    let n := n + sum / count
    let place := sum % count
    if n.isValidChar then
      readFrom fuel n (place + 1) (adapt (sum - i) count (i == 0)) (output.insertIdx place n) rest
    else none

/-- The characters before the last hyphen, if there is one, and those after it. -/
def splitLastHyphen (label : List Char) : List Char × List Char :=
  let after := label.reverse.takeWhile (· ≠ '-')
  if after.length = label.length then ([], label)
  else (label.take (label.length - after.length - 1), after.reverse)

def decode? (label : List Char) : Option (List Nat) := do
  let (basic, digits) := splitLastHyphen label
  if basic = [] ∧ digits.length < label.length then none
  else if basic.any (128 ≤ ·.toNat) then none
  else
    let digits ← digits.mapM digit?
    readFrom digits.length 128 0 72 (basic.map Char.toNat) digits

end Punycode

end FederationTrust
