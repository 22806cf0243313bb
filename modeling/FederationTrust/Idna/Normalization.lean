import FederationTrust.Idna.CompositionTable
import FederationTrust.Idna.PropertyTable

/-!
# Canonical composition

The composed normal form of code points that domain names may hold: every character
is taken apart, marks are put in the order of their combining classes, and what can
be composed is composed again.
-/

namespace FederationTrust

namespace Idna

def combiningClass (c : Nat) : Nat :=
  ((RangeText.find? combiningRanges c).bind fun e => e.numbers.head?).getD 0

def hangulParts (c : Nat) : List Nat :=
  let s := c - 0xAC00
  [0x1100 + s / 588, 0x1161 + s % 588 / 28] ++ if s % 28 = 0 then [] else [0x11A7 + s % 28]

def decompose : Nat → Nat → List Nat
  | 0, c => [c]
  | fuel + 1, c =>
    if 0xAC00 ≤ c ∧ c < 0xAC00 + 11172 then hangulParts c
    else if c < 0xC0 then [c]
    else
      match RangeText.find? compositions c with
      | some e => e.numbers.flatMap (decompose fuel)
      | none => [c]

/-- A character put behind others, last first, and before the marks of a greater class. -/
def place (c : Nat) : List Nat → List Nat
  | [] => [c]
  | d :: rest =>
    if 0 < combiningClass c ∧ combiningClass c < combiningClass d then d :: place c rest
    else c :: d :: rest

def ordered (cs : List Nat) : List Nat :=
  (cs.foldl (fun before c => place c before) []).reverse

def compose? (a b : Nat) : Option Nat :=
  if 0x1100 ≤ a ∧ a < 0x1113 ∧ 0x1161 ≤ b ∧ b < 0x1176 then
    some (0xAC00 + ((a - 0x1100) * 21 + (b - 0x1161)) * 28)
  else if 0xAC00 ≤ a ∧ a < 0xAC00 + 11172 ∧ (a - 0xAC00) % 28 = 0 ∧ 0x11A7 < b ∧ b < 0x11C3 then
    some (a + (b - 0x11A7))
  else (compositions.find? fun e => e.numbers == [a, b]).map (·.first)

/-- A starter being composed, the marks after it that stay, last first, and what is to come. -/
def composeFrom (starter : Option Nat) (marks : List Nat) : List Nat → List Nat
  | [] => starter.toList ++ marks.reverse
  | c :: rest =>
    let reachable := match marks with
      | [] => true
      | m :: _ => combiningClass m < combiningClass c
    match (if reachable then starter.bind (compose? · c) else none) with
    | some composed => composeFrom (some composed) marks rest
    | none =>
      if combiningClass c = 0 then starter.toList ++ marks.reverse ++ composeFrom (some c) [] rest
      else composeFrom starter (c :: marks) rest

def normalize (cs : List Nat) : List Nat :=
  composeFrom none [] (ordered (cs.flatMap (decompose 4)))

end Idna

end FederationTrust
