/-!
# Tables of ranges written as text

A table of code points is written as entries with a blank after each: the distance
from the end of the range before, the number of further code points after a point,
a capital letter that says what holds in the range, and numbers with points between
them. All numbers are hexadecimal with lower-case letters.
-/

namespace FederationTrust

namespace RangeText

structure Entry where
  first : Nat
  last : Nat
  kind : Char
  numbers : List Nat
  deriving Repr, Inhabited

/-- An entry being read: the number so far, the numbers before it, last first, and the letter. -/
structure Partial where
  number : Nat
  before : List Nat
  kind : Option Char
  extent : List Nat

/-- Where a reading stands: the next code point, the entry being read, the entries, last first. -/
structure State where
  position : Nat
  entry : Partial
  entries : List Entry

def fresh : Partial := ⟨0, [], none, []⟩

/-- The entry that a blank completes. -/
def finish (s : State) : State :=
  match s.entry.kind with
  | none => s
  | some kind =>
    let gap := s.entry.extent.head?.getD 0
    let first := s.position + gap
    let last := first + (s.entry.extent[1]?).getD 0
    let numbers := (s.entry.number :: s.entry.before).reverse
    ⟨last + 1, fresh, ⟨first, last, kind, numbers⟩ :: s.entries⟩

def step (s : State) (c : Char) : State :=
  let n := c.toNat
  if 48 ≤ n ∧ n ≤ 57 then { s with entry.number := s.entry.number * 16 + (n - 48) }
  else if 97 ≤ n ∧ n ≤ 102 then { s with entry.number := s.entry.number * 16 + (n - 87) }
  else if c = '.' then
    { s with entry := { s.entry with number := 0, before := s.entry.number :: s.entry.before } }
  else if c = ' ' then finish s
  else
    { s with entry := ⟨0, [], some c, (s.entry.number :: s.entry.before).reverse⟩ }

def read (lines : List String) : List Entry :=
  let start : State := ⟨0, fresh, []⟩
  (lines.foldl (fun s (line : String) => line.toList.foldl step s) start).entries.reverse

def find? (entries : List Entry) (n : Nat) : Option Entry :=
  (entries.find? fun e => n ≤ e.last).filter fun e => e.first ≤ n

end RangeText

end FederationTrust
