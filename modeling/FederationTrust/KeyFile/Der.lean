import FederationTrust.Bytes
import FederationTrust.Calendar

/-!
# Generic reading of DER

A key or certificate is read as a tree of elements without a schema. The content of
the universal string, time and number types is checked; elements of other classes
are taken as they are. A sequence or set has at least one element.
-/

namespace FederationTrust

namespace Der

/-- An element, as far as the search for a key looks at it. -/
inductive Element where
  | objectId (arcs : List Nat)
  | bitString (content : Bytes)
  | octetString (content : Bytes)
  | sequence (elements : List Element)
  | other
  deriving Repr, Inhabited

/-- A number in base 128, whose last octet has no top bit, and the octets after it. -/
def base128? (n : Nat) : Bytes → Option (Nat × Bytes)
  | [] => none
  | b :: rest =>
    let n := n * 128 + b.toNat % 128
    if b.toNat < 128 then some (n, rest) else base128? n rest

def arcs? : Nat → Bytes → Option (List Nat)
  | _, [] => some []
  | 0, _ => none
  | fuel + 1, b => do
    let (n, rest) ← base128? 0 b
    let more ← arcs? fuel rest
    some (n :: more)

/-- The arcs of an object identifier; the first octet holds two of them. -/
def objectId? : Bytes → Option (List Nat)
  | [] => none
  | b :: rest => do
    let more ← arcs? rest.length rest
    let n := b.toNat
    some (if n < 40 then 0 :: n :: more else if n < 80 then 1 :: (n - 40) :: more
      else 2 :: (n - 80) :: more)

/-- The class, form and number of a tag, and the octets after it. -/
structure Tag where
  universal : Bool
  number : Nat
  deriving DecidableEq, Repr

def tag? : Bytes → Option (Tag × Bytes)
  | [] => none
  | b :: rest =>
    if b.toNat % 32 = 31 then (base128? 0 rest).map fun r => (⟨b.toNat < 64, r.1⟩, r.2)
    else some (⟨b.toNat < 64, b.toNat % 32⟩, rest)

/-- The length at the beginning: one octet below 128, or up to eight octets after their number. -/
def length? : Bytes → Option (Nat × Bytes)
  | [] => none
  | b :: rest =>
    if b.toNat < 128 then some (b.toNat, rest)
    else
      let width := b.toNat - 128
      if 8 < width ∨ rest.length < width then none
      else some (Bytes.toNat (rest.take width), rest.drop width)

def digits? (b : Bytes) : Option Nat :=
  if b ≠ [] ∧ b.all (fun x => 48 ≤ x && x ≤ 57) then
    some (b.foldl (fun n x => n * 10 + (x.toNat - 48)) 0)
  else none

/-- Whether a year of the given width, then month, day, hour, minute and second stand here. -/
def isMoment (year : Int) (b : Bytes) : Bool :=
  match digits? (b.take 2), digits? ((b.drop 2).take 2), digits? ((b.drop 4).take 2),
      digits? ((b.drop 6).take 2), digits? ((b.drop 8).take 2) with
  | some month, some day, some hour, some minute, some second =>
    (Date.mk year month day).isValid && hour < 24 && minute < 60 && second < 60
  | _, _, _, _, _ => false

/-- Whether the content is a time with a year of two digits. -/
def isShortTime (b : Bytes) : Bool :=
  b.length = 13 && b.drop 12 == [90] &&
    match digits? (b.take 2) with
    | some y => isMoment (if 50 ≤ y then 1900 + y else 2000 + y) (b.drop 2)
    | none => false

/-- Whether the content is a time with a year of four digits and perhaps a fraction of a second. -/
def isLongTime (b : Bytes) : Bool :=
  15 ≤ b.length && b.getLast? == some 90 &&
    match digits? (b.take 4) with
    | some y =>
      isMoment y (b.drop 4) &&
        match (b.drop 14).dropLast with
        | [] => true
        | point :: fraction => point = 46 && (digits? fraction).isSome && fraction.length ≤ 9
    | none => false

def isPrintable (b : UInt8) : Bool :=
  (48 ≤ b && b ≤ 57) || (65 ≤ b && b ≤ 90) || (97 ≤ b && b ≤ 122)
    || [32, 39, 40, 41, 43, 44, 45, 46, 47, 58, 61, 63].contains b

/-- Whether UTF-16 units, most significant octet first, pair their surrogates. -/
def pairsSurrogates : Bytes → Bool
  | [] => true
  | [_] => true
  | high :: _ :: rest =>
    if 0xD8 ≤ high ∧ high < 0xDC then
      match rest with
      | low :: _ :: rest => 0xDC ≤ low && low < 0xE0 && pairsSurrogates rest
      | _ => false
    else !(0xDC ≤ high && high < 0xE0) && pairsSurrogates rest

/-- The element of a universal type that holds no other elements. -/
def primitive? (number : Nat) (content : Bytes) : Option Element :=
  let accept (ok : Bool) : Option Element := if ok then some .other else none
  match number with
  | 1 => accept (content.length = 1)
  | 3 =>
    match content with
    | [] => some (.bitString [])
    | unused :: bits => if unused.toNat ≤ 8 * bits.length then some (.bitString bits) else none
  | 4 => some (.octetString content)
  | 6 => (objectId? content).map .objectId
  | 12 | 20 | 28 => accept (Bytes.text? content).isSome
  | 19 => accept (content.all isPrintable)
  | 22 => accept (content.all (· < 128))
  | 23 => accept (isShortTime content)
  | 24 => accept (isLongTime content)
  | 30 => accept (pairsSurrogates content)
  | _ => some .other

/-- One or more elements up to the end of the octets. -/
def elements? : Nat → Bytes → Option (List Element)
  | 0, _ => none
  | fuel + 1, b => do
    let (tag, b) ← tag? b
    let (size, b) ← length? b
    if b.length < size then none
    else
      let content := b.take size
      let element ←
        if !tag.universal then some .other
        else if tag.number = 16 then (elements? fuel content).map .sequence
        else if tag.number = 17 then (elements? fuel content).map fun _ => .other
        else primitive? tag.number content
      if b.length = size then some [element]
      else (elements? fuel (b.drop size)).map (element :: ·)

def read? (b : Bytes) : Option (List Element) :=
  elements? (b.length + 1) b

mutual

/-- The first object identifier, depth first, for which a choice is made. -/
def findObjectId {α : Type} (choose : List Nat → Option α) : List Element → Option α
  | [] => none
  | e :: rest =>
    match inElement choose e with
    | some a => some a
    | none => findObjectId choose rest

def inElement {α : Type} (choose : List Nat → Option α) : Element → Option α
  | .objectId arcs => choose arcs
  | .sequence elements => findObjectId choose elements
  | _ => none

end

mutual

/-- The content of the first bit string or octet string, depth first. -/
def findString : List Element → Option Bytes
  | [] => none
  | e :: rest =>
    match stringOf e with
    | some b => some b
    | none => findString rest

def stringOf : Element → Option Bytes
  | .bitString b => some b
  | .octetString b => some b
  | .sequence elements => findString elements
  | _ => none

end

/-- A DER length in its shortest form, below the limit of two length octets. -/
def strictLength? : Bytes → Option (Nat × Bytes)
  | 0x81 :: n :: rest => if 128 ≤ n.toNat then some (n.toNat, rest) else none
  | 0x82 :: h :: l :: rest => if h ≠ 0 then some (h.toNat * 256 + l.toNat, rest) else none
  | n :: rest => if n.toNat < 128 then some (n.toNat, rest) else none
  | [] => none

/-- The content of an element with the given tag octet, and the octets after it. -/
def strictElement? (tag : UInt8) : Bytes → Option (Bytes × Bytes)
  | t :: rest => do
    let (size, rest) ← strictLength? rest
    if t = tag ∧ size ≤ rest.length then some (rest.take size, rest.drop size) else none
  | [] => none

/-- A natural number in its shortest form, and the octets after it. -/
def strictNat? (b : Bytes) : Option (Nat × Bytes) := do
  let (content, rest) ← strictElement? 2 b
  match content with
  | [] => none
  | [x] => if x.toNat < 128 then some (x.toNat, rest) else none
  | x :: y :: _ =>
    if x.toNat < 128 ∧ ¬(x = 0 ∧ y.toNat < 128) then some (Bytes.toNat content, rest) else none

def natPair? (b : Bytes) : Option (Nat × Nat) := do
  let (content, after) ← strictElement? 0x30 b
  let (x, content) ← strictNat? content
  let (y, content) ← strictNat? content
  if after = [] ∧ content = [] then some (x, y) else none

end Der

end FederationTrust
