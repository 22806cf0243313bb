import FederationTrust.Idna.MappingTable
import FederationTrust.Idna.Normalization
import FederationTrust.Idna.Punycode
import FederationTrust.Text.Blank

/-!
# Domain names in their ASCII form

Domain names are processed as UTS #46 lays down, with the characters that deviate
from the older rules kept, with the checks of joiners and of text direction, and
without checks of hyphens and lengths. ASCII names without encoded labels only become
lower case; of the ASCII characters those that end a host or a port in a URL are
refused, as are controls and blanks.
-/

namespace FederationTrust

namespace Idna

/-- The ASCII characters that no domain name holds. -/
def isForbidden (c : Char) : Bool :=
  c.toNat ≤ 0x20 || c.toNat = 0x7F
    || ['%', '#', '/', ':', '<', '>', '?', '@', '[', '\\', ']', '^', '|'].contains c

def isAscii (c : Char) : Bool :=
  c.toNat < 128

/-- The mark that an encoded label begins with. -/
def isEncoded (label : List Char) : Bool :=
  match label with
  | 'x' :: 'n' :: '-' :: '-' :: _ => true
  | _ => false

def mapPoint? (c : Nat) : Option (List Nat) :=
  if c < 128 then some [(Text.lowerAscii (Char.ofNat c)).toNat]
  else
    (RangeText.find? mappingRanges c).bind fun e =>
      let n := e.numbers.head?.getD 0
      if e.kind = 'V' then some [c]
      else if e.kind = 'I' then some []
      else if e.kind = 'C' then some [n]
      else if e.kind = 'U' then some [c + n]
      else if e.kind = 'D' then some [c - n]
      else if e.kind = 'S' then some e.numbers
      else if e.kind = 'A' then some [if (c - e.first) % 2 = 0 then c + 1 else c]
      else none

def isKept (c : Nat) : Bool :=
  mapPoint? c == some [c]

/-- The joining type as a letter; the letter U stands for none. -/
def joiningType (c : Nat) : Char :=
  ((RangeText.find? joiningRanges c).map (·.kind)).getD 'U'

def bidiClass (c : Nat) : Char :=
  ((RangeText.find? bidiRanges c).map (·.kind)).getD 'L'

def isMark (c : Nat) : Bool :=
  (RangeText.find? markRanges c).isSome

/-- Whether the first character that is not transparent joins toward a joiner. -/
def joins (types : List Char) (cs : List Nat) : Bool :=
  match cs.dropWhile fun c => joiningType c = 'T' with
  | [] => false
  | c :: _ => types.contains (joiningType c)

/-- Whether every joiner after some characters, last first, stands where it has an effect. -/
def joinersValid (before : List Nat) : List Nat → Bool
  | [] => true
  | c :: rest =>
    let afterVirama := before.head?.any fun b => combiningClass b = 9
    (if c = 0x200C then afterVirama || (joins ['L', 'D'] before && joins ['R', 'D'] rest)
      else if c = 0x200D then afterVirama
      else true)
      && joinersValid (c :: before) rest

/-- Whether a label of code points, mapped and normalized, may stand in a domain name. -/
def labelValid (label : List Nat) : Bool :=
  match label with
  | [] => true
  | first :: _ => !isMark first && label.all isKept && joinersValid [] label

/-- The code points of an encoded label, given without its mark. -/
def decodeLabel? (rest : List Char) : Option (List Nat) := do
  let label ← Punycode.decode? rest
  if label.any (128 ≤ ·) ∧ labelValid label ∧ normalize label = label
      ∧ !isEncoded (label.map Char.ofNat)
      ∧ !label.any (fun c => c = 46 || (c < 128 && isForbidden (Char.ofNat c))) then
    some label
  else none

def label? (label : List Nat) : Option (List Nat) :=
  let text := label.map Char.ofNat
  if isEncoded text then decodeLabel? (text.drop 4)
  else if labelValid label then some label
  else none

/-- The classes that a label written to the right may hold, and those that it may end with. -/
def rightward : List Char × List Char :=
  (['L', 'E', 'S', 'C', 'T', 'O', 'B', 'M'], ['L', 'E'])

/-- The same where it is written to the left. -/
def leftward : List Char × List Char :=
  (['R', 'A', 'N', 'E', 'S', 'C', 'T', 'O', 'B', 'M'], ['R', 'A', 'E', 'N'])

/-- Whether the characters of a label agree on its direction. -/
def directionValid (label : List Nat) : Bool :=
  let classes := label.map bidiClass
  let valid (rule : List Char × List Char) : Bool :=
    classes.all rule.1.contains
      && ((classes.reverse.dropWhile (· = 'M')).head?.any rule.2.contains)
  match classes with
  | [] => true
  | first :: _ =>
    if first = 'L' then valid rightward
    else if first = 'R' ∨ first = 'A' then
      valid leftward && !(classes.contains 'E' && classes.contains 'N')
    else false

def hasLeftward (label : List Nat) : Bool :=
  label.any fun c => ['R', 'A', 'N'].contains (bidiClass c)

def asciiLabel (label : List Nat) : List Char :=
  if label.all (· < 128) then label.map Char.ofNat
  else 'x' :: 'n' :: '-' :: '-' :: Punycode.encode label

/-- The ASCII form of a domain name with characters beyond ASCII or encoded labels. -/
def processed? (domain : List Char) : Option (List Char) := do
  let mapped ← domain.mapM fun c => mapPoint? c.toNat
  let text := (normalize mapped.flatten).map Char.ofNat
  if text.any isForbidden then none
  else
    let labels ← (Text.splitAt '.' text).mapM fun l => label? (l.map Char.toNat)
    if labels.any hasLeftward ∧ !labels.all directionValid then none
    else some (['.'].intercalate (labels.map asciiLabel))

def toAscii? (domain : List Char) : Option (List Char) :=
  let lower := domain.map Text.lowerAscii
  if domain.all isAscii ∧ !(Text.splitAt '.' lower).any isEncoded then
    if lower.any isForbidden then none else some lower
  else processed? domain

end Idna

end FederationTrust
