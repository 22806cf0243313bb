import FederationTrust.Idna.Domain
import FederationTrust.Url.Percent

/-!
# Hosts of URLs

A host is a domain name, an address of four octets or an address of eight groups. A
name whose last label is a number has to be an address; numbers may be decimal, octal
or hexadecimal, and fewer than four fill up the last one. Outside the schemes of the
web a host is taken as it is, apart from the characters that cannot stand in one.
-/

namespace FederationTrust

namespace Url

/-- A host; a name without characters is the host of a URL that has none. -/
inductive Host where
  | name (text : List Char)
  | ipv4 (address : Nat)
  | ipv6 (groups : List Nat)
  deriving DecidableEq, Repr, Inhabited

def radixValue? (radix : Nat) (digits : List Char) : Option Nat := do
  let values ← digits.mapM fun c =>
    if c.toNat < 128 then Bytes.hexValue? (UInt8.ofNat c.toNat) else none
  if values.all (· < radix) then some (values.foldl (fun n d => n * radix + d) 0) else none

/-- The number of a label, if it is one; a number may be too large for an address. -/
def labelNumber? (label : List Char) : Option Nat :=
  match label with
  | [] => none
  | '0' :: 'x' :: rest | '0' :: 'X' :: rest => radixValue? 16 rest
  | '0' :: c :: rest => radixValue? 8 (c :: rest)
  | _ => radixValue? 10 label

/-- The labels of a domain name, without the empty one after a last point. -/
def hostLabels (domain : List Char) : List (List Char) :=
  let labels := Text.splitAt '.' domain
  if labels.getLast? = some [] then labels.dropLast else labels

def isDigits (label : List Char) : Bool :=
  !label.isEmpty && label.all fun c => (Text.digit? c).isSome

def endsInNumber (domain : List Char) : Bool :=
  match (hostLabels domain).getLast? with
  | none => false
  | some last => isDigits last || (labelNumber? last).isSome

/-- The address that numbers write: the last one fills all octets that the others leave. -/
def joinAddress? (numbers : List Nat) : Option Nat :=
  match numbers.reverse with
  | [] => none
  | last :: before =>
    let limit := Nat.pow 256 (4 - before.length)
    if 3 < before.length ∨ before.any (255 < ·) ∨ limit ≤ last then none
    else some ((before.reverse.foldl (fun n d => n * 256 + d) 0) * limit + last)

def ipv4? (domain : List Char) : Option Nat :=
  ((hostLabels domain).mapM labelNumber?).bind joinAddress?

def group? (field : List Char) : Option Nat :=
  if 1 ≤ field.length ∧ field.length ≤ 4 then radixValue? 16 field else none

/-- An octet in decimal, without needless zeros. -/
def octet? (field : List Char) : Option Nat :=
  if isDigits field ∧ (field.length = 1 ∨ field.head? ≠ some '0') ∧ field.length ≤ 3 then
    (radixValue? 10 field).filter (· < 256)
  else none

/-- The two groups of an address of four octets with points. -/
def dotted? (field : List Char) : Option (List Nat) := do
  match ← (Text.splitAt '.' field).mapM octet? with
  | [a, b, c, d] => some [a * 256 + b, c * 256 + d]
  | _ => none

/-- Groups with colons between them; the last field may have points where that is allowed. -/
def groups? (pointsAllowed : Bool) (text : List Char) : Option (List Nat) :=
  if text.isEmpty then some []
  else
    let fields := Text.splitAt ':' text
    match fields.getLast? with
    | none => some []
    | some last =>
      if pointsAllowed ∧ last.contains '.' then do
        let groups ← fields.dropLast.mapM group?
        let tail ← dotted? last
        some (groups ++ tail)
      else fields.mapM group?

def splitDoubleColon? : List Char → Option (List Char × List Char)
  | ':' :: ':' :: rest => some ([], rest)
  | c :: rest => (splitDoubleColon? rest).map fun r => (c :: r.1, r.2)
  | [] => none

/-- The eight groups that a text writes; a pair of colons stands for one or more zeros. -/
def ipv6? (text : List Char) : Option (List Nat) :=
  match splitDoubleColon? text with
  | none => (groups? true text).filter fun g => g.length = 8
  | some (left, right) => do
    let left ← groups? false left
    let right ← groups? true right
    let count := left.length + right.length
    if count ≤ 7 then some (left ++ List.replicate (8 - count) 0 ++ right) else none

def bracketed? (text : List Char) : Option Host :=
  match text.reverse with
  | ']' :: inner => (ipv6? inner.reverse).map .ipv6
  | _ => none

/-- The host that a text stands for in a URL of the web. -/
def host? (text : List Char) : Option Host :=
  match text with
  | '[' :: rest => bracketed? rest
  | _ => do
    let decoded ← Bytes.text? (decodeBytes (Bytes.ofText (String.ofList text)))
    let domain ← Idna.toAscii? decoded.toList
    if domain.isEmpty then none
    else if endsInNumber domain then (ipv4? domain).map .ipv4
    else some (.name domain)

/-- The characters that end a host or cannot be told from its end. -/
def endsHost (c : Char) : Bool :=
  [Char.ofNat 0, '\t', '\n', '\r', ' ', '#', '/', ':', '<', '>', '?', '@', '[', '\\', ']', '^',
    '|'].contains c

/-- The host that a text stands for in any other URL. -/
def opaqueHost? (text : List Char) : Option Host :=
  match text with
  | '[' :: rest => bracketed? rest
  | _ => if text.any endsHost then none else some (.name (encode isControl text))

def ipv4Text (n : Nat) : List Char :=
  let part (k : Nat) : List Char := Nat.toDigits 10 (n / Nat.pow 256 k % 256)
  part 3 ++ '.' :: part 2 ++ '.' :: part 1 ++ '.' :: part 0

def zeroRun (groups : List Nat) : Nat :=
  (groups.takeWhile (· = 0)).length

/-- Where the longest run of two or more zeros begins, the first of several, and its length. -/
def longestZeros (groups : List Nat) : Option (Nat × Nat) :=
  (List.range groups.length).foldl (fun best i =>
    let run := zeroRun (groups.drop i)
    if 2 ≤ run ∧ (best.map (·.2)).getD 1 < run then some (i, run) else best) none

def groupsText (groups : List Nat) : List Char :=
  [':'].intercalate (groups.map (Nat.toDigits 16))

def ipv6Text (groups : List Nat) : List Char :=
  match longestZeros groups with
  | none => groupsText groups
  | some (start, run) =>
    groupsText (groups.take start) ++ ':' :: ':' :: groupsText (groups.drop (start + run))

def Host.text : Host → List Char
  | .name t => t
  | .ipv4 n => ipv4Text n
  | .ipv6 g => '[' :: ipv6Text g ++ [']']

end Url

end FederationTrust
