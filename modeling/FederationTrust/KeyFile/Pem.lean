import FederationTrust.Base64
import FederationTrust.Text.Blank

/-!
# Armoured files

A block is framed by a line that begins it and a line that ends it, both with the
same label; between them stand headers, if a blank line follows them, and the
content in padded base64. Only the first block of a text counts.
-/

namespace FederationTrust

namespace Pem

structure Block where
  label : String
  content : Bytes
  deriving DecidableEq, Repr

/-- Whether one list of characters begins another, and what follows then. -/
def after? : List Char → List Char → Option (List Char)
  | [], s => some s
  | _ :: _, [] => none
  | p :: ps, c :: cs => if p = c then after? ps cs else none

/-- The characters before and after the first occurrence of a mark. -/
def splitOnce? (mark : List Char) : List Char → Option (List Char × List Char)
  | [] => (after? mark []).map fun rest => ([], rest)
  | c :: cs =>
    match after? mark (c :: cs) with
    | some rest => some ([], rest)
    | none => (splitOnce? mark cs).map fun r => (c :: r.1, r.2)

/-- Whether a character ends a line or separates words in the frame of a block. -/
def isFrameBlank (c : Char) : Bool :=
  c = ' ' || c = '\t' || c = '\n' || c = '\r'

def lines (s : List Char) : List (List Char) :=
  (Text.splitAt '\n' s).map (Text.dropEndWhile Text.isBlank)

def splitBody (body : List Char) : List Char × List Char :=
  match splitOnce? ['\n', '\n'] body with
  | some parts => parts
  | none =>
    match splitOnce? ['\r', '\n', '\r', '\n'] body with
    | some parts => parts
    | none => ([], body)

/-- Whether every line of the headers has a name and a colon. -/
def headersValid (headers : List Char) : Bool :=
  headers.isEmpty || (lines headers).all fun l => l.contains ':'

def parse? (text : String) : Option Block := do
  let (_, s) ← splitOnce? "-----BEGIN ".toList text.toList
  let (label, s) ← splitOnce? "-----".toList s
  let (body, s) ← splitOnce? "-----END ".toList (s.dropWhile isFrameBlank)
  let (labelAtEnd, _) ← splitOnce? "-----".toList s
  let (headers, data) := splitBody body
  if label ≠ [] ∧ label = labelAtEnd ∧ headersValid headers then
    (Base64.decodePadded? Base64.standard (lines data).flatten).map fun content =>
      ⟨String.ofList label, content⟩
  else none

end Pem

end FederationTrust
