import FederationTrust.Json.Scanner

/-!
# Reading JSON

Tokens are taken one at a time by a builder that keeps the open arrays and
objects on a stack, so reading is a fold over the octets of a document, at any
depth of nesting. A document is one value with blanks around it.
-/

namespace FederationTrust

namespace Json

/-- An open array or object: what it holds so far, last first, and the member being read. -/
inductive Frame where
  | array (items : List Json)
  | object (members : List (Option String × Json)) (name : Option String)
  deriving Inhabited, Repr

inductive Builder where
  | value (frames : List Frame)
  | firstItem (frames : List Frame)
  | firstName (frames : List Frame)
  | nextName (members : List (Option String × Json)) (frames : List Frame)
  | colon (members : List (Option String × Json)) (name : Option String) (frames : List Frame)
  | after (frame : Frame) (frames : List Frame)
  | done (j : Json)
  deriving Inhabited, Repr

namespace Builder

/-- A finished value joins the innermost open array or object. -/
def put (j : Json) : List Frame → Builder
  | [] => .done j
  | .array items :: frames => .after (.array (j :: items)) frames
  | .object members name :: frames => .after (.object ((name, j) :: members) name) frames

/-- A token where a value has to come. -/
def begin? (frames : List Frame) : Token → Option Builder
  | .null => some (put .null frames)
  | .bool b => some (put (.bool b) frames)
  | .number n => some (put (.number n) frames)
  | .string s => some (put (.string s) frames)
  | .openArray => some (.firstItem frames)
  | .openObject => some (.firstName frames)
  | _ => none

def take? : Builder → Token → Option Builder
  | .value frames, t => begin? frames t
  | .firstItem frames, .closeArray => some (put (.array []) frames)
  | .firstItem frames, t => begin? (.array [] :: frames) t
  | .firstName frames, .closeObject => some (put (.object []) frames)
  | .firstName frames, .string s => some (.colon [] s frames)
  | .nextName members frames, .string s => some (.colon members s frames)
  | .colon members name frames, .colon => some (.value (.object members name :: frames))
  | .after (.array items) frames, .comma => some (.value (.array items :: frames))
  | .after (.array items) frames, .closeArray => some (put (.array items.reverse) frames)
  | .after (.object members _) frames, .comma => some (.nextName members frames)
  | .after (.object members _) frames, .closeObject => some (put (.object members.reverse) frames)
  | _, _ => none

end Builder

structure Reader where
  scanner : Scanner
  builder : Builder
  deriving Inhabited, Repr

namespace Reader

def start : Reader :=
  ⟨.between, .value []⟩

def feed? (r : Reader) (b : UInt8) : Option Reader := do
  let (tokens, scanner) ← r.scanner.step? b
  let builder ← tokens.foldlM Builder.take? r.builder
  some ⟨scanner, builder⟩

/-- The value read, if the document can end here. -/
def finish? (r : Reader) : Option Json := do
  let tokens ← r.scanner.finish?
  match ← tokens.foldlM Builder.take? r.builder with
  | .done j => some j
  | _ => none

end Reader

def parse? (document : Bytes) : Option Json := do
  let r ← document.foldlM Reader.feed? Reader.start
  r.finish?

end Json

end FederationTrust
