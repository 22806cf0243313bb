import FederationTrust.Json.Decode

/-!
# Documents read as plain values

A document whose shape is not known before it is read has to be plain: every
string is text, every number has a finite double, and at most 127 arrays and
objects are nested. In a plain object the last of several members of one name
counts.
-/

namespace FederationTrust

namespace Json

/-- How many arrays and objects may be nested. -/
def depthLimit : Nat := 127

mutual

/-- Whether a value is plain, with this many levels of nesting allowed. -/
def plainWithin : Nat → Json → Bool
  | _, .null => true
  | _, .bool _ => true
  | _, .number n => n.isFinite
  | _, .string s => s.isSome
  | 0, .array _ => false
  | 0, .object _ => false
  | depth + 1, .array items => itemsPlain depth items
  | depth + 1, .object members => membersPlain depth members

def itemsPlain : Nat → List Json → Bool
  | _, [] => true
  | depth, item :: rest => plainWithin depth item && itemsPlain depth rest

def membersPlain : Nat → List (Option String × Json) → Bool
  | _, [] => true
  | depth, (name, value) :: rest =>
    name.isSome && plainWithin depth value && membersPlain depth rest

end

def parsePlain? (document : Bytes) : Option Json :=
  (parse? document).filter (plainWithin depthLimit)

/-- The members of a plain object without those that later ones of the same name replace. -/
def lastOfEach : List (Option String × Json) → List (Option String × Json)
  | [] => []
  | m :: rest => if rest.any (·.1 == m.1) then lastOfEach rest else m :: lastOfEach rest

/-- A plain value with each member of an object given once. -/
def settled : Json → Json
  | .object members => .object (lastOfEach members)
  | j => j

def get? (name : String) : Json → Option Json
  | .object members => (members.reverse.find? fun m => m.1 == some name).map (·.2)
  | _ => none

end Json

end FederationTrust
