import FederationTrust.Failure
import FederationTrust.Json.Decode
import FederationTrust.Signature.Algorithm
import FederationTrust.Text.Blank

/-!
# Algorithm policies

A policy accepts any algorithm or only those of a list. Its text form is the word
`any` in any letter case, or the names with commas between them; repeated names count
once, and a list without names is an error, so no text stands for an empty policy.
-/

namespace FederationTrust

inductive AlgorithmPolicy where
  | any
  | pinned (allowed : List Algorithm)
  deriving DecidableEq, Repr

inductive PolicyError where
  | unknown (name : String)
  | empty
  deriving DecidableEq, Repr

def PolicyError.message : PolicyError → String
  | .unknown name => "unknown signature algorithm: " ++ name
  | .empty => "algorithm allow-list is empty"

namespace AlgorithmPolicy

def standard : AlgorithmPolicy := .pinned [.es256]

instance : Inhabited AlgorithmPolicy := ⟨standard⟩

def permits (p : AlgorithmPolicy) (a : Algorithm) : Bool :=
  match p with
  | .any => true
  | .pinned allowed => allowed.contains a

/-- The names between commas, without white space around them and without empty ones. -/
def segments (s : List Char) : List String :=
  ((Text.splitAt ',' s).map Text.trim).filterMap fun piece =>
    if piece.isEmpty then none else some (String.ofList piece)

/-- The algorithms of a list of names, each once and in order of first occurrence. -/
def collect (allowed : List Algorithm) : List String → Except PolicyError (List Algorithm)
  | [] => .ok allowed
  | name :: rest =>
    match Algorithm.ofName? name with
    | none => .error (.unknown name)
    | some a => collect (if allowed.contains a then allowed else allowed ++ [a]) rest

def parse (s : String) : Except PolicyError AlgorithmPolicy :=
  let s := Text.trim s.toList
  if s.map Text.lowerAscii = ['a', 'n', 'y'] then .ok .any
  else
    match collect [] (segments s) with
    | .error e => .error e
    | .ok [] => .error .empty
    | .ok allowed => .ok (.pinned allowed)

def text : AlgorithmPolicy → String
  | .any => "any"
  | .pinned allowed => ",".intercalate (allowed.map Algorithm.name)

def toJson : AlgorithmPolicy → Json
  | .any => .text "any"
  | .pinned allowed => .record [("pinned", .texts (allowed.map Algorithm.name))]

def algorithmOfJson? (j : Json) : Option Algorithm :=
  (Json.bareCase? j).bind Algorithm.ofName?

/-- The policy that a JSON value stands for; a list is kept as it is. -/
def ofJson? (j : Json) : Option AlgorithmPolicy :=
  match Json.case? j with
  | some ("any", none) => some .any
  | some ("any", some .null) => some .any
  | some ("pinned", some allowed) => (Json.listOf? algorithmOfJson? allowed).map .pinned
  | _ => none

end AlgorithmPolicy

def PolicyError.failure (e : PolicyError) : Failure :=
  .config e.message

end FederationTrust
