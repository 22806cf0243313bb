import FederationTrust.Url.Basic

/-!
# Normal forms of URLs

Texts that stand for the same URL have the same normal form, so that entities can be
compared. A text without a scheme is taken as one for `https`.
-/

namespace FederationTrust

/-- The normal form of the URL that a text stands for, white space around it not counted. -/
def normalizeUrl (s : String) : Option String :=
  let s := Text.trim s.toList
  match Url.parse s with
  | .ok url => some (String.ofList url.text)
  | .error .relative =>
    match Url.parse ("https://".toList ++ s) with
    | .ok url => some (String.ofList url.text)
    | .error _ => none
  | .error .invalid => none

def urlEquals (a b : String) : Bool :=
  match normalizeUrl a, normalizeUrl b with
  | some a, some b => a == b
  | _, _ => false

inductive EntityMatch where
  | exactly
  | normalizedUrl
  deriving DecidableEq, Repr, Inhabited

def EntityMatch.matches (m : EntityMatch) (entityId wanted : String) : Bool :=
  match m with
  | .exactly => entityId == wanted
  | .normalizedUrl => urlEquals entityId wanted

end FederationTrust
