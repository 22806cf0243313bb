import FederationTrust.Url.Basic

/-!
# References

A reference stands for a URL in view of another one, its base. What a reference leaves out at
its beginning is taken from the base: the scheme, or what comes before the path, or the path up
to its last slash. A text that is a URL by itself does not depend on the base.
-/

namespace FederationTrust

namespace Url

/-- What comes before the path in the text of a URL. -/
def origin (u : Url) : List Char :=
  u.scheme ++ ':' :: match u.authority with
    | some a => '/' :: '/' :: a.text
    | none => []

def directory (u : Url) : List Char :=
  Text.dropEndWhile (· ≠ '/') u.path.text

/-- What a base adds before a reference that is no URL by itself. -/
def beginning (base : Url) (reference : List Char) : List Char :=
  let slash (c : Char) : Bool := isSlash (schemeKind base.scheme) c
  match reference with
  | [] => ({ base with fragment := none } : Url).text
  | '#' :: _ => ({ base with fragment := none } : Url).text
  | '?' :: _ => base.origin ++ base.path.text
  | a :: b :: _ =>
    if slash a && slash b then base.scheme ++ [':']
    else if slash a then base.origin
    else base.origin ++ base.directory
  | [a] => if slash a then base.origin else base.origin ++ base.directory

def ofReference? (base : Url) (reference : List Char) : Option Url :=
  match parse reference with
  | .ok url => some url
  | .error .invalid => none
  | .error .relative =>
    let reference := strip reference
    match parse (base.beginning reference ++ reference) with
    | .ok url => some url
    | .error _ => none

end Url

end FederationTrust
