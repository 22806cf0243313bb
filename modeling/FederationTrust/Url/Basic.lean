import FederationTrust.Url.Host

/-!
# URLs

A URL is read as browsers read it: blanks around it and tabs and line ends inside do
not count, schemes and hosts of the web become lower case, backslashes count as
slashes there, dot segments are resolved and characters are encoded as their place
demands. The text of a URL is its normal form.

Relative references are recognised as such and not resolved.
-/

namespace FederationTrust

/-- Credentials, host and port; a port that the scheme implies is left out. -/
structure Url.Authority where
  user : List Char
  password : List Char
  host : Url.Host
  port : Option Nat
  deriving DecidableEq, Repr, Inhabited

/-- A path: plain text, or segments with a slash before each. -/
inductive Url.Path where
  | plain (text : List Char)
  | segments (parts : List (List Char))
  deriving DecidableEq, Repr, Inhabited

/-- A URL; all its parts are in their written form. -/
structure Url where
  scheme : List Char
  authority : Option Url.Authority
  path : Url.Path
  query : Option (List Char)
  fragment : Option (List Char)
  deriving DecidableEq, Repr, Inhabited

inductive UrlError where
  | relative
  | invalid
  deriving DecidableEq, Repr, Inhabited

namespace Url

inductive SchemeKind where
  | web
  | file
  | other
  deriving DecidableEq, Repr

def defaultPort? (scheme : List Char) : Option Nat :=
  if scheme = "http".toList ∨ scheme = "ws".toList then some 80
  else if scheme = "https".toList ∨ scheme = "wss".toList then some 443
  else if scheme = "ftp".toList then some 21
  else none

def schemeKind (scheme : List Char) : SchemeKind :=
  if (defaultPort? scheme).isSome then .web
  else if scheme = "file".toList then .file
  else .other

def isLetter (c : Char) : Bool :=
  (65 ≤ c.toNat && c.toNat ≤ 90) || (97 ≤ c.toNat && c.toNat ≤ 122)

def isSchemeChar (c : Char) : Bool :=
  isLetter c || (48 ≤ c.toNat && c.toNat ≤ 57) || c = '+' || c = '-' || c = '.'

/-- The scheme at the beginning, in lower case, and what follows its colon. -/
def splitScheme? (s : List Char) : Option (List Char × List Char) :=
  match s with
  | [] => none
  | c :: _ =>
    if isLetter c then
      match s.dropWhile isSchemeChar with
      | ':' :: rest => some ((s.takeWhile isSchemeChar).map Text.lowerAscii, rest)
      | _ => none
    else none

def isSlash (kind : SchemeKind) (c : Char) : Bool :=
  c = '/' || (c = '\\' && kind ≠ .other)

/-- The text before query and fragment, the query and the fragment. -/
def splitTail (s : List Char) : List Char × Option (List Char) × Option (List Char) :=
  let main := s.takeWhile fun c => c ≠ '?' && c ≠ '#'
  match s.drop main.length with
  | '?' :: rest =>
    let query := rest.takeWhile (· ≠ '#')
    match rest.drop query.length with
    | _ :: fragment => (main, some query, some fragment)
    | [] => (main, some query, none)
  | _ :: fragment => (main, none, some fragment)
  | [] => (main, none, none)

def splitSegments (kind : SchemeKind) : List Char → List (List Char)
  | [] => [[]]
  | c :: cs =>
    if isSlash kind c then [] :: splitSegments kind cs
    else match splitSegments kind cs with
      | [] => [[c]]
      | piece :: rest => (c :: piece) :: rest

/-- Takes a written point off the beginning, plain or encoded. -/
def dropDot? : List Char → Option (List Char)
  | '.' :: rest => some rest
  | '%' :: '2' :: 'e' :: rest => some rest
  | '%' :: '2' :: 'E' :: rest => some rest
  | _ => none

/-- Whether a segment stands for the one that it is in. -/
def isSingleDot (segment : List Char) : Bool :=
  dropDot? segment == some []

/-- Whether a segment stands for the one above. -/
def isDoubleDot (segment : List Char) : Bool :=
  (dropDot? segment).bind dropDot? == some []

/-- Whether a segment is a letter with a colon or bar, which names a drive. -/
def isDrive (segment : List Char) : Bool :=
  match segment with
  | [c, mark] => isLetter c && (mark = ':' || mark = '|')
  | _ => false

/-- Whether a segment names a drive, with nothing behind it or a backslash. -/
def beginsWithDrive (segment : List Char) : Bool :=
  isDrive (segment.take 2) && (segment.drop 2).head?.all (· = '\\')

/-- Segments, last first, without the last one, unless that begins with a drive. -/
def shorten : List (List Char) → List (List Char)
  | [] => []
  | last :: rest => if beginsWithDrive last then last :: rest else rest

/-- A segment with its characters encoded; the first one of a file path may name a drive. -/
def writeSegment (kind : SchemeKind) (first : Bool) (segment : List Char) : List Char :=
  match segment with
  | [c, '|'] => if kind = .file ∧ first ∧ isLetter c then [c, ':'] else encode inPathSet segment
  | _ => encode inPathSet segment

/-- Segments with the dot segments resolved, behind others that are kept last first. -/
def resolveSegments (kind : SchemeKind) (before : List (List Char)) :
    List (List Char) → List (List Char)
  | [] => before.reverse
  | segment :: rest =>
    if isDoubleDot segment then
      let before := shorten before
      resolveSegments kind (if rest.isEmpty then [] :: before else before) rest
    else if isSingleDot segment then
      resolveSegments kind (if rest.isEmpty then [] :: before else before) rest
    else resolveSegments kind (writeSegment kind before.isEmpty segment :: before) rest

def rootedPath (kind : SchemeKind) (text : List Char) : Path :=
  let body := match text with
    | c :: rest => if isSlash kind c then rest else text
    | [] => []
  .segments (resolveSegments kind [] (splitSegments kind body))

/-- The last at sign splits credentials from the host; none where there is no at sign. -/
def splitLastAt? (s : List Char) : Option (List Char × List Char) :=
  let after := s.reverse.takeWhile (· ≠ '@')
  if after.length = s.length then none
  else some (s.take (s.length - after.length - 1), after.reverse)

/-- The host at the beginning: up to a slash, or a colon outside brackets. -/
def takeHost (kind : SchemeKind) (inBrackets : Bool) : List Char → List Char
  | [] => []
  | c :: rest =>
    if (c = ':' && !inBrackets) || isSlash kind c then []
    else c :: takeHost kind (if c = '[' then true else if c = ']' then false else inBrackets) rest

/-- The port after a colon, if digits give one that the scheme does not imply, and what follows. -/
def port? (scheme s : List Char) : Option (Option Nat × List Char) :=
  let digits := s.takeWhile fun c => c ≠ '/' && c ≠ '\\'
  let rest := s.drop digits.length
  if digits.isEmpty then some (none, rest)
  else
    (Text.digits? digits).bind fun n =>
      if n < 65536 then some (if defaultPort? scheme = some n then none else some n, rest) else none

def credentials (s : List Char) : List Char × List Char :=
  let user := s.takeWhile (· ≠ ':')
  (encode inUserinfoSet user, encode inUserinfoSet ((s.drop user.length).drop 1))

def authority? (scheme : List Char) (hasMore : Bool) (s : List Char) :
    Option (Authority × List Char) := do
  let kind := schemeKind scheme
  let upToPath := s.takeWhile fun c => !isSlash kind c
  let (login, rest) ← match splitLastAt? upToPath with
    | none => some ([], s)
    | some ([], rest) =>
      let rest := rest ++ s.drop upToPath.length
      if rest.head?.any (isSlash kind) ∨ (rest.isEmpty ∧ hasMore) then none else some ([], rest)
    | some (login, rest) => some (login, rest ++ s.drop upToPath.length)
  let (user, password) := credentials login
  let text := takeHost kind false rest
  let rest := rest.drop text.length
  let host ← if kind = .other then opaqueHost? text else host? text
  let hasPort := rest.head? = some ':'
  let (port, path) ← if hasPort then port? scheme (rest.drop 1) else some (none, rest)
  if host = .name [] ∧ (hasPort ∨ user ≠ [] ∨ password ≠ []) then none
  else some (⟨user, password, host, port⟩, path)

def fileSegments (text : List Char) : List (List Char) :=
  match rootedPath .file text with
  | .segments parts => parts
  | .plain _ => []

def trimSlashes : List (List Char) → List (List Char)
  | [] :: segment :: rest => trimSlashes (segment :: rest)
  | segments => segments

/-- The authority and path of a file after its scheme; a drive leaves no room for a host. -/
def file? (s : List Char) : Option (Authority × Path) := do
  let noHost : Authority := ⟨[], [], .name [], none⟩
  let path (text : List Char) : Path := .segments (trimSlashes (fileSegments text))
  let isSeparator (c : Char) : Bool := isSlash .file c
  match s with
  | a :: b :: rest =>
    if isSeparator a && isSeparator b then
      let text := rest.takeWhile fun c => !isSeparator c
      if isDrive text then some (noHost, path rest)
      else
        let after := rest.drop text.length
        if text.isEmpty then some (noHost, path after)
        else
          let host ← host? text
          if host = .name "localhost".toList ∨ (fileSegments after).head?.any isDrive then
            some (noHost, path after)
          else some ({ noHost with host := host }, path after)
    else some (noHost, path s)
  | _ => some (noHost, path s)

def ofScheme? (scheme s : List Char) : Option Url := do
  let (main, query, fragment) := splitTail s
  let kind := schemeKind scheme
  let hasMore := query.isSome || fragment.isSome
  let query := query.map (encode (if kind = .other then inQuerySet else inSpecialQuerySet))
  let fragment := fragment.map (encode inFragmentSet)
  match kind with
  | .web =>
    let (authority, path) ← authority? scheme hasMore (main.dropWhile (isSlash kind))
    some ⟨scheme, some authority, rootedPath kind path, query, fragment⟩
  | .file =>
    let (authority, path) ← file? main
    some ⟨scheme, some authority, path, query, fragment⟩
  | .other =>
    match main with
    | '/' :: '/' :: rest =>
      let (authority, path) ← authority? scheme hasMore rest
      let path := if path.isEmpty then .plain [] else rootedPath kind path
      some ⟨scheme, some authority, path, query, fragment⟩
    | '/' :: _ => some ⟨scheme, none, rootedPath kind main, query, fragment⟩
    | _ => some ⟨scheme, none, .plain (encode isControl main), query, fragment⟩

/-- Whether a character is a control or a blank at the ends of a URL. -/
def isMargin (c : Char) : Bool :=
  c.toNat ≤ 0x20

def strip (s : List Char) : List Char :=
  (Text.dropEndWhile isMargin (s.dropWhile isMargin)).filter fun c =>
    c ≠ '\t' && c ≠ '\n' && c ≠ '\r'

def parse (s : List Char) : Except UrlError Url :=
  match splitScheme? (strip s) with
  | none => .error .relative
  | some (scheme, rest) =>
    match ofScheme? scheme rest with
    | some url => .ok url
    | none => .error .invalid

def Authority.text (a : Authority) : List Char :=
  let login := a.user ++ if a.password.isEmpty then [] else ':' :: a.password
  (if login.isEmpty then [] else login ++ ['@']) ++ a.host.text
    ++ match a.port with
      | none => []
      | some n => ':' :: Nat.toDigits 10 n

def Path.text : Path → List Char
  | .plain t => t
  | .segments parts => parts.flatMap ('/' :: ·)

/-- The text of a URL; a path with two slashes in front and no authority before it is marked. -/
def text (u : Url) : List Char :=
  let path := u.path.text
  u.scheme ++ ':' :: (match u.authority with
      | some a => '/' :: '/' :: a.text ++ path
      | none => (if path.take 2 = ['/', '/'] then ['/', '.'] else []) ++ path)
    ++ (match u.query with
      | some q => '?' :: q
      | none => [])
    ++ match u.fragment with
      | some f => '#' :: f
      | none => []

end Url

end FederationTrust
