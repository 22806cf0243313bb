import FederationTrust.Bytes
import FederationTrust.FileSystem.Path
import FederationTrust.Instant

/-!
# File systems

A file system is a tree of files, directories and symbolic links, given by the node at
each place, and a working directory, from which relative paths start. Finding the place
of a path follows links, at most forty of them, and demands that whatever is passed
through is a directory; a slash at the end demands it of the last node too.

A node has a place of its own; there are no further names for one file.
-/

namespace FederationTrust

/-- A place in the tree: the names from the root down. -/
abbrev Place := List String

inductive Node where
  | file (content : Bytes) (modified : Instant)
  | directory
  | link (target : Path)
  deriving DecidableEq, Repr, Inhabited

structure FileSystem where
  nodes : List (Place × Node)
  workingDirectory : Place
  deriving DecidableEq, Repr, Inhabited

namespace FileSystem

/-- The longest name in octets. -/
def nameLimit : Nat := 255

/-- The longest path in octets. -/
def pathLimit : Nat := 4095

/-- How many links a path may lead through. -/
def linkLimit : Nat := 40

def node? (fs : FileSystem) (place : Place) : Option Node :=
  if place = [] then some .directory else fs.nodes.lookup place

def put (fs : FileSystem) (place : Place) (node : Node) : FileSystem :=
  { fs with nodes := (place, node) :: fs.nodes.filter (·.1 ≠ place) }

def erase (fs : FileSystem) (place : Place) : FileSystem :=
  { fs with nodes := fs.nodes.filter (·.1 ≠ place) }

theorem lookup_filter_ne (nodes : List (Place × Node)) {a b : Place} (h : b ≠ a) :
    (nodes.filter (·.1 ≠ a)).lookup b = nodes.lookup b := by
  induction nodes with
  | nil => rfl
  | cons n rest ih =>
    obtain ⟨place, node⟩ := n
    by_cases hp : place = a
    · subst hp
      have hb : (b == place) = false := by simp [h]
      simp [List.lookup_cons, hb, ← ih]
    · by_cases hb : b = place
      · subst hb
        simp [hp]
      · have hb' : (b == place) = false := by simp [hb]
        simp only [ne_eq, decide_not] at ih
        simp [hp, List.lookup_cons, hb', ih]

theorem lookup_filter_self (nodes : List (Place × Node)) (a : Place) :
    (nodes.filter (·.1 ≠ a)).lookup a = none := by
  induction nodes with
  | nil => rfl
  | cons n rest ih =>
    obtain ⟨place, node⟩ := n
    simp only [ne_eq, decide_not] at ih
    by_cases hp : place = a
    · simp [hp, ih]
    · have hb : (a == place) = false := by simp [Ne.symm hp]
      simp [hp, List.lookup_cons, hb, ih]

theorem node?_put_self {fs : FileSystem} {place : Place} (h : place ≠ []) (node : Node) :
    (fs.put place node).node? place = some node := by
  simp [node?, put, h]

theorem node?_put_of_ne {fs : FileSystem} {a b : Place} (h : b ≠ a) (node : Node) :
    (fs.put a node).node? b = fs.node? b := by
  have hb : (b == a) = false := by simp [h]
  have := lookup_filter_ne fs.nodes h
  simp only [ne_eq, decide_not] at this
  simp [node?, put, List.lookup_cons, hb, this]

theorem node?_erase_self {fs : FileSystem} {place : Place} (h : place ≠ []) :
    (fs.erase place).node? place = none := by
  have := lookup_filter_self fs.nodes place
  simp only [ne_eq, decide_not] at this
  simp [node?, erase, h, this]

theorem node?_erase_of_ne {fs : FileSystem} {a b : Place} (h : b ≠ a) :
    (fs.erase a).node? b = fs.node? b := by
  have := lookup_filter_ne fs.nodes h
  simp only [ne_eq, decide_not] at this
  simp [node?, erase, this]

/-- The steps of a path; an empty one, between slashes or at an end, stays where it is. -/
def steps (p : Path) : List String :=
  p.pieces.map fun piece => if piece = [] then "." else String.ofList piece

/-- Where a path starts, seen from a directory. -/
def startOf (p : Path) (directory : Place) : Place :=
  match p.text.toList with
  | '/' :: _ => []
  | _ => directory

def nameFits (name : String) : Bool :=
  name.utf8ByteSize ≤ nameLimit

def isAskable (p : Path) : Bool :=
  !p.text.isEmpty && p.text.utf8ByteSize ≤ pathLimit && !p.text.toList.contains '\x00'

/-- The place that steps lead to from a directory; a link is left to the given continuation. -/
def walk (fs : FileSystem) (onLink : Place → List String → Option Place) (here : Place) :
    List String → Option Place
  | [] => some here
  | step :: rest =>
    if step = "." then fs.walk onLink here rest
    else if step = ".." then fs.walk onLink here.dropLast rest
    else if nameFits step then
      let there := here ++ [step]
      match fs.node? there with
      | some .directory => fs.walk onLink there rest
      | some (.link target) => onLink (startOf target here) (steps target ++ rest)
      | some (.file _ _) | none => if rest = [] then some there else none
    else none

/-- The place that steps lead to from a directory, through at most so many links. -/
def follow (fs : FileSystem) : Nat → Place → List String → Option Place
  | 0, here, todo => fs.walk (fun _ _ => none) here todo
  | links + 1, here, todo => fs.walk (fs.follow links) here todo

/-- The place that a path leads to; only the last node may be missing there. -/
def place? (fs : FileSystem) (p : Path) : Option Place :=
  if isAskable p then fs.follow linkLimit (startOf p fs.workingDirectory) (steps p) else none

/-- The place of the entry that a path names; a link at its end is not followed. -/
def entry? (fs : FileSystem) (p : Path) : Option Place :=
  match isAskable p, (steps p).getLast? with
  | true, some name =>
    if name = "." ∨ name = ".." ∨ !nameFits name then none
    else
      (fs.follow linkLimit (startOf p fs.workingDirectory) ((steps p).dropLast ++ ["."])).map
        (· ++ [name])
  | _, _ => none

def read? (fs : FileSystem) (p : Path) : Option Bytes :=
  match (fs.place? p).bind fs.node? with
  | some (.file content _) => some content
  | _ => none

def modified? (fs : FileSystem) (p : Path) : Option Instant :=
  match (fs.place? p).bind fs.node? with
  | some (.file _ modified) => some modified
  | _ => none

/-- The place of the node that a path leads to. -/
def canonical? (fs : FileSystem) (p : Path) : Option Place :=
  (fs.place? p).filter fun place => (fs.node? place).isSome

def sameFile (fs : FileSystem) (a b : Path) : Bool :=
  match fs.canonical? a, fs.canonical? b with
  | some a, some b => a == b
  | _, _ => false

/-- The file system after a file at a path was made empty, or made at all. -/
def truncate? (fs : FileSystem) (p : Path) (now : Instant) : Option FileSystem := do
  let place ← fs.place? p
  match fs.node? place with
  | some (.file _ _) | none => some (fs.put place (.file [] now))
  | _ => none

def append? (fs : FileSystem) (p : Path) (b : Bytes) (now : Instant) : Option FileSystem := do
  let place ← fs.place? p
  match fs.node? place with
  | some (.file content _) => some (fs.put place (.file (content ++ b) now))
  | _ => none

/-- The file system after a file or link took the place of what another path names. -/
def rename? (fs : FileSystem) (source target : Path) : Option FileSystem := do
  let source ← fs.entry? source
  let target ← fs.entry? target
  let node ← fs.node? source
  if node = .directory ∨ fs.node? target = some .directory then none
  else if source = target then some fs
  else some ((fs.erase source).put target node)

def remove? (fs : FileSystem) (p : Path) : Option FileSystem := do
  let place ← fs.entry? p
  match ← fs.node? place with
  | .directory => none
  | _ => some (fs.erase place)

end FileSystem

end FederationTrust
