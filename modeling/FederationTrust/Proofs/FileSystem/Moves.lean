import FederationTrust.Proofs.FileSystem.ClearWays
import FederationTrust.Proofs.FileSystem.Temporary

/-!
# Moves of a path

Steps that are points do not move a walk that ends in a directory. So two paths with the same
components name one entry, if they name any, and a path beside another one names an entry in the
same directory.
-/

namespace FederationTrust

namespace FileSystem

variable {fs : FileSystem} {p q : Path} {here place entry other : Place}

/-- The steps that move a walk. -/
def moving (todo : List String) : List String :=
  todo.filter (· ≠ ".")

theorem moving_append (a b : List String) : moving (a ++ b) = moving a ++ moving b :=
  List.filter_append a b

theorem moving_moving (todo : List String) : moving (moving todo) = moving todo := by
  rw [moving, moving, List.filter_filter]
  simp

theorem moving_concat {name : String} (point : name ≠ ".") (todo : List String) :
    moving (todo ++ [name]) = moving todo ++ [name] := by
  rw [moving_append]
  refine congrArg (moving todo ++ ·) ?_
  rw [moving, List.filter_cons, if_pos (decide_eq_true point), List.filter_nil]

theorem walk_moving {onLink : Place → List String → Option Place}
    (links : ∀ here a b, moving a = moving b → onLink here (a ++ ["."]) = onLink here (b ++ ["."]))
    (here : Place) (todo : List String) :
    fs.walk onLink here (todo ++ ["."]) = fs.walk onLink here (moving todo ++ ["."]) := by
  induction todo generalizing here with
  | nil => rfl
  | cons step rest ih =>
    by_cases point : step = "."
    · subst point
      exact ih here
    have kept : moving (step :: rest) = step :: moving rest := by
      rw [moving, List.filter_cons, if_pos (decide_eq_true point)]
      rfl
    rw [kept, List.cons_append, List.cons_append]
    by_cases parent : step = ".."
    · subst parent
      exact ih here.dropLast
    cases fits : nameFits step with
    | false => rw [walk_of_not_fits point parent fits, walk_of_not_fits point parent fits]
    | true =>
      rw [walk_name point parent fits, walk_name point parent fits]
      cases fs.passage? (here ++ [step]) with
      | none => simp
      | some node =>
        cases node with
        | file content modified => simp
        | directory => exact ih (here ++ [step])
        | link target =>
          dsimp only
          rw [← List.append_assoc, ← List.append_assoc]
          refine links _ _ _ ?_
          rw [moving_append, moving_append, moving_moving]

/-- Walks to a directory with the same moves end at one place. -/
theorem follow_moving (links : Nat) (here : Place) {a b : List String}
    (same : moving a = moving b) :
    fs.follow links here (a ++ ["."]) = fs.follow links here (b ++ ["."]) := by
  induction links generalizing here a b with
  | zero =>
    rw [follow, follow, walk_moving (fun _ _ _ _ => rfl) here a, same,
      ← walk_moving (fun _ _ _ _ => rfl)]
  | succ links ih =>
    rw [follow, follow, walk_moving (fun here a b => ih here) here a, same,
      ← walk_moving (fun here a b => ih here)]

/-- An entry is a name in the directory that the moves before it lead to. -/
theorem exists_moves_of_entry? (h : fs.entry? p = some entry) :
    ∃ front name directory, moving (steps p) = front ++ [name] ∧ IsName name ∧
      fs.follow linkLimit (startOf p fs.workingDirectory) (front ++ ["."]) = some directory ∧
      entry = directory ++ [name] := by
  obtain ⟨-, front, name, directory, split, named, found, rfl⟩ := entry?_eq_some_iff.mp h
  refine ⟨moving front, name, directory, ?_, named, ?_, rfl⟩
  · rw [split, moving_concat named.point]
  · rw [← found]
    exact follow_moving linkLimit _ (moving_moving front)

/-- Paths with the same moves before their last names name entries in one directory. -/
theorem entry?_beside {front : List String} {name name' : String}
    (first : fs.entry? p = some entry) (second : fs.entry? q = some other)
    (start : startOf p fs.workingDirectory = startOf q fs.workingDirectory)
    (moves : moving (steps p) = front ++ [name]) (moves' : moving (steps q) = front ++ [name']) :
    ∃ directory, entry = directory ++ [name] ∧ other = directory ++ [name'] := by
  obtain ⟨_, _, directory, split, -, found, rfl⟩ := exists_moves_of_entry? first
  obtain ⟨_, _, directory', split', -, found', rfl⟩ := exists_moves_of_entry? second
  obtain ⟨rfl, same⟩ := List.append_inj' (split.symm.trans moves) rfl
  obtain ⟨rfl, same'⟩ := List.append_inj' (split'.symm.trans moves') rfl
  rw [start, found'] at found
  cases found
  cases same
  cases same'
  exact ⟨_, rfl, rfl⟩

end FileSystem

namespace Path

open FileSystem

variable {p q : Path}

def Component.move? : Component → Option String
  | .parent => some ".."
  | .name s => some s
  | .root | .current => none

theorem move?_of_mem_start {pieces : List (List Char)} :
    (start pieces).filterMap Component.move? = [] := by
  unfold start
  split <;> rfl

/-- The moves of a path are those of its components. -/
theorem moving_steps (p : Path) : moving (steps p) = p.components.filterMap Component.move? := by
  rw [components, List.filterMap_append, move?_of_mem_start, List.nil_append, steps]
  induction p.pieces with
  | nil => rfl
  | cons piece rest ih =>
    rw [List.map_cons, moving, List.filter_cons, ← moving, ih, List.filterMap_cons,
      Component.ofPiece?]
    by_cases empty : piece = []
    · simp [empty]
    · by_cases point : piece = ['.']
      · simp [point]
      · by_cases parent : piece = ['.', '.']
        · simp [parent, Component.move?]
        · have notPoint : String.ofList piece ≠ "." := by
            intro same
            exact point (String.ofList_injective (same.trans rfl))
          simp [empty, point, parent, notPoint, Component.move?]

/-- A path starts at the root exactly if its first piece is empty and not the only one. -/
theorem startOf_eq_pieces (p : Path) (directory : Place) :
    startOf p directory =
      match p.pieces with
      | [] :: _ :: _ => []
      | _ => directory := by
  unfold startOf pieces
  cases p.text.toList with
  | nil => rfl
  | cons c rest =>
    rw [Text.splitAt]
    cases more : Text.splitAt '/' rest with
    | nil => exact absurd more (Text.splitAt_ne_nil '/' rest)
    | cons piece pieces =>
      by_cases slash : c = '/'
      · subst slash
        rfl
      · rw [if_neg slash]
        split
        · rename_i same
          exact absurd (List.cons.inj same).1 slash
        · rfl

theorem head?_pieces_ne_root (pieces : List (List Char)) :
    (pieces.filterMap Component.ofPiece?).head? ≠ some .root := by
  intro first
  obtain ⟨piece, -, made⟩ := List.mem_filterMap.mp (List.mem_of_mem_head? first)
  rw [Component.ofPiece?] at made
  split at made
  · cases made
  · split at made <;> cases made

/-- A path starts at the root exactly if its components do. -/
theorem startOf_eq (p : Path) (directory : Place) :
    startOf p directory = if p.components.head? = some .root then [] else directory := by
  rw [startOf_eq_pieces, components]
  split
  · rename_i rooted
    rw [rooted]
    rfl
  · rename_i other
    rw [if_neg]
    intro first
    unfold start at first
    split at first
    · rename_i rooted
      exact other _ _ rooted
    · cases first
    · exact head?_pieces_ne_root _ first

theorem entry?_of_same {fs : FileSystem} {entry other : Place} (same : p.same q = true)
    (first : fs.entry? p = some entry) (second : fs.entry? q = some other) : entry = other := by
  have components : p.components = q.components := eq_of_beq same
  obtain ⟨front, name, -, moves, -⟩ := exists_moves_of_entry? first
  have moves' : moving (steps q) = front ++ [name] := by
    rw [moving_steps, ← components, ← moving_steps, moves]
  have start : startOf p fs.workingDirectory = startOf q fs.workingDirectory := by
    rw [startOf_eq, startOf_eq, components]
  obtain ⟨directory, rfl, rfl⟩ := entry?_beside first second start moves moves'
  rfl

/-- A path that names an entry ends in that name. -/
theorem exists_name_of_entry? {fs : FileSystem} {entry : Place} (h : fs.entry? p = some entry) :
    ∃ cs name, p.components = cs ++ [.name name] := by
  obtain ⟨-, front, name, directory, split, named, -, -⟩ := entry?_eq_some_iff.mp h
  obtain ⟨before, piece, pieces, last⟩ : ∃ before piece, p.pieces = before ++ [piece] ∧
      (if piece = [] then "." else String.ofList piece) = name := by
    obtain ⟨before, after, whole, -, last⟩ := List.map_eq_append_iff.mp split
    obtain ⟨piece, rfl, same⟩ := List.map_eq_singleton_iff.mp last
    exact ⟨before, piece, whole, same⟩
  have counts : Component.ofPiece? piece = some (.name (String.ofList piece)) := by
    have written : piece ≠ [] := by
      rintro rfl
      exact named.point last.symm
    rw [if_neg written] at last
    rw [Component.ofPiece?, if_neg, if_neg]
    · rintro rfl
      exact named.parent last.symm
    · rintro (rfl | rfl)
      · exact written rfl
      · exact named.point last.symm
  have read : p.pieces.filterMap Component.ofPiece? =
      before.filterMap Component.ofPiece? ++ [.name (String.ofList piece)] := by
    rw [pieces, List.filterMap_append, List.filterMap_cons, counts, List.filterMap_nil]
  refine ⟨start p.pieces ++ before.filterMap Component.ofPiece?, String.ofList piece, ?_⟩
  rw [components, read, List.append_assoc]

section Siblings

variable {fs : FileSystem} {entry other : Place} {name name' : String}

/-- A path under another name moves to the directory of the path, and then along the name. -/
theorem moving_withFileName (p : Path) (plain : PlainName name) :
    moving (steps (p.withFileName name)) =
      p.parentComponents.filterMap Component.move? ++ [name] := by
  rw [moving_steps, components_withFileName p plain, List.filterMap_append]
  rfl

theorem head?_concat_eq_root (cs : List Component) (name : String) :
    (cs ++ [Component.name name]).head? = some .root ↔ cs.head? = some .root := by
  cases cs <;> simp

theorem startOf_withFileName (p : Path) (plain : PlainName name) (directory : Place) :
    startOf (p.withFileName name) directory =
      if p.parentComponents.head? = some .root then [] else directory := by
  rw [startOf_eq, components_withFileName p plain]
  simp only [head?_concat_eq_root]

/-- Paths beside one path name entries in one directory. -/
theorem entry?_siblings (plain : PlainName name)
    (plain' : PlainName name')
    (first : fs.entry? (p.withFileName name) = some entry)
    (second : fs.entry? (p.withFileName name') = some other) :
    ∃ directory, entry = directory ++ [name] ∧ other = directory ++ [name'] := by
  refine entry?_beside first second ?_ (moving_withFileName p plain) (moving_withFileName p plain')
  rw [startOf_withFileName p plain, startOf_withFileName p plain']

/-- A path that names an entry moves to the directory of the path, and then along its name. -/
theorem exists_fileName_of_entry? (h : fs.entry? p = some entry) :
    ∃ own, p.fileName? = some own ∧
      moving (steps p) = p.parentComponents.filterMap Component.move? ++ [own] ∧
      ∀ directory, startOf p directory =
        if p.parentComponents.head? = some .root then [] else directory := by
  obtain ⟨cs, own, components⟩ := exists_name_of_entry? h
  have fileName : p.fileName? = some own := by
    rw [fileName?, components, List.getLast?_concat]
  have parent : p.parentComponents = cs := by
    rw [parentComponents, fileName, components, List.dropLast_concat]
    rfl
  refine ⟨own, fileName, ?_, fun directory => ?_⟩
  · rw [moving_steps, components, parent, List.filterMap_append]
    rfl
  · rw [startOf_eq, components, parent]
    simp only [head?_concat_eq_root]

/-- A path under another name names an entry beside the one that the path names. -/
theorem entry?_withFileName (plain : PlainName name) (h : fs.entry? p = some entry)
    (sibling : fs.entry? (p.withFileName name) = some other) :
    ∃ directory own, p.fileName? = some own ∧ entry = directory ++ [own] ∧
      other = directory ++ [name] := by
  obtain ⟨own, fileName, moves, start⟩ := exists_fileName_of_entry? h
  have start' := startOf_withFileName p plain fs.workingDirectory
  rw [← start] at start'
  obtain ⟨directory, rfl, rfl⟩ :=
    entry?_beside h sibling start'.symm moves (moving_withFileName p plain)
  exact ⟨directory, own, fileName, rfl, rfl⟩

/-- Beside a path that names an entry, any other name that can be asked for is an entry. -/
theorem entry?_withFileName_iff (plain : PlainName name)
    (h : fs.entry? p = some entry) :
    fs.entry? (p.withFileName name) = some other ↔
      isAskable (p.withFileName name) = true ∧ IsName name ∧ other = entry.dropLast ++ [name] := by
  have moves' := moving_withFileName p plain
  constructor
  · intro sibling
    obtain ⟨askable, -⟩ := entry?_eq_some_iff.mp sibling
    obtain ⟨front, last, -, split, named, -⟩ := exists_moves_of_entry? sibling
    obtain ⟨-, same⟩ := List.append_inj' (split.symm.trans moves') rfl
    cases same
    obtain ⟨directory, own, -, rfl, rfl⟩ := entry?_withFileName plain h sibling
    rw [List.dropLast_concat]
    exact ⟨askable, named, rfl⟩
  · rintro ⟨askable, named, rfl⟩
    obtain ⟨own, -, moves, start⟩ := exists_fileName_of_entry? h
    have start' := startOf_withFileName p plain fs.workingDirectory
    rw [← start] at start'
    obtain ⟨before, last, directory, split, -, found, rfl⟩ := exists_moves_of_entry? h
    obtain ⟨rfl, -⟩ := List.append_inj' (split.symm.trans moves) rfl
    obtain ⟨front, steps⟩ := exists_steps_withFileName p plain
    have same : moving front = moving (p.parentComponents.filterMap Component.move?) := by
      rw [steps, moving_concat named.point] at moves'
      rw [← (List.append_inj' moves' rfl).1, moving_moving]
    rw [List.dropLast_concat]
    refine entry?_eq_some_iff.mpr ⟨askable, front, name, directory, steps, named, ?_, rfl⟩
    rw [start', follow_moving linkLimit _ same]
    exact found

end Siblings

end Path

end FederationTrust
