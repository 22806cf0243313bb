import FederationTrust.FileSystem.Basic

/-!
# Where paths lead

A walk sees directories and links, but cannot tell a file from nothing. So a change among
files leaves every path where it led. A path that ends in a name leads to the entry of that
name, unless a link stands there; temporary siblings are such paths.
-/

namespace FederationTrust

namespace FileSystem

variable {a b fs : FileSystem} {p : Path} {here place : Place}

/-- What a walk sees at a place. -/
def passage? (fs : FileSystem) (place : Place) : Option Node :=
  match fs.node? place with
  | some .directory => some .directory
  | some (.link target) => some (.link target)
  | some (.file _ _) | none => none

/-- Two file systems in which every path leads to the same place. -/
structure SameWays (a b : FileSystem) : Prop where
  workingDirectory : a.workingDirectory = b.workingDirectory
  passage : ∀ place, a.passage? place = b.passage? place

theorem SameWays.trans (first : SameWays a b) (second : SameWays b fs) : SameWays a fs :=
  ⟨first.workingDirectory.trans second.workingDirectory,
    fun other => (first.passage other).trans (second.passage other)⟩

theorem passage?_eq_none_iff :
    fs.passage? place = none ↔
      fs.node? place = none ∨
        ∃ content modified, fs.node? place = some (.file content modified) := by
  rw [passage?]
  cases h : fs.node? place with
  | none => simp
  | some node => cases node <;> simp

theorem ne_nil_of_passage?_eq_none (h : fs.passage? place = none) : place ≠ [] := by
  rintro rfl
  cases h

/-- One step of a walk along a name. -/
theorem walk_name {onLink : Place → List String → Option Place} {step : String}
    {rest : List String} (point : step ≠ ".") (parent : step ≠ "..")
    (fits : nameFits step = true) :
    fs.walk onLink here (step :: rest) =
      match fs.passage? (here ++ [step]) with
      | some .directory => fs.walk onLink (here ++ [step]) rest
      | some (.link target) => onLink (startOf target here) (steps target ++ rest)
      | _ => if rest = [] then some (here ++ [step]) else none := by
  simp only [walk, point, parent, fits, if_true, if_false, passage?]
  cases fs.node? (here ++ [step]) with
  | none => rfl
  | some node => cases node <;> rfl

theorem walk_of_not_fits {onLink : Place → List String → Option Place} {step : String}
    {rest : List String} (point : step ≠ ".") (parent : step ≠ "..")
    (long : nameFits step = false) :
    fs.walk onLink here (step :: rest) = none := by
  simp [walk, point, parent, long]

theorem walk_congr (h : SameWays a b) {onLink onLink' : Place → List String → Option Place}
    (links : ∀ here todo, onLink here todo = onLink' here todo) (here : Place)
    (todo : List String) : a.walk onLink here todo = b.walk onLink' here todo := by
  induction todo generalizing here with
  | nil => rfl
  | cons step rest ih =>
    by_cases point : step = "."
    · subst point
      exact ih here
    by_cases parent : step = ".."
    · subst parent
      exact ih here.dropLast
    cases fits : nameFits step with
    | false => rw [walk_of_not_fits point parent fits, walk_of_not_fits point parent fits]
    | true =>
      rw [walk_name point parent fits, walk_name point parent fits, h.passage]
      cases b.passage? (here ++ [step]) with
      | none => rfl
      | some node =>
        cases node with
        | file content modified => rfl
        | directory => exact ih (here ++ [step])
        | link target => exact links _ _

theorem follow_congr (h : SameWays a b) (links : Nat) (here : Place) (todo : List String) :
    a.follow links here todo = b.follow links here todo := by
  induction links generalizing here todo with
  | zero => exact walk_congr h (fun _ _ => rfl) here todo
  | succ links ih => exact walk_congr h ih here todo

theorem place?_congr (h : SameWays a b) (p : Path) : a.place? p = b.place? p := by
  rw [place?, place?, h.workingDirectory, follow_congr h]

theorem entry?_congr (h : SameWays a b) (p : Path) : a.entry? p = b.entry? p := by
  unfold entry?
  rw [h.workingDirectory]
  simp only [follow_congr h]

/-- Whether a path ends in a name, which then is the name of its entry. -/
def EndsIn (p : Path) (name : String) : Prop :=
  (steps p).getLast? = some name ∧ name ≠ "." ∧ name ≠ ".."

/-- A link stands at a path and leads to a file, or to where one can be made. -/
def LeadsAway (fs : FileSystem) (p : Path) : Prop :=
  (∃ entry ∈ fs.entry? p, ∃ node ∈ fs.passage? entry, node ≠ .directory) ∧
    ∃ place ∈ fs.place? p, fs.passage? place = none

instance : Decidable (fs.LeadsAway p) :=
  inferInstanceAs (Decidable (_ ∧ _))

/-- A place is this entry, or else the entry is a link. -/
def LeadsFrom (fs : FileSystem) (entry place : Place) : Prop :=
  place = entry ∨ ∃ target, fs.passage? entry = some (.link target)

/-- A walk to a name goes by way of the directory of that name. -/
theorem walk_concat_name {onLink : Place → List String → Option Place} {name : String}
    {todo : List String} (point : name ≠ ".") (parent : name ≠ "..")
    (links : ∀ here todo place, onLink here (todo ++ [name]) = some place →
      ∃ directory, onLink here (todo ++ ["."]) = some directory ∧ nameFits name = true ∧
        fs.LeadsFrom (directory ++ [name]) place)
    (h : fs.walk onLink here (todo ++ [name]) = some place) :
    ∃ directory, fs.walk onLink here (todo ++ ["."]) = some directory ∧ nameFits name = true ∧
      fs.LeadsFrom (directory ++ [name]) place := by
  induction todo generalizing here with
  | nil =>
    cases fits : nameFits name with
    | false =>
      rw [List.nil_append, walk_of_not_fits point parent fits] at h
      cases h
    | true =>
      refine ⟨here, rfl, rfl, ?_⟩
      rw [List.nil_append, walk_name point parent fits] at h
      cases seen : fs.passage? (here ++ [name]) with
      | none =>
        simp only [seen, if_true, Option.some.injEq] at h
        exact Or.inl h.symm
      | some node =>
        cases node with
        | file content modified =>
          simp only [seen, if_true, Option.some.injEq] at h
          exact Or.inl h.symm
        | directory =>
          simp only [seen, walk, Option.some.injEq] at h
          exact Or.inl h.symm
        | link target => exact Or.inr ⟨target, seen⟩
  | cons step rest ih =>
    rw [List.cons_append] at h ⊢
    by_cases stay : step = "."
    · subst stay
      exact ih h
    by_cases back : step = ".."
    · subst back
      exact ih h
    cases fits : nameFits step with
    | false =>
      rw [walk_of_not_fits stay back fits] at h
      cases h
    | true =>
      rw [walk_name stay back fits] at h ⊢
      cases seen : fs.passage? (here ++ [step]) with
      | none => simp [seen] at h
      | some node =>
        cases node with
        | file content modified => simp [seen] at h
        | directory =>
          simp only [seen] at h ⊢
          exact ih h
        | link target =>
          simp only [seen] at h ⊢
          rw [← List.append_assoc] at h ⊢
          exact links _ _ _ h

theorem follow_concat_name {name : String} (point : name ≠ ".") (parent : name ≠ "..")
    (links : Nat) {here : Place} {todo : List String}
    (h : fs.follow links here (todo ++ [name]) = some place) :
    ∃ directory, fs.follow links here (todo ++ ["."]) = some directory ∧ nameFits name = true ∧
      fs.LeadsFrom (directory ++ [name]) place := by
  induction links generalizing here todo place with
  | zero => exact walk_concat_name point parent (fun _ _ _ h => by cases h) h
  | succ links ih => exact walk_concat_name point parent (fun _ _ _ h => ih h) h

/-- What a path that ends in a name leads to is its entry, or else that entry is a link. -/
theorem entry?_of_place? {name : String} (ends : EndsIn p name) (h : fs.place? p = some place) :
    ∃ entry, fs.entry? p = some entry ∧
      fs.LeadsFrom entry place := by
  obtain ⟨last, point, parent⟩ := ends
  have split : steps p = (steps p).dropLast ++ [name] := by
    obtain ⟨front, eq⟩ := List.getLast?_eq_some_iff.mp last
    rw [eq, List.dropLast_concat]
  rw [place?] at h
  cases askable : isAskable p with
  | false =>
    rw [askable] at h
    cases h
  | true =>
    rw [askable, if_pos rfl, split] at h
    obtain ⟨directory, found, fits, goal⟩ := follow_concat_name point parent linkLimit h
    refine ⟨directory ++ [name], ?_, goal⟩
    unfold entry?
    simp [askable, last, point, parent, fits, found]

/-- A file that is written at a path which does not lead away is that path's entry. -/
theorem entry?_eq_of_not_leadsAway {name : String} (ends : EndsIn p name)
    (stays : ¬ fs.LeadsAway p) (found : fs.place? p = some place)
    (free : fs.passage? place = none) : fs.entry? p = some place := by
  obtain ⟨entry, named, rfl | ⟨target, link⟩⟩ := entry?_of_place? ends found
  · exact named
  · exact absurd ⟨⟨entry, named, _, link, nofun⟩, place, found, free⟩ stays

end FileSystem

end FederationTrust
