import FederationTrust.Proofs.FileSystem.GivingWay

/-!
# Ways that stay clear

A file that replaces a link can cut off paths that led through the link, among them the path that
it was replaced by. A path whose way does not lead through such a link names the same entry when
the link is gone, and leads to the file that stands there.
-/

namespace FederationTrust

namespace FileSystem

variable {a b c fs : FileSystem} {p : Path} {here place entry directory : Place} {name : String}
variable {todo : List String}

/-- A walk to a directory is a walk to any file or free place of that directory. -/
theorem walk_concat_of_free {onLink : Place → List String → Option Place} (named : IsName name)
    (free : fs.passage? (directory ++ [name]) = none)
    (links : ∀ here todo, onLink here (todo ++ ["."]) = some directory →
      onLink here (todo ++ [name]) = some (directory ++ [name]))
    (h : fs.walk onLink here (todo ++ ["."]) = some directory) :
    fs.walk onLink here (todo ++ [name]) = some (directory ++ [name]) := by
  induction todo generalizing here with
  | nil =>
    obtain rfl : here = directory := Option.some.inj h
    rw [List.nil_append, walk_name named.point named.parent named.fits, free]
    exact if_pos rfl
  | cons step rest ih =>
    rw [List.cons_append] at h ⊢
    by_cases point : step = "."
    · subst point
      exact ih h
    by_cases parent : step = ".."
    · subst parent
      exact ih h
    have along := isName_of_walk point parent h
    rw [walk_name point parent along.fits] at h ⊢
    cases seen : fs.passage? (here ++ [step]) with
    | none =>
      rw [seen] at h
      simp at h
    | some node =>
      rw [seen] at h
      cases node with
      | file content modified => exact absurd seen (passage?_ne_file _ _ _ _)
      | directory => exact ih h
      | link target =>
        dsimp only at h ⊢
        rw [← List.append_assoc] at h ⊢
        exact links _ _ h

theorem follow_concat_of_free (named : IsName name)
    (free : fs.passage? (directory ++ [name]) = none) (links : Nat)
    (h : fs.follow links here (todo ++ ["."]) = some directory) :
    fs.follow links here (todo ++ [name]) = some (directory ++ [name]) := by
  induction links generalizing here todo with
  | zero => exact walk_concat_of_free named free (fun _ _ h => by cases h) h
  | succ links ih => exact walk_concat_of_free named free (fun _ _ h => ih h) h

/-- What an entry is: a name in the directory that the steps before it lead to. -/
theorem entry?_eq_some_iff :
    fs.entry? p = some entry ↔
      isAskable p = true ∧ ∃ front name directory, steps p = front ++ [name] ∧ IsName name ∧
        fs.follow linkLimit (startOf p fs.workingDirectory) (front ++ ["."]) = some directory ∧
        entry = directory ++ [name] := by
  unfold entry?
  constructor
  · intro h
    split at h
    · rename_i name askable last
      split at h
      · cases h
      · rename_i named
        simp only [not_or, Bool.not_eq_true', Bool.not_eq_false] at named
        obtain ⟨directory, found, rfl⟩ := Option.map_eq_some_iff.mp h
        obtain ⟨front, split⟩ := List.getLast?_eq_some_iff.mp last
        rw [split, List.dropLast_concat] at found
        exact ⟨askable, front, name, directory, split, ⟨named.1, named.2.1, named.2.2⟩, found, rfl⟩
    · cases h
  · rintro ⟨askable, front, name, directory, split, named, found, rfl⟩
    have plain : ¬ (name = "." ∨ name = ".." ∨ (!nameFits name) = true) := by
      simp [named.point, named.parent, named.fits]
    rw [askable, split, List.getLast?_concat, List.dropLast_concat]
    dsimp only
    rw [if_neg plain, found]
    rfl

/-- Where neither a link nor a directory stands at the entry of a path, it leads there. -/
theorem place?_of_entry? (h : fs.entry? p = some entry) (free : fs.passage? entry = none) :
    fs.place? p = some entry := by
  obtain ⟨askable, front, name, directory, split, named, found, rfl⟩ := entry?_eq_some_iff.mp h
  rw [place?, if_pos askable, split]
  exact follow_concat_of_free named free linkLimit found

/-- What stands at the entry of a path is what it leads to, if that is a file. -/
theorem file?_of_entry? {content : Bytes} {modified : Instant} (h : fs.entry? p = some entry)
    (inside : fs.node? entry = some (.file content modified)) :
    fs.file? p = some (content, modified) := by
  have free : fs.passage? entry = none :=
    passage?_eq_none_iff.mpr (Or.inr ⟨content, modified, inside⟩)
  exact file?_eq_some_iff.mpr ⟨entry, place?_of_entry? h free, inside⟩

/-- A walk of one file system sees at each place what a walk of the other sees, or nothing. -/
structure SeesLess (a b : FileSystem) : Prop where
  workingDirectory : a.workingDirectory = b.workingDirectory
  passage : ∀ place, a.passage? place = none ∨ a.passage? place = b.passage? place

theorem SeesLess.refl (fs : FileSystem) : SeesLess fs fs :=
  ⟨rfl, fun _ => Or.inr rfl⟩

theorem SeesLess.of_sameWays (less : SeesLess a b) (same : SameWays b c) : SeesLess a c := by
  refine ⟨less.workingDirectory.trans same.workingDirectory, fun place => ?_⟩
  rw [← same.passage]
  exact less.passage place

/-- What is not seen anyway can give way. -/
theorem SeesLess.of_givesWay (less : SeesLess a b) (ways : GivesWay b c place)
    (unseen : a.passage? place = none) : SeesLess a c := by
  refine ⟨less.workingDirectory.trans ways.workingDirectory.symm, fun other => ?_⟩
  by_cases same : other = place
  · exact Or.inl (same ▸ unseen)
  · rw [ways.others other same]
    exact less.passage other

theorem walk_of_seesLess (less : SeesLess a b)
    {onLink onLink' : Place → List String → Option Place}
    (links : ∀ here todo, onLink here (todo ++ ["."]) = some place →
      onLink' here (todo ++ ["."]) = some place)
    (h : a.walk onLink here (todo ++ ["."]) = some place) :
    b.walk onLink' here (todo ++ ["."]) = some place := by
  induction todo generalizing here with
  | nil => exact h
  | cons step rest ih =>
    rw [List.cons_append] at h ⊢
    by_cases point : step = "."
    · subst point
      exact ih h
    by_cases parent : step = ".."
    · subst parent
      exact ih h
    have along := isName_of_walk point parent h
    rw [walk_name point parent along.fits] at h ⊢
    rcases less.passage (here ++ [step]) with unseen | same
    · rw [unseen] at h
      simp at h
    · rw [← same]
      cases seen : a.passage? (here ++ [step]) with
      | none =>
        rw [seen] at h
        simp at h
      | some node =>
        rw [seen] at h
        cases node with
        | file content modified => exact absurd seen (passage?_ne_file _ _ _ _)
        | directory => exact ih h
        | link target =>
          dsimp only at h ⊢
          rw [← List.append_assoc] at h ⊢
          exact links _ _ h

theorem follow_of_seesLess (less : SeesLess a b) (links : Nat)
    (h : a.follow links here (todo ++ ["."]) = some place) :
    b.follow links here (todo ++ ["."]) = some place := by
  induction links generalizing here todo with
  | zero => exact walk_of_seesLess less (fun _ _ h => by cases h) h
  | succ links ih => exact walk_of_seesLess less (fun _ _ h => ih h) h

/-- An entry that is found where less is seen is found where more is seen. -/
theorem SeesLess.entry? (less : SeesLess a b) (h : a.entry? p = some entry) :
    b.entry? p = some entry := by
  obtain ⟨askable, front, name, directory, split, named, found, rfl⟩ := entry?_eq_some_iff.mp h
  rw [less.workingDirectory] at found
  exact entry?_eq_some_iff.mpr ⟨askable, front, name, directory, split, named,
    follow_of_seesLess less linkLimit found, rfl⟩

/-- The file system with a file in place of each link at one of these places. -/
def cutLinks (fs : FileSystem) : List Place → FileSystem
  | [] => fs
  | place :: rest =>
    if (fs.node? place).any Node.isLink then (fs.put place (.file [] ⟨0, 0⟩)).cutLinks rest
    else fs.cutLinks rest

/-- No path of a list leads through a link at the entry of one of them. -/
def ClearWays (fs : FileSystem) (paths : List Path) : Prop :=
  ∀ p ∈ paths, FileSystem.entry? (fs.cutLinks (paths.filterMap fs.entry?)) p = fs.entry? p

instance (fs : FileSystem) (paths : List Path) : Decidable (fs.ClearWays paths) :=
  inferInstanceAs (Decidable (∀ p ∈ paths, _))

theorem SeesLess.trans (first : SeesLess a b) (second : SeesLess b c) : SeesLess a c := by
  refine ⟨first.workingDirectory.trans second.workingDirectory, fun place => ?_⟩
  rcases first.passage place with unseen | same
  · exact Or.inl unseen
  · rw [same]
    exact second.passage place

theorem seesLess_put_file (link : ((fs.node? place).any Node.isLink) = true) (content : Bytes)
    (modified : Instant) : SeesLess (fs.put place (.file content modified)) fs ∧
      (fs.put place (.file content modified)).passage? place = none := by
  have notRoot : place ≠ [] := by
    rintro rfl
    cases link
  have unseen : (fs.put place (.file content modified)).passage? place = none := by
    rw [passage?_eq_none_iff, node?_put_self notRoot]
    exact Or.inr ⟨content, modified, rfl⟩
  refine ⟨⟨rfl, fun other => ?_⟩, unseen⟩
  by_cases same : other = place
  · exact Or.inl (same ▸ unseen)
  · exact Or.inr (passage?_congr (node?_put_of_ne same _))

theorem cutLinks_seesLess (fs : FileSystem) (places : List Place) :
    SeesLess (fs.cutLinks places) fs := by
  induction places generalizing fs with
  | nil => exact .refl fs
  | cons place rest ih =>
    rw [cutLinks]
    split
    · rename_i link
      exact (ih _).trans (seesLess_put_file link [] ⟨0, 0⟩).1
    · exact ih fs

/-- Where no directory stands, nothing is seen when links are cut. -/
theorem passage?_cutLinks {places : List Place} (member : place ∈ places)
    (vacant : fs.passage? place ≠ some .directory) :
    (fs.cutLinks places).passage? place = none := by
  -- What is unseen before more links are cut stays so.
  have kept {fs : FileSystem} (unseen : fs.passage? place = none) (rest : List Place) :
      (fs.cutLinks rest).passage? place = none := by
    rcases (cutLinks_seesLess fs rest).passage place with none | same
    · exact none
    · exact same.trans unseen
  induction places generalizing fs with
  | nil => cases member
  | cons first rest ih =>
    rw [cutLinks]
    split
    · rename_i link
      obtain ⟨less, unseen⟩ := seesLess_put_file link [] ⟨0, 0⟩
      by_cases same : place = first
      · exact kept (same ▸ unseen) rest
      · refine ih ((List.mem_cons.mp member).resolve_left same) ?_
        rcases less.passage place with none | there
        · rw [none]
          exact nofun
        · rw [there]
          exact vacant
    · rename_i noLink
      by_cases same : place = first
      · subst same
        refine kept ?_ rest
        rw [passage?] at vacant ⊢
        split at vacant
        · exact absurd rfl vacant
        · rename_i target link
          rw [link] at noLink
          exact absurd rfl noLink
        · rfl
        · rfl
      · exact ih ((List.mem_cons.mp member).resolve_left same) vacant

/-- Where no link stands at an entry of the paths, no link is in the way. -/
theorem ClearWays.of_noLinkAt {paths : List Path} (noLink : ∀ p ∈ paths, fs.NoLinkAt p) :
    fs.ClearWays paths := by
  have none : ∀ places, (∀ place ∈ places, ((fs.node? place).any Node.isLink) = false) →
      fs.cutLinks places = fs := by
    intro places plain
    induction places with
    | nil => rfl
    | cons place rest ih =>
      rw [cutLinks, if_neg (by rw [plain place List.mem_cons_self]; exact Bool.false_ne_true)]
      exact ih fun other member => plain other (List.mem_cons_of_mem _ member)
  intro p _
  rw [none]
  intro place member
  obtain ⟨q, among, named⟩ := List.mem_filterMap.mp member
  cases inside : fs.node? place with
  | none => rfl
  | some node =>
    cases node with
    | file content modified => rfl
    | directory => rfl
    | link target =>
      exact absurd ((passage?_eq_some_iff (.link target) (by simp)).mpr inside)
        (noLink q among place named target)

end FileSystem

end FederationTrust
