import FederationTrust.Proofs.FileSystem.Walk

/-!
# What changes do

Each operation changes the nodes at the places that it names and no others. Making,
extending and removing a file leaves every path where it led, so that a file that is
written through a path is found again by that path. No operation makes content up: what a
file holds afterwards was held before, or is what was put there.
-/

namespace FederationTrust

namespace FileSystem

variable {fs after : FileSystem} {p source target : Path} {place other : Place} {node : Node}
variable {content more : Bytes} {modified now : Instant}

theorem put_put (fs : FileSystem) (place : Place) (first second : Node) :
    (fs.put place first).put place second = fs.put place second := by
  simp [put]

theorem erase_put (fs : FileSystem) (place : Place) (node : Node) :
    (fs.put place node).erase place = fs.erase place := by
  simp [put, erase]

theorem passage?_congr {a b : FileSystem} (h : a.node? place = b.node? place) :
    a.passage? place = b.passage? place := by
  unfold passage?
  rw [h]

/-- A file can be put where nothing or a file is, and no path leads elsewhere. -/
theorem sameWays_put_file (free : fs.passage? place = none) (content : Bytes)
    (modified : Instant) : SameWays fs (fs.put place (.file content modified)) := by
  refine ⟨rfl, fun other => ?_⟩
  by_cases same : other = place
  · subst same
    rw [free]
    apply Eq.symm
    rw [passage?_eq_none_iff, node?_put_self (ne_nil_of_passage?_eq_none free)]
    exact Or.inr ⟨content, modified, rfl⟩
  · exact passage?_congr (node?_put_of_ne same _).symm

theorem place?_put_file (free : fs.passage? place = none) (p : Path) :
    (fs.put place (.file content modified)).place? p = fs.place? p :=
  (place?_congr (sameWays_put_file free content modified) p).symm

theorem entry?_put_file (free : fs.passage? place = none) (p : Path) :
    FileSystem.entry? (fs.put place (.file content modified)) p = fs.entry? p :=
  (entry?_congr (sameWays_put_file free content modified) p).symm

/-- A path can be opened for writing if a file or nothing is where it leads. -/
theorem truncate?_eq_some_iff :
    fs.truncate? p now = some after ↔
      ∃ place, fs.place? p = some place ∧ fs.passage? place = none ∧
        after = fs.put place (.file [] now) := by
  rw [truncate?]
  cases fs.place? p with
  | none => simp
  | some place =>
    simp only [Option.bind_eq_bind, Option.bind_some, Option.some.injEq, exists_eq_left', passage?]
    cases fs.node? place with
    | none => simp [eq_comm]
    | some node => cases node <;> simp [eq_comm]

/-- What is written through the path of a file comes behind its content. -/
theorem append?_put_file (found : fs.place? p = some place) (free : fs.passage? place = none) :
    (fs.put place (.file content modified)).append? p more now =
      some (fs.put place (.file (content ++ more) now)) := by
  have inside : (fs.put place (.file content modified)).node? place =
      some (.file content modified) := node?_put_self (ne_nil_of_passage?_eq_none free) _
  rw [append?, place?_put_file free, found]
  simp only [Option.bind_eq_bind, Option.bind_some, inside, put_put]

theorem rename?_eq_some_iff :
    fs.rename? source target = some after ↔
      ∃ place other node, fs.entry? source = some place ∧ fs.entry? target = some other ∧
        fs.node? place = some node ∧ node ≠ .directory ∧ fs.node? other ≠ some .directory ∧
        after = if place = other then fs else (fs.erase place).put other node := by
  rw [rename?]
  cases fs.entry? source with
  | none => simp
  | some place =>
    cases fs.entry? target with
    | none => simp
    | some other =>
      cases found : fs.node? place with
      | none => simp [found]
      | some node =>
        simp only [Option.bind_eq_bind, Option.bind_some, found]
        by_cases blocked : node = .directory ∨ fs.node? other = some .directory
        · rw [if_pos blocked]
          constructor
          · exact nofun
          · rintro ⟨_, _, _, ⟨⟩, ⟨⟩, same, file, vacant, -⟩
            obtain rfl := Option.some.inj (found.symm.trans same)
            exact absurd blocked (not_or.mpr ⟨file, vacant⟩)
        · rw [if_neg blocked, ← apply_ite some]
          obtain ⟨file, vacant⟩ := not_or.mp blocked
          constructor
          · intro done
            exact ⟨place, other, node, rfl, rfl, found, file, vacant, (Option.some.inj done).symm⟩
          · rintro ⟨_, _, _, ⟨⟩, ⟨⟩, same, -, -, rfl⟩
            obtain rfl := Option.some.inj (found.symm.trans same)
            rfl

theorem remove?_eq_some_iff :
    fs.remove? p = some after ↔
      ∃ place node, fs.entry? p = some place ∧ fs.node? place = some node ∧
        node ≠ .directory ∧ after = fs.erase place := by
  rw [remove?]
  cases fs.entry? p with
  | none => simp
  | some place =>
    cases found : fs.node? place with
    | none => simp [found]
    | some node =>
      simp only [Option.bind_eq_bind, Option.bind_some, found, Option.some.injEq]
      cases node <;> simp [eq_comm, found]

/-- Removing a file that was made at a path's entry leaves nothing there. -/
theorem remove?_put_file (named : fs.entry? p = some place) (free : fs.passage? place = none) :
    (fs.put place (.file content modified)).remove? p = some (fs.erase place) := by
  rw [remove?_eq_some_iff]
  exact ⟨place, _, (entry?_put_file free p).trans named,
    node?_put_self (ne_nil_of_passage?_eq_none free) _, nofun, (erase_put fs place _).symm⟩

def Holds (fs : FileSystem) (content : Bytes) : Prop :=
  ∃ place modified, fs.node? place = some (.file content modified)

theorem node?_of_node?_erase (h : (fs.erase place).node? other = some node)
    (file : node ≠ .directory) : fs.node? other = some node := by
  have notRoot : other ≠ [] := by
    rintro rfl
    exact file (Option.some.inj h).symm
  by_cases same : other = place
  · subst same
    rw [node?_erase_self notRoot] at h
    cases h
  · rw [← h, node?_erase_of_ne same]

theorem node?_of_node?_put {new : Node} (h : (fs.put place new).node? other = some node)
    (file : node ≠ .directory) : node = new ∨ fs.node? other = some node := by
  have notRoot : other ≠ [] := by
    rintro rfl
    exact file (Option.some.inj h).symm
  by_cases same : other = place
  · subst same
    rw [node?_put_self notRoot] at h
    exact Or.inl (Option.some.inj h).symm
  · rw [node?_put_of_ne same] at h
    exact Or.inr h

/-- The file system after a removal that may have found nothing to remove. -/
def afterRemoval (fs : FileSystem) (p : Path) : FileSystem :=
  (fs.remove? p).getD fs

theorem node?_afterRemoval (fs : FileSystem) (p : Path) (place : Place) :
    (fs.afterRemoval p).node? place = fs.node? place ∨
      fs.entry? p = some place ∧ (fs.afterRemoval p).node? place = none := by
  rw [afterRemoval]
  cases removal : fs.remove? p with
  | none => exact Or.inl rfl
  | some after =>
    obtain ⟨entry, node, named, inside, file, rfl⟩ := remove?_eq_some_iff.mp removal
    by_cases same : place = entry
    · subst same
      have notRoot : place ≠ [] := by
        rintro rfl
        exact file (Option.some.inj inside).symm
      exact Or.inr ⟨named, node?_erase_self notRoot⟩
    · exact Or.inl (node?_erase_of_ne same)

/-- A file that a path leads to is gone once what the path names is removed. -/
def Removable (fs : FileSystem) (p : Path) : Prop :=
  ∀ place ∈ fs.place? p, fs.passage? place = none → (fs.afterRemoval p).node? place = none

instance : Decidable (fs.Removable p) :=
  inferInstanceAs (Decidable (∀ place ∈ _, _ → _))

/-- A file is removable by a path that ends in a name, unless a link leads away from there. -/
theorem removable_of_not_leadsAway {name : String} (ends : EndsIn p name)
    (stays : ¬ fs.LeadsAway p) : fs.Removable p := by
  intro place found free
  have named := entry?_eq_of_not_leadsAway ends stays found free
  rcases passage?_eq_none_iff.mp free with nothing | ⟨content, modified, inside⟩
  · rcases node?_afterRemoval fs p place with kept | ⟨-, gone⟩
    · exact kept.trans nothing
    · exact gone
  · have removed := remove?_eq_some_iff.mpr ⟨place, _, named, inside, nofun, rfl⟩
    rw [afterRemoval, removed]
    exact node?_erase_self (ne_nil_of_passage?_eq_none free)

/-- No links stand anywhere, so that every path leads to its own entry. -/
def LinkFree (fs : FileSystem) : Prop :=
  ∀ place target, fs.node? place ≠ some (.link target)

namespace LinkFree

theorem not_leadsAway (h : fs.LinkFree) (p : Path) : ¬ fs.LeadsAway p := by
  rintro ⟨⟨entry, -, node, seen, link⟩, -⟩
  rw [passage?] at seen
  cases inside : fs.node? entry with
  | none => simp [inside] at seen
  | some other =>
    cases other with
    | file content modified => simp [inside] at seen
    | directory =>
      simp only [inside, Option.mem_def, Option.some.injEq] at seen
      exact link seen.symm
    | link target => exact h entry target inside

theorem put (h : fs.LinkFree) (noLink : ∀ target, node ≠ .link target) :
    (fs.put place node).LinkFree := by
  intro other target inside
  rcases node?_of_node?_put inside nofun with eq | before
  · exact noLink target eq.symm
  · exact h other target before

theorem erase (h : fs.LinkFree) : (fs.erase place).LinkFree :=
  fun other target inside => h other target (node?_of_node?_erase inside nofun)

theorem truncate (h : fs.LinkFree) (done : fs.truncate? p now = some after) :
    after.LinkFree := by
  obtain ⟨place, -, -, rfl⟩ := truncate?_eq_some_iff.mp done
  exact h.put nofun

theorem append (h : fs.LinkFree) (done : fs.append? p more now = some after) :
    after.LinkFree := by
  rw [append?] at done
  cases found : fs.place? p with
  | none => simp [found] at done
  | some place =>
    cases inside : fs.node? place with
    | none => simp [found, inside] at done
    | some node =>
      cases node with
      | directory => simp [found, inside] at done
      | link target => exact absurd inside (h place target)
      | file content modified =>
        simp only [found, Option.bind_eq_bind, Option.bind_some, inside, Option.some.injEq] at done
        subst done
        exact h.put nofun

theorem rename (h : fs.LinkFree) (done : fs.rename? source target = some after) :
    after.LinkFree := by
  obtain ⟨place, other, node, -, -, moved, -, -, rfl⟩ := rename?_eq_some_iff.mp done
  split
  · exact h
  · exact h.erase.put fun target link => h place target (link ▸ moved)

theorem afterRemoval (h : fs.LinkFree) (p : Path) : (fs.afterRemoval p).LinkFree := by
  rw [FileSystem.afterRemoval]
  cases removal : fs.remove? p with
  | none => exact h
  | some after =>
    obtain ⟨place, node, -, -, -, rfl⟩ := remove?_eq_some_iff.mp removal
    exact h.erase

end LinkFree

end FileSystem

end FederationTrust
