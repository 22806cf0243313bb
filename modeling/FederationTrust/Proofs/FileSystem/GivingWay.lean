import FederationTrust.Proofs.FileSystem.Change

/-!
# Links that give way

When a file takes the place of a link, paths that led through the link end at the file or lead
nowhere, and all others lead where they led. How many links a path may lead through matters for
whether it leads anywhere, but not for where: `Leads` is that relation without the limit.
-/

namespace FederationTrust

def Node.isLink : Node → Bool
  | .link _ => true
  | _ => false

namespace FileSystem

variable {a b fs : FileSystem} {p : Path} {here place entry goal x y : Place}
variable {name step : String} {todo rest : List String}

/-- The file at a path: its content, and when it was last modified. -/
def file? (fs : FileSystem) (p : Path) : Option (Bytes × Instant) :=
  match (fs.place? p).bind fs.node? with
  | some (.file content modified) => some (content, modified)
  | _ => none

theorem file?_eq_some_iff {content : Bytes} {modified : Instant} :
    fs.file? p = some (content, modified) ↔
      ∃ place, fs.place? p = some place ∧ fs.node? place = some (.file content modified) := by
  rw [file?]
  cases fs.place? p with
  | none => simp
  | some place =>
    simp only [Option.bind_some, Option.some.injEq, exists_eq_left']
    cases fs.node? place with
    | none => simp
    | some node => cases node <;> simp

theorem read?_eq_some_iff {content : Bytes} :
    fs.read? p = some content ↔ ∃ modified, fs.file? p = some (content, modified) := by
  simp only [read?, file?]
  cases (fs.place? p).bind fs.node? with
  | none => simp
  | some node => cases node <;> simp

theorem modified?_eq_some_iff {modified : Instant} :
    fs.modified? p = some modified ↔ ∃ content, fs.file? p = some (content, modified) := by
  simp only [modified?, file?]
  cases (fs.place? p).bind fs.node? with
  | none => simp
  | some node => cases node <;> simp

theorem sameFile_of_place? {q : Path} (first : fs.place? p = some place)
    (second : fs.place? q = some place) (inside : (fs.node? place).isSome = true) :
    fs.sameFile p q = true := by
  unfold sameFile canonical?
  rw [first, second, Option.filter_some, if_pos inside]
  exact beq_self_eq_true place

structure IsName (step : String) : Prop where
  point : step ≠ "."
  parent : step ≠ ".."
  fits : nameFits step = true

/-- Steps lead from a directory to a place, through however many links. -/
inductive Leads (fs : FileSystem) : Place → List String → Place → Prop
  | arrived (here : Place) : Leads fs here [] here
  | stay {here place : Place} {step : String} {rest : List String} (point : step = ".")
    (more : Leads fs here rest place) : Leads fs here (step :: rest) place
  | back {here place : Place} {step : String} {rest : List String} (parent : step = "..")
    (more : Leads fs here.dropLast rest place) : Leads fs here (step :: rest) place
  | enter {here place : Place} {name : String} {rest : List String} (named : IsName name)
    (seen : fs.passage? (here ++ [name]) = some .directory)
    (more : Leads fs (here ++ [name]) rest place) : Leads fs here (name :: rest) place
  | through {here place : Place} {name : String} {rest : List String} {target : Path}
    (named : IsName name) (seen : fs.passage? (here ++ [name]) = some (.link target))
    (more : Leads fs (startOf target here) (steps target ++ rest) place) :
    Leads fs here (name :: rest) place
  | last {here : Place} {name : String} (named : IsName name)
    (seen : fs.passage? (here ++ [name]) = none) : Leads fs here [name] (here ++ [name])

theorem isName_of_walk {onLink : Place → List String → Option Place} (point : step ≠ ".")
    (parent : step ≠ "..") (h : fs.walk onLink here (step :: rest) = some place) :
    IsName step := by
  cases fits : nameFits step with
  | true => exact ⟨point, parent, fits⟩
  | false =>
    rw [walk_of_not_fits point parent fits] at h
    cases h

theorem passage?_ne_file (fs : FileSystem) (place : Place) (content : Bytes)
    (modified : Instant) : fs.passage? place ≠ some (.file content modified) := by
  intro seen
  rw [passage?] at seen
  split at seen <;> cases seen

/-- A walk sees what is there, unless that is a file. -/
theorem passage?_eq_some_iff (node : Node)
    (other : ∀ content modified, node ≠ .file content modified) :
    fs.passage? place = some node ↔ fs.node? place = some node := by
  rw [passage?]
  cases fs.node? place with
  | none => simp
  | some found =>
    cases found with
    | file content modified => simp [(other content modified).symm]
    | directory | link => simp

theorem leads_of_walk {onLink : Place → List String → Option Place}
    (links : ∀ here todo place, onLink here todo = some place → fs.Leads here todo place)
    (h : fs.walk onLink here todo = some place) : fs.Leads here todo place := by
  induction todo generalizing here with
  | nil =>
    obtain rfl := Option.some.inj h
    exact .arrived _
  | cons step rest ih =>
    by_cases point : step = "."
    · subst point
      exact .stay rfl (ih h)
    by_cases parent : step = ".."
    · subst parent
      exact .back rfl (ih h)
    have named := isName_of_walk point parent h
    rw [walk_name point parent named.fits] at h
    cases seen : fs.passage? (here ++ [step]) with
    | none =>
      rw [seen] at h
      dsimp only at h
      split at h
      · rename_i finished
        subst finished
        obtain rfl := Option.some.inj h
        exact .last named seen
      · cases h
    | some node =>
      rw [seen] at h
      cases node with
      | file content modified => exact absurd seen (passage?_ne_file _ _ _ _)
      | directory => exact .enter named seen (ih h)
      | link target => exact .through named seen (links _ _ _ h)

theorem leads_of_follow {links : Nat} (h : fs.follow links here todo = some place) :
    fs.Leads here todo place := by
  induction links generalizing here todo place with
  | zero => exact leads_of_walk (fun _ _ _ h => by cases h) h
  | succ links ih => exact leads_of_walk (fun _ _ _ h => ih h) h

/-- The place of a path is the one that it leads to. -/
theorem leads_of_place? (h : fs.place? p = some place) :
    fs.Leads (startOf p fs.workingDirectory) (steps p) place := by
  rw [place?] at h
  split at h
  · exact leads_of_follow h
  · cases h

theorem LinkFree.of_nodes (h : ∀ n ∈ fs.nodes, n.2.isLink = false) : fs.LinkFree := by
  intro place target inside
  rw [node?] at inside
  split at inside
  · cases inside
  · obtain ⟨before, after, split, -⟩ := List.lookup_eq_some_iff.mp inside
    have seen := h (place, .link target) (split ▸ List.mem_append_right before List.mem_cons_self)
    cases seen

theorem LinkFree.passage?_ne_link (free : fs.LinkFree) (place : Place) (target : Path) :
    fs.passage? place ≠ some (.link target) :=
  fun seen => free place target ((passage?_eq_some_iff (.link target) (by simp)).mp seen)

/-- Steps that lead somewhere are followed to there through enough links. -/
theorem exists_follow_of_leads (h : fs.Leads here todo place) :
    ∃ links, fs.follow links here todo = some place := by
  induction h with
  | arrived here => exact ⟨0, rfl⟩
  | stay point more ih =>
    subst point
    obtain ⟨links, found⟩ := ih
    exact ⟨links, by cases links <;> exact found⟩
  | back parent more ih =>
    subst parent
    obtain ⟨links, found⟩ := ih
    exact ⟨links, by cases links <;> exact found⟩
  | enter named seen more ih =>
    obtain ⟨links, found⟩ := ih
    refine ⟨links, ?_⟩
    cases links <;>
      · rw [follow, walk_name named.point named.parent named.fits, seen]
        exact found
  | through named seen more ih =>
    obtain ⟨links, found⟩ := ih
    refine ⟨links + 1, ?_⟩
    rw [follow, walk_name named.point named.parent named.fits, seen]
    exact found
  | last named seen =>
    refine ⟨0, ?_⟩
    rw [follow, walk_name named.point named.parent named.fits, seen]
    rfl

/-- More links than a path may lead through would not lead it any further. -/
def WithinLinkLimit (fs : FileSystem) (p : Path) : Prop :=
  ∀ links place, fs.follow links (startOf p fs.workingDirectory) (steps p) = some place →
    fs.follow linkLimit (startOf p fs.workingDirectory) (steps p) = some place

theorem WithinLinkLimit.place?_of_leads (h : fs.WithinLinkLimit p) (askable : isAskable p = true)
    (leads : fs.Leads (startOf p fs.workingDirectory) (steps p) place) :
    fs.place? p = some place := by
  obtain ⟨links, found⟩ := exists_follow_of_leads leads
  rw [place?, if_pos askable]
  exact h links place found

theorem LinkFree.follow_of_leads (free : fs.LinkFree) (h : fs.Leads here todo place)
    (links : Nat) : fs.follow links here todo = some place := by
  induction h with
  | arrived here => cases links <;> rfl
  | stay point more ih =>
    subst point
    cases links <;> exact ih
  | back parent more ih =>
    subst parent
    cases links <;> exact ih
  | enter named seen more ih =>
    cases links <;>
      · rw [follow, walk_name named.point named.parent named.fits, seen]
        exact ih
  | through named seen more ih => exact absurd seen (free.passage?_ne_link _ _)
  | last named seen =>
    cases links <;>
      · rw [follow, walk_name named.point named.parent named.fits, seen]
        rfl

/-- Where no links stand, no path comes to the limit of links. -/
theorem LinkFree.withinLinkLimit (free : fs.LinkFree) (p : Path) : fs.WithinLinkLimit p :=
  fun _ _ found => free.follow_of_leads (leads_of_follow found) linkLimit

/-- Where the directory of a name is, there the name is looked for. -/
theorem Leads.join {front : List String} (directory : fs.Leads here (front ++ ["."]) place)
    (more : fs.Leads place rest goal) : fs.Leads here (front ++ rest) goal := by
  generalize path : front ++ ["."] = todo at directory
  induction directory generalizing front with
  | arrived here => simp at path
  | stay point before ih =>
    rcases List.append_eq_cons_iff.mp path with ⟨rfl, last⟩ | ⟨front, rfl, tail⟩
    · obtain ⟨-, rfl⟩ := List.cons.inj last
      cases before
      exact more
    · exact .stay point (ih more tail.symm)
  | back parent before ih =>
    rcases List.append_eq_cons_iff.mp path with ⟨rfl, last⟩ | ⟨front, rfl, tail⟩
    · rw [← (List.cons.inj last).1] at parent
      exact absurd parent (by decide)
    · exact .back parent (ih more tail.symm)
  | enter named seen before ih =>
    rcases List.append_eq_cons_iff.mp path with ⟨rfl, last⟩ | ⟨front, rfl, tail⟩
    · exact absurd (List.cons.inj last).1.symm named.point
    · exact .enter named seen (ih more tail.symm)
  | @through _ _ _ _ target named seen before ih =>
    rcases List.append_eq_cons_iff.mp path with ⟨rfl, last⟩ | ⟨front, rfl, tail⟩
    · exact absurd (List.cons.inj last).1.symm named.point
    · subst tail
      have joined := ih more (List.append_assoc (steps target) front ["."])
      rw [List.append_assoc] at joined
      exact .through named seen joined
  | last named seen =>
    rcases List.append_eq_cons_iff.mp path with ⟨rfl, last⟩ | ⟨front, rfl, tail⟩
    · exact absurd (List.cons.inj last).1.symm named.point
    · simp at tail

/-- What is looked for at the end of a path is looked for at its entry. -/
theorem exists_directory_of_named (h : fs.entry? p = some entry) :
    ∃ directory name, entry = directory ++ [name] ∧ IsName name ∧
      ∀ goal, fs.Leads directory [name] goal →
        fs.Leads (startOf p fs.workingDirectory) (steps p) goal := by
  unfold entry? at h
  split at h
  · rename_i name askable last
    split at h
    · cases h
    · rename_i named
      simp only [not_or, Bool.not_eq_true', Bool.not_eq_false] at named
      obtain ⟨directory, found, rfl⟩ := Option.map_eq_some_iff.mp h
      refine ⟨directory, name, rfl, ⟨named.1, named.2.1, named.2.2⟩, fun goal more => ?_⟩
      obtain ⟨front, split⟩ := List.getLast?_eq_some_iff.mp last
      rw [split, List.dropLast_concat] at found
      rw [split]
      exact (leads_of_follow found).join more
  · cases h

theorem isAskable_of_named (h : fs.entry? p = some entry) : isAskable p = true := by
  unfold entry? at h
  split at h
  · assumption
  · cases h

/-- Where no link stands at the entry of a path, the path leads to its entry. -/
theorem leads_of_named (h : fs.entry? p = some entry) (free : fs.passage? entry = none) :
    fs.Leads (startOf p fs.workingDirectory) (steps p) entry := by
  obtain ⟨directory, name, rfl, named, more⟩ := exists_directory_of_named h
  exact more _ (.last named free)

/-- A path leads to where the link at its entry leads. -/
theorem leads_of_named_link {target : Path} (h : fs.entry? p = some entry)
    (link : fs.passage? entry = some (.link target))
    (more : fs.Leads (startOf target entry.dropLast) (steps target) goal) :
    fs.Leads (startOf p fs.workingDirectory) (steps p) goal := by
  obtain ⟨directory, name, rfl, named, whole⟩ := exists_directory_of_named h
  rw [List.dropLast_concat] at more
  exact whole _ (.through named link (by rwa [List.append_nil]))

/-- One file system is another one in which a file, or nothing, took the place of what stood at
one place; elsewhere paths are led alike. -/
structure GivesWay (a b : FileSystem) (x : Place) : Prop where
  workingDirectory : b.workingDirectory = a.workingDirectory
  free : b.passage? x = none
  others : ∀ place, place ≠ x → b.passage? place = a.passage? place

theorem getLast?_cons_of_getLast? {α : Type} {l : List α} {last : α} (first : α)
    (h : l.getLast? = some last) : (first :: l).getLast? = some last := by
  rw [List.getLast?_cons, h, Option.getD_some]

/-- Where a link gave way to a file, a walk ends there, which takes a name as the last step, or
goes on as before. -/
theorem walk_of_givesWay (ways : GivesWay a b x)
    {before after : Place → List String → Option Place}
    (links : ∀ here todo y, after here todo = some y →
      (y = x ∧ ∃ last, todo.getLast? = some last ∧ last ≠ ".") ∨ before here todo = some y)
    (h : b.walk after here todo = some y) :
    (y = x ∧ ∃ last, todo.getLast? = some last ∧ last ≠ ".") ∨
      a.walk before here todo = some y := by
  induction todo generalizing here with
  | nil => exact Or.inr h
  | cons step rest ih =>
    -- The end of the rest is the end of the whole.
    have longer {other : Option Place} (found : (y = x ∧ ∃ last, rest.getLast? = some last ∧
        last ≠ ".") ∨ other = some y) : (y = x ∧ ∃ last, (step :: rest).getLast? = some last ∧
          last ≠ ".") ∨ other = some y := by
      rcases found with ⟨same, last, ends, point⟩ | found
      · exact Or.inl ⟨same, last, getLast?_cons_of_getLast? step ends, point⟩
      · exact Or.inr found
    by_cases point : step = "."
    · subst point
      exact longer (ih h)
    by_cases parent : step = ".."
    · subst parent
      exact longer (ih h)
    have named := isName_of_walk point parent h
    rw [walk_name point parent named.fits] at h ⊢
    by_cases there : here ++ [step] = x
    · rw [there, ways.free] at h
      dsimp only at h
      split at h
      · rename_i finished
        subst finished
        exact Or.inl ⟨(Option.some.inj h).symm, step, rfl, point⟩
      · cases h
    · rw [ways.others _ there] at h
      cases seen : a.passage? (here ++ [step]) with
      | none =>
        rw [seen] at h
        exact Or.inr h
      | some node =>
        rw [seen] at h
        cases node with
        | file content modified => exact Or.inr h
        | directory => exact longer (ih h)
        | link target =>
          rcases links _ _ _ h with ⟨same, last, ends, other⟩ | found
          · cases rest with
            | nil => exact Or.inl ⟨same, step, rfl, point⟩
            | cons next rest =>
              rw [List.getLast?_append, List.getLast?_cons, Option.some_or,
                ← List.getLast?_cons] at ends
              exact Or.inl ⟨same, last, getLast?_cons_of_getLast? step ends, other⟩
          · exact Or.inr found

theorem follow_of_givesWay (ways : GivesWay a b x) (links : Nat)
    (h : b.follow links here todo = some y) :
    (y = x ∧ ∃ last, todo.getLast? = some last ∧ last ≠ ".") ∨
      a.follow links here todo = some y := by
  induction links generalizing here todo y with
  | zero => exact walk_of_givesWay ways (fun _ _ _ h => by cases h) h
  | succ links ih => exact walk_of_givesWay ways (fun _ _ _ h => ih h) h

/-- A path leads to the place of the link that gave way, or to where it led. -/
theorem place?_of_givesWay (ways : GivesWay a b x) (h : b.place? p = some y) :
    y = x ∨ a.place? p = some y := by
  rw [place?] at h ⊢
  split at h
  · rename_i askable
    rw [if_pos askable, ← ways.workingDirectory]
    exact (follow_of_givesWay ways linkLimit h).imp_left And.left
  · cases h

/-- A path names the entry that it named, if it still names one. -/
theorem entry?_of_givesWay (ways : GivesWay a b x) (h : b.entry? p = some entry) :
    a.entry? p = some entry := by
  unfold entry? at h ⊢
  split at h
  · split at h
    · cases h
    · rename_i named
      obtain ⟨directory, found, rfl⟩ := Option.map_eq_some_iff.mp h
      rw [if_neg named, ← ways.workingDirectory]
      rcases follow_of_givesWay ways linkLimit found with ⟨-, last, ends, point⟩ | found
      · rw [List.getLast?_concat] at ends
        exact absurd (Option.some.inj ends).symm point
      · rw [found]
        rfl
  · cases h

theorem GivesWay.ne_of_seen (ways : GivesWay a b x) {node : Node}
    (seen : b.passage? y = some node) : y ≠ x := by
  rintro rfl
  rw [ways.free] at seen
  cases seen

/-- Steps that lead somewhere before and after a link gave way lead to the same place, unless
they came to the place of the link: then they led to where the link did. -/
theorem Leads.of_givesWay (ways : GivesWay a b x) (after : b.Leads here todo y)
    (before : a.Leads here todo goal) :
    goal = y ∨ y = x ∧ ∃ target, a.passage? x = some (.link target) ∧
      a.Leads (startOf target x.dropLast) (steps target) goal := by
  induction after with
  | arrived here =>
    cases before
    exact Or.inl rfl
  | stay point more ih =>
    cases before with
    | stay _ before => exact ih before
    | back parent => exact absurd (point.symm.trans parent) (by decide)
    | enter named | through named | last named => exact absurd point named.point
  | back parent more ih =>
    cases before with
    | stay point => exact absurd (point.symm.trans parent) (by decide)
    | back _ before => exact ih before
    | enter named | through named | last named => exact absurd parent named.parent
  | enter named seen more ih =>
    rw [ways.others _ (ways.ne_of_seen seen)] at seen
    cases before with
    | stay point => exact absurd point named.point
    | back parent => exact absurd parent named.parent
    | enter _ _ before => exact ih before
    | through _ link => cases seen.symm.trans link
    | last _ none => cases seen.symm.trans none
  | through named seen more ih =>
    rw [ways.others _ (ways.ne_of_seen seen)] at seen
    cases before with
    | stay point => exact absurd point named.point
    | back parent => exact absurd parent named.parent
    | enter _ directory => cases seen.symm.trans directory
    | through _ link before =>
      cases seen.symm.trans link
      exact ih before
    | last _ none => cases seen.symm.trans none
  | @last here name named seen =>
    cases before with
    | stay point => exact absurd point named.point
    | back parent => exact absurd parent named.parent
    | enter _ _ before =>
      cases before
      exact Or.inl rfl
    | @through _ _ _ _ target _ link before =>
      by_cases there : here ++ [name] = x
      · subst there
        refine Or.inr ⟨rfl, target, link, ?_⟩
        rw [List.append_nil] at before
        rwa [List.dropLast_concat]
      · rw [ways.others _ there] at seen
        cases seen.symm.trans link
    | last => exact Or.inl rfl

/-- A file that takes the place of none but a file leads no path elsewhere. -/
theorem GivesWay.sameWays (ways : GivesWay a b x) (free : a.passage? x = none) :
    SameWays a b := by
  refine ⟨ways.workingDirectory.symm, fun place => ?_⟩
  by_cases same : place = x
  · rw [same, free, ways.free]
  · exact (ways.others place same).symm

/-- After a file took the place of what an output names, a path leads to where it led, unless the
output led there as well. -/
theorem place?_kept_or_same {output : Path} (ways : GivesWay a b x)
    (named : a.entry? output = some x) (within : a.WithinLinkLimit output)
    (before : a.place? p = some goal) (file : a.passage? goal = none)
    (after : b.place? p = some y) : y = goal ∧ goal ≠ x ∨ a.place? output = some goal := by
  have leads := leads_of_place? after
  rw [ways.workingDirectory] at leads
  rcases leads.of_givesWay ways (leads_of_place? before) with rfl | ⟨rfl, target, link, more⟩
  · by_cases same : goal = x
    · subst same
      exact Or.inr (within.place?_of_leads (isAskable_of_named named) (leads_of_named named file))
    · exact Or.inl ⟨rfl, same⟩
  · exact Or.inr (within.place?_of_leads (isAskable_of_named named)
      (leads_of_named_link named link more))

def NoLinkAt (fs : FileSystem) (p : Path) : Prop :=
  ∀ entry, fs.entry? p = some entry → ∀ target, fs.passage? entry ≠ some (.link target)

theorem LinkFree.noLinkAt (free : fs.LinkFree) (p : Path) : fs.NoLinkAt p :=
  fun entry _ target => free.passage?_ne_link entry target

theorem NoLinkAt.not_leadsAway (h : fs.NoLinkAt p) : ¬ fs.LeadsAway p := by
  rintro ⟨⟨entry, named, node, seen, link⟩, -⟩
  cases node with
  | file content modified => exact passage?_ne_file _ _ _ _ seen
  | directory => exact link rfl
  | link target => exact h entry named target seen

theorem NoLinkAt.of_givesWay (h : a.NoLinkAt p) (ways : GivesWay a b x) : b.NoLinkAt p := by
  intro entry named target seen
  rw [ways.others entry (ways.ne_of_seen seen)] at seen
  exact h entry (entry?_of_givesWay ways named) target seen

def PlainAt (fs : FileSystem) (p : Path) : Prop :=
  ∀ entry, fs.entry? p = some entry → fs.passage? entry = none

theorem PlainAt.of_sameWays (h : a.PlainAt p) (same : SameWays a b) : b.PlainAt p := by
  intro entry named
  rw [← same.passage]
  exact h entry ((entry?_congr same p).trans named)

theorem PlainAt.of_givesWay (h : a.PlainAt p) (ways : GivesWay a b x) : b.PlainAt p := by
  intro entry named
  by_cases same : entry = x
  · rw [same, ways.free]
  · rw [ways.others entry same]
    exact h entry (entry?_of_givesWay ways named)

/-- What gave way at the entry of a path leaves a file or nothing there. -/
theorem GivesWay.plainAt (ways : GivesWay a b x) (named : a.entry? p = some x) : b.PlainAt p := by
  intro entry still
  obtain rfl := Option.some.inj (named.symm.trans (entry?_of_givesWay ways still))
  exact ways.free

theorem GivesWay.then_sameWays (first : GivesWay a b x) (second : SameWays b fs) :
    GivesWay a fs x := by
  refine ⟨second.workingDirectory.symm.trans first.workingDirectory, ?_, fun other apart => ?_⟩
  · rw [← second.passage]
    exact first.free
  · rw [← second.passage]
    exact first.others other apart

theorem SameWays.then_givesWay (first : SameWays a b) (second : GivesWay b fs x) :
    GivesWay a fs x := by
  refine ⟨second.workingDirectory.trans first.workingDirectory.symm, second.free, ?_⟩
  intro other apart
  rw [first.passage]
  exact second.others other apart

theorem GivesWay.then_givesWay (first : GivesWay a b x) (second : GivesWay b fs x) :
    GivesWay a fs x := by
  refine ⟨second.workingDirectory.trans first.workingDirectory, second.free, ?_⟩
  intro other apart
  exact (second.others other apart).trans (first.others other apart)

end FileSystem

end FederationTrust
