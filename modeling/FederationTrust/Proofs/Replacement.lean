import FederationTrust.Proofs.FileSystem.Change
import FederationTrust.Proofs.FileSystem.Temporary
import FederationTrust.Proofs.Runs
import FederationTrust.Replacement

/-!
# What a replacement does

A replacement either puts the whole content in place of the file, or fails. A failed one
takes back what it wrote, unless a link leads away from the temporary file: then the link is
removed, and what was written stays where it led, which is a beginning of the content.
-/

namespace FederationTrust

namespace Replacement

variable {path temporary : Path} {content held : Bytes} {w u : Machine} {fs : FileSystem}
variable {place : Place}

/-- Behind what a file holds comes all that is written, or some octets of it. -/
theorem writePieces_cases (found : fs.place? path = some place) (free : fs.passage? place = none)
    (pieces : List Bytes) (start : w.files = fs.put place (.file held w.clock)) :
    (∃ u, (writePieces path pieces).run w = (.ok (), u) ∧
        u.files = fs.put place (.file (held ++ pieces.flatten) w.clock)) ∨
      ∃ reason u kept, (writePieces path pieces).run w = (.error reason, u) ∧
        u.files = fs.put place (.file kept w.clock) ∧ kept <+: held ++ pieces.flatten := by
  induction pieces generalizing held w with
  | nil =>
    rw [List.flatten_nil, List.append_nil]
    exact Or.inl ⟨w, rfl, start⟩
  | cons piece rest ih =>
    rw [writePieces, Job.run_bind, Job.run_ask, List.flatten_cons]
    simp only [Machine.answer]
    -- Whatever octets the call takes, they come behind those that stand there already.
    have grown (more : Bytes) : w.files.append? path more w.clock =
        some (fs.put place (.file (held ++ more) w.clock)) := by
      rw [start]
      exact FileSystem.append?_put_file found free
    rcases w.appendTo_cases path piece with ⟨after, appended, eq⟩ | ⟨reason, eq⟩ |
      ⟨reason, octets, eq⟩
    · rw [eq, ← List.append_assoc]
      obtain rfl := Option.some.inj ((grown piece).symm.trans appended)
      exact @ih (held ++ piece) (w.afterCall _) rfl
    · rw [eq]
      exact Or.inr ⟨reason, _, held, rfl, start, List.prefix_append _ _⟩
    · rw [eq, grown, ← List.append_assoc]
      refine Or.inr ⟨reason, _, _, rfl, rfl, List.IsPrefix.trans ?_ (List.prefix_append _ _)⟩
      exact (List.prefix_append_right_inj held).mpr (List.take_prefix octets piece)

/-- A file is made whole or in part where its path leads; or nothing is made at all. -/
theorem writeFile_cases (path : Path) (pieces : List Bytes) (w : Machine) :
    (∃ reason u, (writeFile path pieces).run w = (.error reason, u) ∧ u.files = w.files) ∨
      ∃ place, w.files.place? path = some place ∧ w.files.passage? place = none ∧
        ((∃ u, (writeFile path pieces).run w = (.ok (), u) ∧
            u.files = w.files.put place (.file pieces.flatten w.clock)) ∨
          ∃ reason u kept, (writeFile path pieces).run w = (.error reason, u) ∧
            u.files = w.files.put place (.file kept w.clock) ∧ kept <+: pieces.flatten) := by
  rw [writeFile, Job.run_bind, Job.run_ask]
  simp only [Machine.answer]
  rcases w.change_cases (w.files.truncate? path w.clock) with ⟨after, made, eq⟩ | ⟨reason, eq⟩
  · rw [eq]
    obtain ⟨place, found, free, rfl⟩ := FileSystem.truncate?_eq_some_iff.mp made
    exact Or.inr ⟨place, found, free,
      @writePieces_cases path [] (w.afterCall _) w.files place found free pieces rfl⟩
  · rw [eq]
    exact Or.inl ⟨reason, _, rfl, rfl⟩

/-- How a replacement by way of a temporary file ends, given what was asked for on the way. -/
inductive Replaced (path temporary : Path) (content : Bytes) (w : Machine)
    (calls : List (SystemCall × Machine)) : Except Failure Unit → FileSystem → Prop where
  | done {place : Place} {after : FileSystem}
    (found : w.files.place? temporary = some place) (free : w.files.passage? place = none)
    (renamed : (w.files.put place (.file content w.clock)).rename? temporary path = some after) :
    Replaced path temporary content w calls (.ok ()) after
  | refused (message : String) :
    Replaced path temporary content w calls (.error (.output path.text message))
      (w.files.afterRemoval temporary)
  | undone {place : Place} {kept : Bytes} {u : Machine} (message : String)
    (found : w.files.place? temporary = some place) (free : w.files.passage? place = none)
    (left : u.files = w.files.put place (.file kept w.clock)) (part : kept <+: content)
    (asked : (.remove temporary, u) ∈ calls) :
    Replaced path temporary content w calls (.error (.output path.text message))
      (u.files.afterRemoval temporary)

theorem Replaced.mono {calls more : List (SystemCall × Machine)}
    {result : Except Failure Unit} {after : FileSystem}
    (h : Replaced path temporary content w calls result after)
    (sub : ∀ call ∈ calls, call ∈ more) :
    Replaced path temporary content w more result after := by
  cases h with
  | done found free renamed => exact .done found free renamed
  | refused message => exact .refused message
  | undone message found free left part asked =>
    exact .undone message found free left part (sub _ asked)

theorem replaceVia_replaced (path temporary : Path) (pieces : List Bytes) (w : Machine) :
    Replaced path temporary pieces.flatten w ((replaceVia path temporary pieces).calls w)
      ((replaceVia path temporary pieces).run w).1
      ((replaceVia path temporary pieces).run w).2.files := by
  rw [replaceVia, Job.run_bind, Job.calls_bind]
  rcases writeFile_cases temporary pieces w with ⟨reason, u, eq, left⟩ |
    ⟨place, found, free, ⟨u, eq, left⟩ | ⟨reason, u, kept, eq, left, part⟩⟩
  · rw [eq]
    have same : u.files.afterRemoval temporary = w.files.afterRemoval temporary := by rw [left]
    show Replaced _ _ _ _ _ (.error (.output path.text _)) (u.files.afterRemoval temporary)
    rw [same]
    exact .refused _
  · rw [eq]
    simp only [Job.run_bind, Job.calls_bind]
    rw [Job.run_ask]
    simp only [Machine.answer]
    rcases u.change_cases (u.files.rename? temporary path) with ⟨after, renamed, eq⟩ |
      ⟨reason, eq⟩
    · rw [eq]
      rw [left] at renamed
      show Replaced _ _ _ _ _ (.ok ()) ((Job.log _ _ _).run _).2.files
      rw [(Job.Looks.log _ _ _).run_files]
      exact .done found free renamed
    · rw [eq]
      refine .undone _ found free left (List.prefix_refl _) ?_
      exact List.mem_append_right _ (List.mem_append_right _ (List.mem_singleton_self _))
  · rw [eq]
    exact .undone _ found free left part (List.mem_append_right _ (List.mem_singleton_self _))

theorem replaceFile_replaced (path : Path) (content : Bytes) (w : Machine) :
    Replaced path (path.temporarySibling w.processId) content w
      ((replaceFile path content).calls w) ((replaceFile path content).run w).1
      ((replaceFile path content).run w).2.files := by
  have parts := replaceVia_replaced path (path.temporarySibling w.processId) [content] w
  rw [List.flatten_singleton] at parts
  exact parts.mono fun call asked => List.mem_cons_of_mem _ asked

/-- What was written at the entry of a temporary sibling is taken back as a whole. -/
theorem afterRemoval_put_file {p : Path} {processId : Nat} {modified : Instant}
    (stays : ¬ fs.LeadsAway (p.temporarySibling processId))
    (found : fs.place? (p.temporarySibling processId) = some place)
    (free : fs.passage? place = none) :
    fs.entry? (p.temporarySibling processId) = some place ∧
      (fs.put place (.file content modified)).afterRemoval (p.temporarySibling processId) =
        fs.erase place := by
  obtain ⟨name, ends⟩ := p.temporarySibling_endsIn processId
  have named := FileSystem.entry?_eq_of_not_leadsAway ends stays found free
  refine ⟨named, ?_⟩
  rw [FileSystem.afterRemoval, FileSystem.remove?_put_file named free]
  rfl

/-- A failed replacement changes nothing but that its temporary sibling is gone. -/
theorem failed_replaceFile_nodes {f : Failure}
    (failed : ((replaceFile path content).run w).1 = .error f)
    (stays : ¬ w.files.LeadsAway (path.temporarySibling w.processId)) (place : Place) :
    ((replaceFile path content).run w).2.files.node? place = w.files.node? place ∨
      w.files.entry? (path.temporarySibling w.processId) = some place ∧
        ((replaceFile path content).run w).2.files.node? place = none := by
  have ended := replaceFile_replaced path content w
  rw [failed] at ended
  generalize ((replaceFile path content).run w).2.files = after at ended ⊢
  cases ended with
  | refused message => exact FileSystem.node?_afterRemoval _ _ _
  | @undone entry kept u message found free left _ asked =>
    obtain ⟨named, gone⟩ := afterRemoval_put_file stays found free
    rw [left, gone]
    by_cases same : place = entry
    · subst same
      have notRoot := FileSystem.ne_nil_of_passage?_eq_none free
      exact Or.inr ⟨named, FileSystem.node?_erase_self notRoot⟩
    · exact Or.inl (FileSystem.node?_erase_of_ne same)

/-- Whether a call, if it is the removal of a file, leaves nothing of that file. -/
def Removes : SystemCall × Machine → Prop
  | (.remove path, w) => w.files.Removable path
  | _ => True

instance : DecidablePred Removes := fun call => by
  unfold Removes
  split <;> infer_instance

/-- A temporary sibling can be removed, unless a link leads away from there. -/
theorem removes_of_not_leadsAway {processId : Nat}
    (stays : ¬ w.files.LeadsAway (path.temporarySibling processId)) :
    Removes (.remove (path.temporarySibling processId), w) := by
  obtain ⟨name, ends⟩ := path.temporarySibling_endsIn processId
  exact FileSystem.removable_of_not_leadsAway ends stays

/-- A content is the beginning of another one, or that one itself if files can be removed. -/
structure PartOf (calls : List (SystemCall × Machine)) (held whole : Bytes) : Prop where
  begins : held <+: whole
  whole : (∀ call ∈ calls, Removes call) → held = whole

theorem PartOf.refl (calls : List (SystemCall × Machine)) (held : Bytes) :
    PartOf calls held held :=
  ⟨List.prefix_refl held, fun _ => rfl⟩

theorem PartOf.trans {calls : List (SystemCall × Machine)} {whole : Bytes}
    (first : PartOf calls held content) (second : PartOf calls content whole) :
    PartOf calls held whole :=
  ⟨first.begins.trans second.begins, fun each => (first.whole each).trans (second.whole each)⟩

theorem PartOf.mono {calls more : List (SystemCall × Machine)} (h : PartOf calls held content)
    (sub : ∀ call ∈ calls, call ∈ more) : PartOf more held content :=
  ⟨h.begins, fun each => h.whole fun call asked => each call (sub call asked)⟩

end Replacement

end FederationTrust
