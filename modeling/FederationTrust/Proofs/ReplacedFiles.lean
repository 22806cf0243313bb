import FederationTrust.Proofs.FileSystem.GivingWay
import FederationTrust.Proofs.Replacement

/-!
# What paths name after a replacement

A replacement that succeeds puts a new file at the entry of its path, and nothing else changes
but that the temporary sibling is gone. So any path names the new file afterwards, or what it
named before, or nothing. A path that names a file keeps it, as long as that file is neither the
temporary sibling nor what the replaced path names itself.
-/

namespace FederationTrust

open FileSystem

namespace FileSystem

variable {fs : FileSystem} {p : Path} {place : Place}

theorem sameWays_erase (free : fs.passage? place = none) : SameWays fs (fs.erase place) := by
  refine ⟨rfl, fun other => ?_⟩
  by_cases same : other = place
  · subst same
    rw [free, Eq.comm, passage?_eq_none_iff]
    exact Or.inl (node?_erase_self (ne_nil_of_passage?_eq_none free))
  · exact passage?_congr (node?_erase_of_ne same).symm

/-- What is removed gives way to nothing. -/
theorem givesWay_erase (notRoot : place ≠ []) : GivesWay fs (fs.erase place) place :=
  ⟨rfl, passage?_eq_none_iff.mpr (Or.inl (node?_erase_self notRoot)),
    fun _ apart => passage?_congr (node?_erase_of_ne apart)⟩

theorem sameWays_afterRemoval (noLink : fs.NoLinkAt p) : SameWays fs (fs.afterRemoval p) := by
  rw [afterRemoval]
  cases removal : fs.remove? p with
  | none => exact ⟨rfl, fun _ => rfl⟩
  | some after =>
    obtain ⟨entry, node, named, inside, file, rfl⟩ := remove?_eq_some_iff.mp removal
    refine sameWays_erase (passage?_eq_none_iff.mpr (Or.inr ?_))
    cases node with
    | file content modified => exact ⟨content, modified, inside⟩
    | directory => exact absurd rfl file
    | link target =>
      have seen := (passage?_eq_some_iff (.link target) (by simp)).mpr inside
      exact absurd seen (noLink entry named target)

end FileSystem

namespace Replacement

variable {path other : Path} {content : Bytes} {w : Machine} {fs after : FileSystem}
variable {place entry : Place} {file : Bytes × Instant} {f : Failure}

/-- The files after a replacement that succeeded, with the entry at which the new file stands. -/
structure Done (path temporary : Path) (new : Node) (fs after : FileSystem) (entry : Place) :
    Prop where
  named : fs.entry? path = some entry
  ways : GivesWay fs after entry
  inside : after.node? entry = some new
  others : ∀ place, place ≠ entry → after.node? place = fs.node? place ∨
    fs.entry? temporary = some place ∧ after.node? place = none

/-- A file that is moved to an entry stands there and no longer where it was, and nothing else
changes but that what stood at the entry gives way. -/
theorem moved_file {modified : Instant} (free : fs.passage? place = none) (apart : place ≠ entry)
    (notRoot : entry ≠ []) :
    ((fs.erase place).put entry (.file content modified)).node? entry =
        some (.file content modified) ∧
      ((fs.erase place).put entry (.file content modified)).node? place = none ∧
      (∀ other, other ≠ place → other ≠ entry →
        ((fs.erase place).put entry (.file content modified)).node? other = fs.node? other) ∧
      GivesWay fs ((fs.erase place).put entry (.file content modified)) entry := by
  have there : ((fs.erase place).put entry (.file content modified)).node? entry =
      some (.file content modified) := node?_put_self notRoot _
  have gone : ((fs.erase place).put entry (.file content modified)).node? place = none := by
    rw [node?_put_of_ne apart, node?_erase_self (ne_nil_of_passage?_eq_none free)]
  have others (other : Place) (away : other ≠ place) (away' : other ≠ entry) :
      ((fs.erase place).put entry (.file content modified)).node? other = fs.node? other := by
    rw [node?_put_of_ne away', node?_erase_of_ne away]
  refine ⟨there, gone, others, rfl, ?_, fun other away => ?_⟩
  · exact passage?_eq_none_iff.mpr (Or.inr ⟨content, modified, there⟩)
  · by_cases same : other = place
    · rw [same, free, passage?_eq_none_iff]
      exact Or.inl gone
    · exact passage?_congr (others other same away)

/-- Moving a file from where nothing or a file was to an entry. -/
theorem done_of_moved {temporary : Path} {modified : Instant} (named : fs.entry? path = some entry)
    (vacant : fs.passage? entry ≠ some .directory) (sibling : fs.entry? temporary = some place)
    (free : fs.passage? place = none) :
    Done path temporary (.file content modified) fs
      (if place = entry then fs.put place (.file content modified)
        else ((fs.put place (.file content modified)).erase place).put entry
          (.file content modified)) entry := by
  have notRoot : entry ≠ [] := by
    rintro rfl
    exact vacant rfl
  by_cases same : place = entry
  · subst same
    rw [if_pos rfl]
    have ways := sameWays_put_file free content modified
    refine ⟨named, ⟨rfl, ?_, fun other _ => (ways.passage other).symm⟩,
      node?_put_self notRoot _, fun other apart => Or.inl (node?_put_of_ne apart _)⟩
    rw [← ways.passage, free]
  · rw [if_neg same, erase_put]
    obtain ⟨there, gone, others, ways⟩ := moved_file free same notRoot
    refine ⟨named, ways, there, fun other apart => ?_⟩
    by_cases left : other = place
    · subst left
      exact Or.inr ⟨sibling, gone⟩
    · exact Or.inl (others other left apart)

/-- Where no link stands at the temporary sibling, a replacement that succeeds moves it. -/
theorem replaceFile_done (done : ((replaceFile path content).run w).1 = .ok ())
    (noLink : w.files.NoLinkAt (path.temporarySibling w.processId)) :
    ∃ entry, Done path (path.temporarySibling w.processId) (.file content w.clock) w.files
      ((replaceFile path content).run w).2.files entry := by
  have ended := replaceFile_replaced path content w
  rw [done] at ended
  generalize ((replaceFile path content).run w).2.files = after at ended ⊢
  cases ended with
  | @done place _ found free renamed =>
    obtain ⟨name, ends⟩ := path.temporarySibling_endsIn w.processId
    obtain ⟨source, sibling, rfl | ⟨target, link⟩⟩ := entry?_of_place? ends found
    · obtain ⟨_, entry, node, source', named, moved, -, vacant, rfl⟩ :=
        rename?_eq_some_iff.mp renamed
      rw [entry?_put_file free] at source' named
      obtain rfl := Option.some.inj (sibling.symm.trans source')
      rw [node?_put_self (ne_nil_of_passage?_eq_none free)] at moved
      obtain rfl := Option.some.inj moved
      refine ⟨entry, done_of_moved named ?_ sibling free⟩
      rw [(sameWays_put_file free content w.clock).passage]
      exact fun seen => vacant ((passage?_eq_some_iff .directory (by simp)).mp seen)
    · exact absurd link (noLink source sibling target)

/-- A replacement that fails leads no path elsewhere. -/
theorem replaceFile_failed (failed : ((replaceFile path content).run w).1 = .error f)
    (noLink : w.files.NoLinkAt (path.temporarySibling w.processId)) :
    SameWays w.files ((replaceFile path content).run w).2.files := by
  have ended := replaceFile_replaced path content w
  rw [failed] at ended
  generalize ((replaceFile path content).run w).2.files = after at ended ⊢
  cases ended with
  | refused message => exact sameWays_afterRemoval noLink
  | undone message found free left _ asked =>
    rw [left, (afterRemoval_put_file noLink.not_leadsAway found free).2]
    exact sameWays_erase free

/-- A path names the new file after a replacement, or a file that it named before. -/
theorem file?_of_replaceFile (noLink : w.files.NoLinkAt (path.temporarySibling w.processId))
    (h : ((replaceFile path content).run w).2.files.file? other = some file) :
    w.files.file? other = some file ∨
      ((replaceFile path content).run w).1 = .ok () ∧ file = (content, w.clock) := by
  obtain ⟨held, modified⟩ := file
  obtain ⟨place, found, inside⟩ := file?_eq_some_iff.mp h
  cases result : ((replaceFile path content).run w).1 with
  | ok done =>
    obtain ⟨entry, done⟩ := replaceFile_done result noLink
    by_cases same : place = entry
    · rw [same, done.inside] at inside
      obtain ⟨rfl, rfl⟩ := Node.file.inj (Option.some.inj inside)
      exact Or.inr ⟨rfl, rfl⟩
    · have before := (place?_of_givesWay done.ways found).resolve_left same
      rcases done.others place same with kept | ⟨-, gone⟩
      · rw [kept] at inside
        exact Or.inl (file?_eq_some_iff.mpr ⟨place, before, inside⟩)
      · cases gone.symm.trans inside
  | error f =>
    have before := (place?_congr (replaceFile_failed result noLink) other).trans found
    rcases failed_replaceFile_nodes result noLink.not_leadsAway place with kept | ⟨-, gone⟩
    · rw [kept] at inside
      exact Or.inl (file?_eq_some_iff.mpr ⟨place, before, inside⟩)
    · cases gone.symm.trans inside

section Kept

/-! The file that a path names is not the temporary sibling. -/

variable {named : Path}

/-- A replacement that fails leaves any other file, and under the same path. -/
theorem kept_of_failed (failed : ((replaceFile path content).run w).1 = .error f)
    (noLink : w.files.NoLinkAt (path.temporarySibling w.processId))
    (apart : ∀ entry, w.files.entry? (path.temporarySibling w.processId) = some entry →
      w.files.place? named ≠ some entry) (found : w.files.place? named = some place) :
    ((replaceFile path content).run w).2.files.place? named = some place ∧
      ((replaceFile path content).run w).2.files.node? place = w.files.node? place := by
  refine ⟨(place?_congr (replaceFile_failed failed noLink) named).symm.trans found, ?_⟩
  rcases failed_replaceFile_nodes failed noLink.not_leadsAway place with kept | ⟨sibling, -⟩
  · exact kept
  · exact absurd found (apart place sibling)

/-- A replacement that succeeds leaves any file but the one that it replaces, and no path but
those of the new file names another file than before. -/
theorem kept_of_done (result : ((replaceFile path content).run w).1 = .ok ())
    (noLink : w.files.NoLinkAt (path.temporarySibling w.processId))
    (apart : ∀ entry, w.files.entry? (path.temporarySibling w.processId) = some entry →
      w.files.place? named ≠ some entry)
    (within : w.files.WithinLinkLimit path) (found : w.files.place? named = some place)
    (free : w.files.passage? place = none) (other : w.files.place? path ≠ some place) :
    ((replaceFile path content).run w).2.files.node? place = w.files.node? place ∧
      (∀ goal, ((replaceFile path content).run w).2.files.place? named = some goal →
        goal = place) ∧
      (w.files.PlainAt path →
        SameWays w.files ((replaceFile path content).run w).2.files) := by
  obtain ⟨entry, done⟩ := replaceFile_done result noLink
  have elsewhere : place ≠ entry := by
    rintro rfl
    exact other (within.place?_of_leads (isAskable_of_named done.named)
      (leads_of_named done.named free))
  refine ⟨?_, fun goal after => ?_, fun plain => done.ways.sameWays (plain entry done.named)⟩
  · rcases done.others place elsewhere with kept | ⟨sibling, -⟩
    · exact kept
    · exact absurd found (apart place sibling)
  · rcases place?_kept_or_same done.ways done.named within found free after with ⟨same, -⟩ | same
    · exact same
    · exact absurd same other

end Kept

end Replacement

end FederationTrust
