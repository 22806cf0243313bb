import FederationTrust.Proofs.UntornWrites

/-!
# Replacements are all or nothing

A replacement that succeeds has put the whole content at the path, and one that fails has left the
path as it was, whatever was refused and wherever a write stopped. In both cases the temporary
sibling is gone and nothing else has changed.

No link may lead from the temporary sibling to a file. A path that goes by way of a link at its own
entry leads nowhere when that link is replaced, and one that goes by way of its temporary sibling
leads nowhere when that is removed.
-/

namespace FederationTrust

open FileSystem Replacement

namespace FileSystem

variable {fs a b : FileSystem} {p path : Path} {place entry : Place}

structure SameNodes (a b : FileSystem) : Prop where
  workingDirectory : a.workingDirectory = b.workingDirectory
  nodes : ∀ place, a.node? place = b.node? place

namespace SameNodes

theorem ways (same : SameNodes a b) : SameWays a b :=
  ⟨same.workingDirectory, fun place => passage?_congr (same.nodes place)⟩

theorem leadsTo? (same : SameNodes a b) (p : Path) : a.leadsTo? p = b.leadsTo? p := by
  rw [FileSystem.leadsTo?, FileSystem.leadsTo?, place?_congr same.ways]
  exact congrArg _ (funext same.nodes)

theorem stands? (same : SameNodes a b) (p : Path) : a.stands? p = b.stands? p := by
  rw [FileSystem.stands?, FileSystem.stands?, entry?_congr same.ways]
  exact congrArg _ (funext same.nodes)

end SameNodes

/-- Where a link is cut, a file stands in its place. -/
theorem givesWay_cutLinks (vacant : fs.passage? entry ≠ some .directory) :
    GivesWay fs (fs.cutLinks [entry]) entry := by
  refine ⟨(cutLinks_seesLess fs _).workingDirectory,
    passage?_cutLinks List.mem_cons_self vacant, fun other apart => ?_⟩
  rw [cutLinks]
  split
  · exact passage?_congr (node?_put_of_ne apart _)
  · rfl

/-- Whatever takes the place of a link, paths go the same ways from then on. -/
theorem GivesWay.alike (first : GivesWay fs a place) (second : GivesWay fs b place) :
    SameWays a b := by
  refine ⟨first.workingDirectory.trans second.workingDirectory.symm, fun other => ?_⟩
  by_cases same : other = place
  · rw [same, first.free, second.free]
  · rw [first.others other same, second.others other same]

/-- What stood at the entry of a path gives way to a file there, to which the path leads exactly
if it does not go by way of a link at its own entry. -/
theorem GivesWay.leadsTo?_iff {content : Bytes} {modified : Instant} (ways : GivesWay fs a entry)
    (named : fs.entry? path = some entry) (vacant : fs.passage? entry ≠ some .directory)
    (inside : a.node? entry = some (.file content modified)) :
    a.leadsTo? path = some (.file content modified) ↔ fs.ClearWays [path] := by
  have cut : a.entry? path = FileSystem.entry? (fs.cutLinks [entry]) path :=
    entry?_congr (ways.alike (givesWay_cutLinks vacant)) path
  have clear : fs.ClearWays [path] ↔ a.entry? path = some entry := by
    rw [ClearWays, cut]
    simp only [List.mem_singleton, forall_eq, List.filterMap_cons, named, List.filterMap_nil]
  rw [clear]
  refine ⟨fun leads => ?_, fun still => leadsTo?_eq_file still inside⟩
  obtain ⟨goal, found, -⟩ := Option.bind_eq_some_iff.mp leads
  obtain ⟨-, front, name, -, split, isName, -⟩ := entry?_eq_some_iff.mp named
  have ends : EndsIn path name := ⟨by rw [split, List.getLast?_concat], isName.point, isName.parent⟩
  obtain ⟨still, named', -⟩ := entry?_of_place? ends found
  rw [named', ← named, entry?_of_givesWay ways named']

/-- A path leads to a place other than this one, and not by way of a link there. -/
def Bypasses (fs : FileSystem) (path sibling : Path) : Prop :=
  ∀ entry ∈ fs.entry? sibling,
    (fs.cutLinks [entry]).place? path = fs.place? path ∧ fs.place? path ≠ some entry

instance (fs : FileSystem) (path sibling : Path) : Decidable (fs.Bypasses path sibling) :=
  inferInstanceAs (Decidable (∀ entry ∈ fs.entry? sibling, _))

/-- A path that bypasses another one leads to the same when what stands at that is removed. -/
theorem Bypasses.leadsTo?_afterRemoval (h : fs.Bypasses path p) :
    (fs.afterRemoval p).leadsTo? path = fs.leadsTo? path := by
  rw [afterRemoval]
  cases removal : fs.remove? p with
  | none => rfl
  | some after =>
    obtain ⟨entry, node, named, inside, file, rfl⟩ := remove?_eq_some_iff.mp removal
    obtain ⟨bypassed, elsewhere⟩ := h entry named
    have notRoot : entry ≠ [] := by
      rintro rfl
      exact file (Option.some.inj inside).symm
    have vacant : fs.passage? entry ≠ some .directory := by
      rw [Ne, passage?_eq_some_iff .directory (by simp), inside]
      exact fun same => file (Option.some.inj same)
    have ways : SameWays (fs.erase entry) (fs.cutLinks [entry]) :=
      (givesWay_erase notRoot).alike (givesWay_cutLinks vacant)
    rw [Option.getD_some, leadsTo?, leadsTo?, place?_congr ways, bypassed]
    cases found : fs.place? path with
    | none => rfl
    | some goal =>
      have apart : goal ≠ entry := fun same => elsewhere (found.trans (congrArg some same))
      exact node?_erase_of_ne apart

/-- A file that is made where nothing or a file is, and then removed, is as good as removed. -/
theorem sameNodes_erase (named : fs.entry? p = some place) (free : fs.passage? place = none) :
    SameNodes (fs.erase place) (fs.afterRemoval p) := by
  rw [afterRemoval]
  rcases passage?_eq_none_iff.mp free with nothing | ⟨content, modified, inside⟩
  · have kept : fs.remove? p = none := by
      rw [remove?, named]
      simp [nothing]
    rw [kept]
    refine ⟨rfl, fun other => ?_⟩
    by_cases same : other = place
    · rw [same, node?_erase_self (ne_nil_of_passage?_eq_none free), Option.getD_none, nothing]
    · exact node?_erase_of_ne same
  · rw [remove?_eq_some_iff.mpr ⟨place, _, named, inside, by simp, rfl⟩]
    exact ⟨rfl, fun _ => rfl⟩

end FileSystem

namespace Replacement

variable {path : Path} {content : Bytes} {w : Machine} {f : Failure}

/-- Where no link leads away, a temporary file is made at the entry of its path. -/
theorem sibling_of_place? {fs : FileSystem} {processId : Nat} {place : Place}
    (stays : ¬ fs.LeadsAway (path.temporarySibling processId))
    (found : fs.place? (path.temporarySibling processId) = some place)
    (free : fs.passage? place = none) :
    fs.entry? (path.temporarySibling processId) = some place := by
  obtain ⟨name, ends⟩ := path.temporarySibling_endsIn processId
  exact entry?_eq_of_not_leadsAway ends stays found free

/-- A replacement that succeeds moves its temporary sibling over what stood at the path. -/
theorem replaceFile_moved (done : ((replaceFile path content).run w).1 = .ok ())
    (stays : ¬ w.files.LeadsAway (path.temporarySibling w.processId)) :
    ∃ place entry, w.files.entry? (path.temporarySibling w.processId) = some place ∧
      w.files.passage? place = none ∧ w.files.entry? path = some entry ∧
      w.files.passage? entry ≠ some .directory ∧
      ((replaceFile path content).run w).2.files =
        (w.files.erase place).put entry (.file content w.clock) := by
  have ended := replaceFile_replaced path content w
  rw [done] at ended
  generalize ((replaceFile path content).run w).2.files = after at ended ⊢
  cases ended with
  | @done place _ found free renamed =>
    have sibling := sibling_of_place? stays found free
    obtain ⟨_, entry, node, source, named, moved, -, vacant, rfl⟩ :=
      rename?_eq_some_iff.mp renamed
    rw [entry?_put_file free] at source named
    obtain rfl := Option.some.inj (sibling.symm.trans source)
    rw [node?_put_self (ne_nil_of_passage?_eq_none free)] at moved
    obtain rfl := Option.some.inj moved
    rw [if_neg (Path.temporarySibling_entry_ne_entry sibling named), erase_put]
    refine ⟨_, entry, sibling, free, named, ?_, rfl⟩
    rw [(sameWays_put_file free content w.clock).passage]
    exact fun seen => vacant ((passage?_eq_some_iff .directory (by simp)).mp seen)

/-- A replacement that fails tells of the path, and does no more to the files than to remove what
stood at its temporary sibling. -/
theorem replaceFile_undone (failed : ((replaceFile path content).run w).1 = .error f)
    (stays : ¬ w.files.LeadsAway (path.temporarySibling w.processId)) :
    (∃ message, f = .output path.text message) ∧
      SameNodes ((replaceFile path content).run w).2.files
        (w.files.afterRemoval (path.temporarySibling w.processId)) := by
  have ended := replaceFile_replaced path content w
  rw [failed] at ended
  generalize ((replaceFile path content).run w).2.files = after at ended ⊢
  cases ended with
  | refused message => exact ⟨⟨message, rfl⟩, rfl, fun _ => rfl⟩
  | undone message found free left _ asked =>
    obtain ⟨sibling, gone⟩ := afterRemoval_put_file stays found free
    rw [left, gone]
    exact ⟨⟨message, rfl⟩, sameNodes_erase sibling free⟩

/-- A temporary sibling can be made, and its path does not name a directory. -/
structure Replaceable (fs : FileSystem) (path temporary : Path) : Prop where
  writable : ∃ place, fs.place? temporary = some place ∧ fs.passage? place = none
  vacant : ∃ entry, fs.entry? path = some entry ∧ fs.passage? entry ≠ some .directory

theorem change_of_calm (calm : ∀ n, w.faults n = .none) (after : FileSystem) :
    w.change (some after) = (.ok (), w.afterCall after) := by
  simp only [Machine.change, Machine.nextFault, calm]

/-- Where no call goes wrong, the temporary file is written as a whole. -/
theorem writeFile_of_calm (content : Bytes) {temporary : Path} {place : Place}
    (calm : ∀ n, w.faults n = .none) (found : w.files.place? temporary = some place)
    (free : w.files.passage? place = none) :
    ∃ u, (writeFile temporary [content]).run w = (.ok (), u) ∧ (∀ n, u.faults n = .none) ∧
      u.files = w.files.put place (.file content w.clock) := by
  have made : w.files.truncate? temporary w.clock =
      some (w.files.put place (.file [] w.clock)) :=
    truncate?_eq_some_iff.mpr ⟨place, found, free, rfl⟩
  have grown : (w.files.put place (.file [] w.clock)).append? temporary content w.clock =
      some (w.files.put place (.file content w.clock)) := append?_put_file found free
  let opened := w.afterCall (w.files.put place (.file [] w.clock))
  have appended : opened.appendTo temporary content =
      (.ok (), opened.afterCall (w.files.put place (.file content w.clock))) := by
    rw [Machine.appendTo, Machine.nextFault, show opened.faults _ = .none from calm _]
    show opened.change ((w.files.put place (.file [] w.clock)).append? temporary content
      w.clock) = _
    rw [grown]
    exact change_of_calm (w := opened) calm _
  refine ⟨opened.afterCall _, ?_, calm, rfl⟩
  rw [writeFile, Job.run_bind, Job.run_ask]
  simp only [Machine.answer, made, change_of_calm calm, writePieces]
  rw [Job.run_bind, Job.run_ask]
  simp only [Machine.answer]
  rw [appended]
  rfl

/-- Where no call goes wrong, a replacement succeeds exactly if it can. -/
theorem replaceFile_of_calm (calm : ∀ n, w.faults n = .none)
    (stays : ¬ w.files.LeadsAway (path.temporarySibling w.processId)) :
    ((replaceFile path content).run w).1 = .ok () ↔
      Replaceable w.files path (path.temporarySibling w.processId) := by
  constructor
  · intro done
    obtain ⟨place, entry, sibling, free, named, vacant, -⟩ := replaceFile_moved done stays
    exact ⟨⟨place, place?_of_entry? sibling free, free⟩, entry, named, vacant⟩
  · rintro ⟨⟨place, found, free⟩, entry, named, vacant⟩
    obtain ⟨u, written, still, files⟩ := writeFile_of_calm content calm found free
    have ways := sameWays_put_file free content w.clock
    have sibling := sibling_of_place? stays found free
    obtain ⟨after, renamed⟩ : ∃ after,
        u.files.rename? (path.temporarySibling w.processId) path = some after := by
      refine ⟨_, rename?_eq_some_iff.mpr ⟨place, entry, .file content w.clock, ?_, ?_, ?_,
        nofun, ?_, rfl⟩⟩
      · rw [files, entry?_put_file free, sibling]
      · rw [files, entry?_put_file free, named]
      · rw [files, node?_put_self (ne_nil_of_passage?_eq_none free)]
      · rw [files, Ne, ← passage?_eq_some_iff .directory (by simp), ← ways.passage]
        exact vacant
    show ((replaceVia path (path.temporarySibling w.processId) [content]).run w).1 = _
    rw [replaceVia, Job.run_bind, written]
    dsimp only
    rw [Job.run_bind, Job.run_ask]
    simp only [Machine.answer, renamed, change_of_calm still]
    rfl

structure Complete (path : Path) (content : Bytes) (w : Machine) (after : FileSystem) : Prop where
  held : ∃ entry, w.files.entry? path = some entry ∧
    after.node? entry = some (.file content w.clock)
  leads : after.leadsTo? path = some (.file content w.clock) ↔ w.files.ClearWays [path]
  sibling : after.stands? (path.temporarySibling w.processId) = none
  others : ∀ place, w.files.entry? path ≠ some place →
    w.files.entry? (path.temporarySibling w.processId) ≠ some place →
    after.node? place = w.files.node? place

/-- All but the temporary sibling of a path is as it was on a machine. -/
structure Kept (path : Path) (w : Machine) (files : FileSystem) : Prop where
  held : ∀ entry, w.files.entry? path = some entry → files.node? entry = w.files.node? entry
  leads : w.files.Bypasses path (path.temporarySibling w.processId) →
    files.leadsTo? path = w.files.leadsTo? path
  others : ∀ place, w.files.entry? (path.temporarySibling w.processId) ≠ some place →
    files.node? place = w.files.node? place

/-- The files after a replacement that failed with this failure, and while it asked for these
calls. -/
structure Undone (path : Path) (w : Machine) (calls : List (SystemCall × Machine)) (f : Failure)
    (after : FileSystem) : Prop where
  told : ∃ message, f = .output path.text message
  kept : Kept path w after
  sibling : ∀ node, after.stands? (path.temporarySibling w.processId) = some node →
    node = .directory ∧
      w.files.stands? (path.temporarySibling w.processId) = some .directory
  meanwhile : ∀ call ∈ calls, Kept path w call.2.files

/-- The files while a temporary file is made: as they were, or with some content in it. -/
inductive Begun (w : Machine) (temporary : Path) : FileSystem → Prop
  | nothing : Begun w temporary w.files
  | written {place : Place} (content : Bytes) (found : w.files.place? temporary = some place)
    (free : w.files.passage? place = none) :
    Begun w temporary (w.files.put place (.file content w.clock))

theorem Begun.kept {files : FileSystem}
    (begun : Begun w (path.temporarySibling w.processId) files)
    (stays : ¬ w.files.LeadsAway (path.temporarySibling w.processId)) : Kept path w files := by
  cases begun with
  | nothing => exact ⟨fun _ _ => rfl, fun _ => rfl, fun _ _ => rfl⟩
  | @written place content found free =>
    have sibling := sibling_of_place? stays found free
    have others (other : Place)
        (apart : w.files.entry? (path.temporarySibling w.processId) ≠ some other) :
        (w.files.put place (.file content w.clock)).node? other = w.files.node? other :=
      node?_put_of_ne (fun same => apart (sibling.trans (congrArg some same.symm))) _
    refine ⟨fun entry named => others entry fun same => ?_, fun bypasses => ?_, others⟩
    · exact Path.temporarySibling_entry_ne_entry same named rfl
    · rw [leadsTo?, leadsTo?, ← place?_congr (sameWays_put_file free content w.clock)]
      cases found : w.files.place? path with
      | none => rfl
      | some goal =>
        exact others goal fun same => (bypasses goal same).2 found

/-- After an attempt to write the temporary file, it is there in part or whole, or nothing is. -/
theorem begun_writeFile (temporary : Path) (pieces : List Bytes) (w : Machine) :
    Begun w temporary ((writeFile temporary pieces).run w).2.files := by
  rcases writeFile_cases temporary pieces w with ⟨reason, u, eq, left⟩ |
    ⟨place, found, free, ⟨u, eq, left⟩ | ⟨reason, u, kept, eq, left, _⟩⟩
  · rw [eq, left]
    exact .nothing
  · rw [eq, left]
    exact .written _ found free
  · rw [eq, left]
    exact .written _ found free

theorem begun_calls_writePieces {temporary : Path} {place : Place} {u : Machine} {held : Bytes}
    (found : w.files.place? temporary = some place) (free : w.files.passage? place = none)
    (pieces : List Bytes) (start : u.files = w.files.put place (.file held w.clock))
    (clock : u.clock = w.clock) :
    ∀ call ∈ (writePieces temporary pieces).calls u, Begun w temporary call.2.files := by
  have now : Begun w temporary u.files := start ▸ .written held found free
  induction pieces generalizing held u with
  | nil => exact nofun
  | cons piece rest ih =>
    rw [writePieces, Job.calls_bind, Job.run_ask]
    simp only [Machine.answer]
    rcases u.appendTo_cases temporary piece with ⟨after, appended, eq⟩ | ⟨reason, eq⟩ |
      ⟨reason, octets, eq⟩
    · rw [eq]
      rw [start, clock, append?_put_file found free] at appended
      obtain rfl := Option.some.inj appended
      exact List.forall_mem_cons.mpr
        ⟨now, @ih (u.afterCall _) (held ++ piece) rfl clock (.written _ found free)⟩
    · rw [eq]
      exact List.forall_mem_singleton.mpr now
    · rw [eq]
      exact List.forall_mem_singleton.mpr now

theorem begun_calls_writeFile (temporary : Path) (pieces : List Bytes) (w : Machine) :
    ∀ call ∈ (writeFile temporary pieces).calls w, Begun w temporary call.2.files := by
  rw [writeFile, Job.calls_bind, Job.run_ask]
  simp only [Machine.answer]
  rcases w.change_cases (w.files.truncate? temporary w.clock) with ⟨after, made, eq⟩ | ⟨reason, eq⟩
  · obtain ⟨place, found, free, rfl⟩ := truncate?_eq_some_iff.mp made
    rw [eq]
    exact List.forall_mem_cons.mpr ⟨.nothing,
      begun_calls_writePieces (u := w.afterCall _) found free pieces rfl rfl⟩
  · rw [eq]
    exact List.forall_mem_singleton.mpr .nothing

/-- Until a replacement has failed, only its temporary file is touched. -/
theorem begun_calls_replaceVia {temporary : Path} {pieces : List Bytes}
    (failed : ((replaceVia path temporary pieces).run w).1 = .error f) :
    ∀ call ∈ (replaceVia path temporary pieces).calls w, Begun w temporary call.2.files := by
  have meanwhile := begun_calls_writeFile temporary pieces w
  have written := begun_writeFile temporary pieces w
  rw [replaceVia, Job.run_bind] at failed
  rw [replaceVia, Job.calls_bind, List.forall_mem_append]
  refine ⟨meanwhile, ?_⟩
  generalize (writeFile temporary pieces).run w = made at written failed ⊢
  obtain ⟨result, u⟩ := made
  cases result with
  | error reason => exact List.forall_mem_singleton.mpr written
  | ok _ =>
    rw [Job.run_bind, Job.run_ask] at failed
    rw [Job.calls_bind, Job.run_ask]
    simp only [Machine.answer] at failed ⊢
    rcases u.change_cases (u.files.rename? temporary path) with ⟨after, -, eq⟩ | ⟨reason, eq⟩
    · rw [eq] at failed
      cases failed
    · rw [eq]
      exact List.forall_mem_cons.mpr ⟨written, List.forall_mem_singleton.mpr written⟩

theorem begun_calls_replaceFile (failed : ((replaceFile path content).run w).1 = .error f) :
    ∀ call ∈ (replaceFile path content).calls w,
      Begun w (path.temporarySibling w.processId) call.2.files := by
  have via : ((replaceVia path (path.temporarySibling w.processId) [content]).run w).1 =
      .error f := failed
  exact List.forall_mem_cons.mpr ⟨.nothing, begun_calls_replaceVia via⟩

theorem Complete.of_done (done : ((replaceFile path content).run w).1 = .ok ())
    (stays : ¬ w.files.LeadsAway (path.temporarySibling w.processId)) :
    Complete path content w ((replaceFile path content).run w).2.files := by
  obtain ⟨place, entry, sibling, free, named, vacant, moved⟩ := replaceFile_moved done stays
  have notRoot : entry ≠ [] := by
    rintro rfl
    exact vacant rfl
  obtain ⟨there, gone, others, ways⟩ := @moved_file content w.files place entry w.clock free
    (Path.temporarySibling_entry_ne_entry sibling named) notRoot
  rw [moved]
  refine ⟨⟨entry, named, there⟩, ways.leadsTo?_iff named vacant there, ?_,
    fun other away apart => ?_⟩
  · refine Option.eq_none_iff_forall_ne_some.mpr fun node stands => ?_
    obtain ⟨still, found, inside⟩ := stands?_eq_some_iff.mp stands
    obtain rfl := Option.some.inj (sibling.symm.trans (entry?_of_givesWay ways found))
    cases gone.symm.trans inside
  · refine others other ?_ ?_
    · rintro rfl
      exact apart sibling
    · rintro rfl
      exact away named

theorem Undone.of_failed (failed : ((replaceFile path content).run w).1 = .error f)
    (stays : ¬ w.files.LeadsAway (path.temporarySibling w.processId)) :
    Undone path w ((replaceFile path content).calls w) f
      ((replaceFile path content).run w).2.files := by
  obtain ⟨told, same⟩ := replaceFile_undone failed stays
  have others (place : Place)
      (apart : w.files.entry? (path.temporarySibling w.processId) ≠ some place) :
      ((replaceFile path content).run w).2.files.node? place = w.files.node? place := by
    rw [same.nodes]
    exact (node?_afterRemoval _ _ place).resolve_right fun ⟨sibling, _⟩ => apart sibling
  refine ⟨told, ⟨fun entry named => others entry fun sibling => ?_, fun bypasses => ?_, others⟩,
    fun node stands => ?_, fun call asked => (begun_calls_replaceFile failed call asked).kept stays⟩
  · exact Path.temporarySibling_entry_ne_entry sibling named rfl
  · rw [same.leadsTo?, bypasses.leadsTo?_afterRemoval]
  · rw [same.stands?] at stands
    obtain ⟨rfl, stood⟩ := stands?_of_afterRemoval stands
    exact ⟨rfl, stood⟩

end Replacement

/-- A replacement is all or nothing, whatever is refused on the way. If it succeeds, the new file
stands at the path, which leads to it exactly if its way does not go through a link there, and no
temporary sibling is left. If it fails, it tells of the path; what stands there is what stood there,
and the path leads to what it led to unless it went by way of the temporary sibling, of which
nothing is left but a directory that was there before. That also holds whenever the failing
replacement asks for something, so too when it asks for the removal of its temporary sibling. All
else is as it was. Where no call goes wrong, it succeeds exactly if its temporary sibling can be
made and no directory is in its way. A temporary sibling is never the path itself, and is in the
same directory. -/
theorem replacement_all_or_nothing (path : Path) (content : Bytes) (w : Machine)
    (stays : ¬ w.files.LeadsAway (path.temporarySibling w.processId)) :
    (((replaceFile path content).run w).1 = .ok () →
      Complete path content w ((replaceFile path content).run w).2.files) ∧
    (∀ f, ((replaceFile path content).run w).1 = .error f →
      Undone path w ((replaceFile path content).calls w) f
        ((replaceFile path content).run w).2.files) ∧
    ((∀ n, w.faults n = .none) →
      (((replaceFile path content).run w).1 = .ok () ↔
        Replaceable w.files path (path.temporarySibling w.processId))) ∧
    (path.temporarySibling w.processId).same path = false ∧
    (path.temporarySibling w.processId).parentComponents = path.parentComponents :=
  ⟨fun done => .of_done done stays, fun _ failed => .of_failed failed stays,
    fun calm => replaceFile_of_calm calm stays, path.temporarySibling_beside w.processId⟩

namespace Sample

/-- A machine that writes one octet and then finds its disk full. -/
def brimful : Machine :=
  { Machine.quiet contested ⟨5, 0⟩ 1 with faults := fun n => if n = 1 then .short 1 else .none }

end Sample

/-- On a full disk the old file stays as it is, with its time; otherwise the new one takes its
place. -/
theorem file_replaced_or_kept :
    ¬ Sample.contested.LeadsAway (Path.temporarySibling ⟨"p"⟩ 1) ∧
      ((replaceFile ⟨"p"⟩ [0x61, 0x62]).run Sample.brimful).2.files.leadsTo? ⟨"p"⟩ =
        some (.file [0x6F] ⟨1, 0⟩) ∧
      ((replaceFile ⟨"p"⟩ [0x61, 0x62]).run
        (Machine.quiet Sample.contested ⟨5, 0⟩ 1)).2.files.leadsTo? ⟨"p"⟩ =
          some (.file [0x61, 0x62] ⟨5, 0⟩) := by
  have stays : ¬ Sample.contested.LeadsAway (Path.temporarySibling ⟨"p"⟩ 1) := by decide
  obtain ⟨-, full, -⟩ := replacement_all_or_nothing ⟨"p"⟩ [0x61, 0x62] Sample.brimful stays
  obtain ⟨free, -⟩ := replacement_all_or_nothing ⟨"p"⟩ [0x61, 0x62]
    (Machine.quiet Sample.contested ⟨5, 0⟩ 1) stays
  exact ⟨stays, (full _ rfl).kept.leads (by decide), (free rfl).leads.mpr (by decide)⟩

/-- A replacement can succeed and leave nothing to be read at its path. -/
theorem nothing_read_through_replaced_link :
    ((replaceFile ⟨"x/../x"⟩ [0x61]).run (Machine.quiet Sample.crossing ⟨5, 0⟩ 1)).1 = .ok () ∧
      ¬ Sample.crossing.LeadsAway (Path.temporarySibling ⟨"x/../x"⟩ 1) ∧
      ((replaceFile ⟨"x/../x"⟩ [0x61]).run
        (Machine.quiet Sample.crossing ⟨5, 0⟩ 1)).2.files.read? ⟨"x/../x"⟩ = none :=
  ⟨rfl, by decide +kernel, by decide +kernel⟩

end FederationTrust
