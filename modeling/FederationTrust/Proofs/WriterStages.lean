import FederationTrust.Proofs.FileSystem.Siblings
import FederationTrust.Proofs.ReplacedFiles

/-!
# Stages of a writer

A replacement is made of calls, between which others can make theirs. After each call it is at one
of few stages: its temporary sibling holds the pieces that were written so far, or it is being
given up, or it has been moved over the path. No call but the move touches anything else than the
temporary sibling.
-/

namespace FederationTrust

open FileSystem

namespace FileSystem

variable {fs after : FileSystem} {p : Path} {place : Place} {node : Node}

/-- What stands at the entry of a path; a link there is not followed. -/
def stands? (fs : FileSystem) (p : Path) : Option Node :=
  (fs.entry? p).bind fs.node?

theorem stands?_eq_some_iff :
    fs.stands? p = some node ↔ ∃ entry, fs.entry? p = some entry ∧ fs.node? entry = some node :=
  Option.bind_eq_some_iff

theorem stands?_eq_node? (h : fs.entry? p = some place) : fs.stands? p = fs.node? place := by
  rw [stands?, h, Option.bind_some]

theorem stands?_put_file {content : Bytes} {modified : Instant} (named : fs.entry? p = some place)
    (free : fs.passage? place = none) :
    (fs.put place (.file content modified)).stands? p = some (.file content modified) := by
  rw [stands?_eq_node? ((entry?_put_file free p).trans named),
    node?_put_self (ne_nil_of_passage?_eq_none free)]

/-- Nothing stands at a path, except that a directory may. -/
def Cleared (fs : FileSystem) (p : Path) : Prop :=
  ∀ node, fs.stands? p = some node → node = .directory

/-- What still stands at a path after a removal is a directory, which stood there before. -/
theorem stands?_of_afterRemoval (stands : (fs.afterRemoval p).stands? p = some node) :
    node = .directory ∧ fs.stands? p = some node := by
  rw [afterRemoval] at stands
  cases removal : fs.remove? p with
  | none =>
    rw [removal, Option.getD_none] at stands
    obtain ⟨entry, named, inside⟩ := stands?_eq_some_iff.mp stands
    refine ⟨?_, stands⟩
    by_contra file
    cases removal.symm.trans (remove?_eq_some_iff.mpr ⟨entry, node, named, inside, file, rfl⟩)
  | some after =>
    rw [removal, Option.getD_some] at stands
    obtain ⟨entry, found, named, there, file, rfl⟩ := remove?_eq_some_iff.mp removal
    obtain ⟨still, named', inside⟩ := stands?_eq_some_iff.mp stands
    have notRoot : entry ≠ [] := by
      rintro rfl
      exact file (Option.some.inj there).symm
    have same := entry?_of_givesWay (givesWay_erase notRoot) named'
    obtain rfl := Option.some.inj (named.symm.trans same)
    cases (node?_erase_self notRoot).symm.trans inside

theorem cleared_afterRemoval (fs : FileSystem) (p : Path) : (fs.afterRemoval p).Cleared p :=
  fun _ stands => (stands?_of_afterRemoval stands).1

/-- What is written through a path comes behind the content of the file at its entry. -/
theorem append?_of_stands? {content more : Bytes} {modified now : Instant}
    (named : fs.entry? p = some place) (inside : fs.node? place = some (.file content modified)) :
    fs.append? p more now = some (fs.put place (.file (content ++ more) now)) := by
  have free : fs.passage? place = none :=
    passage?_eq_none_iff.mpr (Or.inr ⟨content, modified, inside⟩)
  rw [append?, place?_of_entry? named free]
  simp only [Option.bind_eq_bind, Option.bind_some, inside]

end FileSystem

def SystemCall.renames : (c : SystemCall) → c.Answer → Bool
  | .rename _ _, .ok () => true
  | _, _ => false

def Job.renamesNext {α : Type} : Job α → Machine → Bool
  | .done _, _ => false
  | .call c _, w => c.renames (w.answer c).1

theorem Job.renamesNext_ask_bind {α : Type} (c : SystemCall) (next : c.Answer → Job α)
    (w : Machine) : (Job.ask c >>= next).renamesNext w = c.renames (w.answer c).1 := rfl

namespace Replacement

variable {path temporary : Path} {processId other : Nat} {content : Bytes} {pieces : List Bytes}
variable {fs after : FileSystem} {w : Machine} {job : Job (Except Failure Unit)} {moved : Bool}

/-- What one call of a replacement does to the files, and whether it was the move. -/
inductive Touched (path temporary : Path) (content : Bytes) (fs : FileSystem) :
    Bool → FileSystem → Prop where
  | kept : Touched path temporary content fs false fs
  | sibling {place : Place} {after : FileSystem} (sibling : fs.entry? temporary = some place)
    (ways : SameWays fs after)
    (others : ∀ other, other ≠ place → after.node? other = fs.node? other) :
    Touched path temporary content fs false after
  | moved {place entry : Place} {after : FileSystem} {modified : Instant}
    (sibling : fs.entry? temporary = some place) (named : fs.entry? path = some entry)
    (vacant : fs.passage? entry ≠ some .directory) (ways : GivesWay fs after entry)
    (inside : after.node? entry = some (.file content modified))
    (others : ∀ other, other ≠ place → other ≠ entry → after.node? other = fs.node? other) :
    Touched path temporary content fs true after

/-- What is left of a replacement when the pieces were written, or could not be. -/
def finish (path temporary : Path) : Except String Unit → Job (Except Failure Unit)
  | .error reason => giveUp path temporary ("failed to write temp file: " ++ reason)
  | .ok () => do
    match ← Job.ask (.rename temporary path) with
    | .error reason => giveUp path temporary ("failed to rename temp file: " ++ reason)
    | .ok () =>
      Job.log .debug source "wrote file"
      return .ok ()

theorem replaceVia_eq (path temporary : Path) (pieces : List Bytes) :
    replaceVia path temporary pieces = writeFile temporary pieces >>= finish path temporary := rfl

/-- A writer, which asks for its own process identifier first. -/
def writer (path : Path) (pieces : List Bytes) : Job (Except Failure Unit) := do
  let processId ← Job.ask .processId
  replaceVia path (path.temporarySibling processId) pieces

/-- A replacement is a writer of one piece. -/
theorem writer_single (path : Path) (content : Bytes) :
    writer path [content] = replaceFile path content := rfl

theorem giveUp_within (path temporary : Path) (message : String) :
    (giveUp path temporary message).Within 1 :=
  .call fun _ => .done 0 _

theorem finish_within (path temporary : Path) (written : Except String Unit) :
    (finish path temporary written).Within 2 := by
  cases written with
  | error reason => exact (giveUp_within _ _ _).mono (by decide)
  | ok done =>
    refine .call fun answer => ?_
    cases answer with
    | error reason => exact giveUp_within _ _ _
    | ok done => exact .call fun _ => .done 0 _

theorem pieces_within (path temporary : Path) (pieces : List Bytes) :
    (writePieces temporary pieces >>= finish path temporary).Within (pieces.length + 2) := by
  induction pieces with
  | nil => exact finish_within path temporary (.ok ())
  | cons piece rest ih =>
    refine .call fun answer => ?_
    cases answer with
    | error reason =>
      have stops := finish_within path temporary (.error reason)
      exact stops.mono (Nat.le_add_left 2 rest.length)
    | ok done => exact ih

/-- A writer returns four calls after its pieces at the latest. -/
theorem writer_within (path : Path) (pieces : List Bytes) :
    (writer path pieces).Within (pieces.length + 4) := by
  refine .call fun processId => .call fun answer => ?_
  cases answer with
  | error reason =>
    have stops := finish_within path (path.temporarySibling processId) (.error reason)
    exact stops.mono (Nat.le_add_left 2 pieces.length)
  | ok done => exact pieces_within path (path.temporarySibling processId) pieces

/-- At which stage a replacement is, with what is left of it, and whether it has made its move. -/
inductive Stage (path : Path) (processId : Nat) (pieces : List Bytes) (fs : FileSystem) :
    Bool → Job (Except Failure Unit) → Prop where
  | begins : Stage path processId pieces fs false (writer path pieces)
  | opens : Stage path processId pieces fs false
      (replaceVia path (path.temporarySibling processId) pieces)
  | appends {before rest : List Bytes} {modified : Instant} (whole : before ++ rest = pieces)
    (holds : fs.stands? (path.temporarySibling processId) =
      some (.file before.flatten modified)) :
    Stage path processId pieces fs false
      (writePieces (path.temporarySibling processId) rest >>=
        finish path (path.temporarySibling processId))
  | givesUp (message : String) : Stage path processId pieces fs false
      (giveUp path (path.temporarySibling processId) message)
  | logs (cleared : fs.Cleared (path.temporarySibling processId)) :
    Stage path processId pieces fs true
      (do Job.log .debug source "wrote file"; return .ok ())
  | failed (f : Failure) (cleared : fs.Cleared (path.temporarySibling processId)) :
    Stage path processId pieces fs false (.done (.error f))
  | done (cleared : fs.Cleared (path.temporarySibling processId)) :
    Stage path processId pieces fs true (.done (.ok ()))

/-- A stage is told by what stands at the temporary sibling. -/
theorem Stage.congr (h : Stage path processId pieces fs moved job)
    (same : after.stands? (path.temporarySibling processId) =
      fs.stands? (path.temporarySibling processId)) :
    Stage path processId pieces after moved job := by
  have cleared (before : fs.Cleared (path.temporarySibling processId)) :
      after.Cleared (path.temporarySibling processId) := by
    rw [Cleared, same]
    exact before
  cases h with
  | begins => exact .begins
  | opens => exact .opens
  | appends whole holds => exact .appends whole (same.trans holds)
  | givesUp message => exact .givesUp message
  | logs before => exact .logs (cleared before)
  | failed f before => exact .failed f (cleared before)
  | done before => exact .done (cleared before)

/-- A replacement that has returned has cleared its temporary sibling, and tells of success if it
has made its move. -/
theorem Stage.of_result? {result : Except Failure Unit}
    (h : Stage path processId pieces fs moved job) (returned : job.result? = some result) :
    (result = .ok () ↔ moved = true) ∧ fs.Cleared (path.temporarySibling processId) := by
  cases h with
  | begins | opens | givesUp | logs => cases returned
  | @appends before rest => cases rest <;> cases returned
  | failed f cleared =>
    cases returned
    simp [cleared]
  | done cleared =>
    cases returned
    simp [cleared]

/-- The next call of a replacement touches nothing that it should not, and leads to a stage. -/
def Advances (path : Path) (processId : Nat) (pieces : List Bytes) (w : Machine) (moved : Bool)
    (job : Job (Except Failure Unit)) : Prop :=
  Touched path (path.temporarySibling processId) pieces.flatten w.files (job.renamesNext w)
      (job.step w).2.files ∧
    Stage path processId pieces (job.step w).2.files (moved || job.renamesNext w) (job.step w).1

/-- The temporary file is made at its entry, where nothing or a file is. -/
theorem opens_advances (noLink : w.files.NoLinkAt (path.temporarySibling processId)) :
    Advances path processId pieces w false
      (replaceVia path (path.temporarySibling processId) pieces) := by
  rw [Advances, replaceVia_eq, writeFile, bind_assoc, Job.step_ask_bind, Job.renamesNext_ask_bind]
  simp only [Machine.answer]
  rcases w.change_cases (w.files.truncate? (path.temporarySibling processId) w.clock) with
    ⟨after, made, eq⟩ | ⟨reason, eq⟩
  · rw [eq]
    obtain ⟨place, found, free, rfl⟩ := truncate?_eq_some_iff.mp made
    obtain ⟨name, ends⟩ := path.temporarySibling_endsIn processId
    have sibling := entry?_eq_of_not_leadsAway ends noLink.not_leadsAway found free
    exact ⟨.sibling sibling (sameWays_put_file free _ _) fun other apart => node?_put_of_ne apart _,
      .appends (List.nil_append pieces) (stands?_put_file sibling free)⟩
  · rw [eq]
    exact ⟨.kept, .givesUp _⟩

/-- A piece comes behind those before it, or some octets of it do and the rest is given up. -/
theorem piece_advances {before rest : List Bytes} {piece : Bytes} {modified : Instant}
    (whole : before ++ piece :: rest = pieces)
    (holds : w.files.stands? (path.temporarySibling processId) =
      some (.file before.flatten modified)) :
    Advances path processId pieces w false
      (writePieces (path.temporarySibling processId) (piece :: rest) >>=
        finish path (path.temporarySibling processId)) := by
  rw [Advances, writePieces, bind_assoc, Job.step_ask_bind, Job.renamesNext_ask_bind]
  obtain ⟨place, sibling, inside⟩ := stands?_eq_some_iff.mp holds
  have free : w.files.passage? place = none :=
    passage?_eq_none_iff.mpr (Or.inr ⟨_, _, inside⟩)
  -- Whatever octets the call takes, only the temporary file changes.
  have touched (more : Bytes) : Touched path (path.temporarySibling processId) pieces.flatten
      w.files false (w.files.put place (.file (before.flatten ++ more) w.clock)) :=
    .sibling sibling (sameWays_put_file free _ _) fun other apart => node?_put_of_ne apart _
  simp only [Machine.answer]
  rcases w.appendTo_cases (path.temporarySibling processId) piece with ⟨after, appended, eq⟩ |
    ⟨reason, eq⟩ | ⟨reason, octets, eq⟩
  · rw [eq]
    obtain rfl := Option.some.inj ((append?_of_stands? sibling inside).symm.trans appended)
    have longer : (before ++ [piece]).flatten = before.flatten ++ piece := by
      rw [List.flatten_append, List.flatten_singleton]
    refine ⟨touched piece, ?_⟩
    rw [← longer]
    exact .appends ((List.append_cons before piece rest).symm.trans whole)
      (stands?_put_file sibling free)
  · rw [eq]
    exact ⟨.kept, .givesUp _⟩
  · rw [eq, append?_of_stands? sibling inside]
    exact ⟨touched (piece.take octets), .givesUp _⟩

/-- A file that was moved over an entry stands there, and no longer where it was. -/
theorem touched_of_moved {place entry : Place} {modified : Instant}
    (sibling : fs.entry? (path.temporarySibling processId) = some place)
    (inside : fs.node? place = some (.file content modified)) (named : fs.entry? path = some entry)
    (vacant : fs.node? entry ≠ some .directory) :
    Touched path (path.temporarySibling processId) content fs true
        ((fs.erase place).put entry (.file content modified)) ∧
      ((fs.erase place).put entry (.file content modified)).Cleared
        (path.temporarySibling processId) := by
  have free : fs.passage? place = none :=
    passage?_eq_none_iff.mpr (Or.inr ⟨content, modified, inside⟩)
  have notRoot : entry ≠ [] := by
    rintro rfl
    exact vacant rfl
  obtain ⟨there, gone, others, ways⟩ :=
    moved_file free (Path.temporarySibling_entry_ne_entry sibling named) notRoot
  refine ⟨.moved sibling named ?_ ways there others, ?_⟩
  · exact fun seen => vacant ((passage?_eq_some_iff .directory (by simp)).mp seen)
  · intro node stands
    obtain ⟨other, found, left⟩ := stands?_eq_some_iff.mp stands
    obtain rfl := Option.some.inj (sibling.symm.trans (entry?_of_givesWay ways found))
    cases gone.symm.trans left

/-- The temporary file holds all pieces when it is moved over the path. -/
theorem move_advances {modified : Instant}
    (holds : w.files.stands? (path.temporarySibling processId) =
      some (.file pieces.flatten modified)) :
    Advances path processId pieces w false
      (finish path (path.temporarySibling processId) (.ok ())) := by
  rw [Advances, finish, Job.step_ask_bind, Job.renamesNext_ask_bind]
  simp only [Machine.answer]
  rcases w.change_cases (w.files.rename? (path.temporarySibling processId) path) with
    ⟨after, renamed, eq⟩ | ⟨reason, eq⟩
  · rw [eq]
    obtain ⟨place, entry, node, sibling, named, inside, -, vacant, rfl⟩ :=
      rename?_eq_some_iff.mp renamed
    rw [stands?_eq_node? sibling, inside] at holds
    obtain rfl := Option.some.inj holds
    rw [if_neg (Path.temporarySibling_entry_ne_entry sibling named)]
    obtain ⟨touched, cleared⟩ := touched_of_moved sibling inside named vacant
    exact ⟨touched, .logs cleared⟩
  · rw [eq]
    exact ⟨.kept, .givesUp _⟩

/-- A temporary file that is given up is removed. -/
theorem giveUp_advances (noLink : w.files.NoLinkAt (path.temporarySibling processId))
    (message : String) :
    Advances path processId pieces w false
      (giveUp path (path.temporarySibling processId) message) := by
  rw [Advances, giveUp, Job.step_ask_bind, Job.renamesNext_ask_bind]
  refine ⟨?_, .failed _ (cleared_afterRemoval _ _)⟩
  have ways := sameWays_afterRemoval noLink
  simp only [Machine.answer]
  rw [afterRemoval] at ways
  cases removal : w.files.remove? (path.temporarySibling processId) with
  | none => exact .kept
  | some after =>
    rw [removal] at ways
    obtain ⟨place, node, sibling, -, -, rfl⟩ := remove?_eq_some_iff.mp removal
    exact .sibling sibling ways fun other apart => node?_erase_of_ne apart

/-- At whatever stage a replacement is, its next call advances it. -/
theorem Stage.advances (h : Stage path processId pieces w.files moved job)
    (own : w.processId = processId)
    (noLink : w.files.NoLinkAt (path.temporarySibling processId)) :
    Advances path processId pieces w moved job := by
  cases h with
  | begins =>
    subst own
    exact ⟨.kept, .opens⟩
  | opens => exact opens_advances noLink
  | @appends before rest modified whole holds =>
    cases rest with
    | nil =>
      rw [List.append_nil] at whole
      subst whole
      exact move_advances holds
    | cons piece rest => exact piece_advances whole holds
  | givesUp message => exact giveUp_advances noLink message
  | logs cleared =>
    have kept : (w.answer (.log ⟨.debug, source, "wrote file"⟩)).2.files = w.files :=
      (Job.Looks.log _ _ _).run_files w
    rw [Advances, Job.log, Job.step_ask_bind, Job.renamesNext_ask_bind, kept]
    exact ⟨.kept, .done cleared⟩
  | failed f cleared => exact ⟨.kept, .failed f cleared⟩
  | done cleared => exact ⟨.kept, .done cleared⟩

end Replacement

end FederationTrust
