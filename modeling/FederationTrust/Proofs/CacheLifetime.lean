import FederationTrust.Proofs.Provenance
import FederationTrust.Proofs.Reuse

/-!
# How long a cached copy lasts

Over any history of runs of one request, the lifetime of the cached copy is counted from the last
run that verified what it holds, and no reuse puts it off. A run that verifies a payload and
leaves it in the cache is followed by reuse alone, until the lifetime is over.

Reuse would count as a change if the output were an alias of the cached file that the run cannot
tell. So it is asked of a run that reuses that it can compare the two paths, and that the output
is not refused for the number of links on its way. No link may stand at a temporary sibling, where
it would lead the writing elsewhere, and the cached file is not the temporary sibling of the
output.
-/

namespace FederationTrust

open FileSystem

namespace FetchRun

def result (r : FetchRun) (files : FileSystem) : Except Failure FetchOutcome :=
  ((fetchMetadata r.config r.request).run (r.start files)).1

/-- The run downloads and verifies this payload, and tells of it. -/
def Renews (r : FetchRun) (files : FileSystem) (v : VerifiedPayload) : Prop :=
  Fetch.Verifies r.config r.request (r.start files) v ∧
    r.result files = .ok (.verified v.digest v.entryIndex v.kid)

/-- A run of the one request on whose way to the files nothing misleads it. -/
structure Undisturbed (r : FetchRun) (output cached : Path) (files : FileSystem) : Prop where
  writes : r.request.output = output
  reads : r.request.cached = some cached
  clock : r.machine.clock.Shown
  outputSibling : files.NoLinkAt (output.temporarySibling r.machine.processId)
  cachedSibling : files.NoLinkAt (cached.temporarySibling r.machine.processId)
  apart : ∀ entry, files.entry? (output.temporarySibling r.machine.processId) = some entry →
    files.place? cached ≠ some entry
  compares : ∀ digest, r.result files = .ok (.fromCache digest) →
    r.machine.Admits 3 ∧ files.WithinLinkLimit output

def Looks (r : FetchRun) : Prop :=
  r.machine.Admits 0 ∧ r.machine.Admits 1 ∧ r.machine.Admits 2

/-- The run comes before the end of the lifetime of a content that is as old as this. -/
def Within (r : FetchRun) (content : Bytes) (modified : Instant) : Prop :=
  ∃ ttl, CachedCopy.lifetime? content r.config.defaultCacheTtl = some ttl ∧
    r.machine.clock.total < modified.total + ttl.total

def CannotWrite (r : FetchRun) (files : FileSystem) (content : Bytes) : Prop :=
  ∃ u f cached, u.files = files ∧ (r.start files).SameSetting u ∧
    ((replaceFile r.request.output content).run u).1 = .error f ∧
    r.request.cached = some cached ∧ r.result files = .error (.cacheCopy cached.text f.message)

/-- Where no links stand, it is enough that the cached file is not the temporary sibling. -/
theorem Undisturbed.of_linkFree {r : FetchRun} {output cached : Path} {files : FileSystem}
    (free : files.LinkFree) (writes : r.request.output = output)
    (reads : r.request.cached = some cached) (clock : r.machine.clock.Shown)
    (apart : files.entry? (output.temporarySibling r.machine.processId) ≠ files.place? cached)
    (compares : r.machine.Admits 3) : r.Undisturbed output cached files where
  writes := writes
  reads := reads
  clock := clock
  outputSibling := free.noLinkAt _
  cachedSibling := free.noLinkAt _
  apart := fun _ named found => apart (named.trans found.symm)
  compares := fun _ _ => ⟨compares, free.withinLinkLimit output⟩

end FetchRun

/-- What reuse leaves as it was: the cached file; and if no link stands at the output's entry,
every path. -/
structure KeepsCached (output cached : Path) (files after : FileSystem) : Prop where
  node : ∀ place, files.place? cached = some place → after.node? place = files.node? place
  file : ∀ file, after.file? cached = some file → files.file? cached = some file
  ways : files.PlainAt output → SameWays files after

namespace KeepsCached

variable {output cached : Path} {files after : FileSystem} {w u : Machine} {content : Bytes}

theorem refl (output cached : Path) (files : FileSystem) :
    KeepsCached output cached files files :=
  ⟨fun _ _ => rfl, fun _ found => found, fun _ => ⟨rfl, fun _ => rfl⟩⟩

theorem file?_eq (h : KeepsCached output cached files after) (plain : files.PlainAt output) :
    after.file? cached = files.file? cached := by
  unfold file?
  rw [← place?_congr (h.ways plain) cached]
  cases found : files.place? cached with
  | none => rfl
  | some place => rw [Option.bind_some, Option.bind_some, h.node place found]

/-- A replacement of the output that fails leaves the cached file. -/
theorem of_failed (cached : Path) {f : Failure}
    (failed : ((replaceFile output content).run w).1 = .error f)
    (noLink : w.files.NoLinkAt (output.temporarySibling w.processId))
    (apart : ∀ entry, w.files.entry? (output.temporarySibling w.processId) = some entry →
      w.files.place? cached ≠ some entry) :
    KeepsCached output cached w.files ((replaceFile output content).run w).2.files := by
  have ways := Replacement.replaceFile_failed failed noLink
  have node (place : Place) (found : w.files.place? cached = some place) :=
    (Replacement.kept_of_failed failed noLink apart found).2
  refine ⟨node, fun file found => ?_, fun _ => ways⟩
  obtain ⟨content, modified⟩ := file
  obtain ⟨place, there, inside⟩ := file?_eq_some_iff.mp found
  have before := (place?_congr ways cached).trans there
  exact file?_eq_some_iff.mpr ⟨place, before, (node place before).symm.trans inside⟩

/-- A replacement of the output that succeeds leaves the cached file, if that is another one. -/
theorem of_done (cached : Path) (held : Bytes) (modified : Instant)
    (done : ((replaceFile output content).run w).1 = .ok ())
    (noLink : w.files.NoLinkAt (output.temporarySibling w.processId))
    (apart : ∀ entry, w.files.entry? (output.temporarySibling w.processId) = some entry →
      w.files.place? cached ≠ some entry)
    (within : w.files.WithinLinkLimit output)
    (cachedFile : w.files.file? cached = some (held, modified))
    (two : w.files.sameFile cached output = false) :
    KeepsCached output cached w.files ((replaceFile output content).run w).2.files := by
  obtain ⟨place, found, inside⟩ := file?_eq_some_iff.mp cachedFile
  have free : w.files.passage? place = none :=
    passage?_eq_none_iff.mpr (Or.inr ⟨held, modified, inside⟩)
  have other : w.files.place? output ≠ some place := by
    intro shared
    rw [sameFile_of_place? found shared (by rw [inside]; rfl)] at two
    cases two
  obtain ⟨node, goal, ways⟩ :=
    Replacement.kept_of_done done noLink apart within found free other
  refine ⟨fun place' found' => ?_, fun file after => ?_, ways⟩
  · obtain rfl := Option.some.inj (found.symm.trans found')
    exact node
  · obtain ⟨content', modified'⟩ := file
    obtain ⟨place', there, inside'⟩ := file?_eq_some_iff.mp after
    obtain rfl := goal place' there
    rw [node] at inside'
    exact file?_eq_some_iff.mpr ⟨place', found, inside'⟩

end KeepsCached

section Run

variable {r : FetchRun} {output cached : Path} {files : FileSystem} {file : Bytes × Instant}
variable {content : Bytes} {modified : Instant} {v : VerifiedPayload}

theorem Fetch.Reused.digest_eq {digest : String} {w : Machine} {after : FileSystem}
    (h : Fetch.Reused cached output content w (.ok (.fromCache digest)) after) :
    digest = payloadDigest content := by
  cases h <;> rfl

section Replaced

variable {calls : List (SystemCall × Machine)} {u : Machine} {after : FileSystem}

theorem FetchRun.Undisturbed.noLinkAt (calm : r.Undisturbed output cached files)
    (reached : Fetch.Reached (r.start files) calls (replaceFile r.request.output content) u) :
    u.files.NoLinkAt (r.request.output.temporarySibling u.processId) := by
  rw [reached.files, reached.setting.processId, calm.writes]
  exact calm.outputSibling

/-- The file that the cached path names after the output was replaced was named before it, or
is the new file. -/
theorem FetchRun.Undisturbed.file?_of_replaced (calm : r.Undisturbed output cached files)
    (reached : Fetch.Reached (r.start files) calls (replaceFile r.request.output content) u)
    (h : ((replaceFile r.request.output content).run u).2.files.file? cached = some file) :
    files.file? cached = some file ∨
      ((replaceFile r.request.output content).run u).1 = .ok () ∧
        file = (content, r.machine.clock) := by
  have found := Replacement.file?_of_replaceFile (calm.noLinkAt reached) h
  rw [reached.files, reached.setting.clock] at found
  exact found

theorem FetchRun.Undisturbed.file?_of_failed {f : Failure}
    (calm : r.Undisturbed output cached files)
    (reached : Fetch.Reached (r.start files) calls (replaceFile r.request.output content) u)
    (failed : ((replaceFile r.request.output content).run u).1 = .error f)
    (h : ((replaceFile r.request.output content).run u).2.files.file? cached = some file) :
    files.file? cached = some file := by
  rcases calm.file?_of_replaced reached h with before | ⟨done, -⟩
  · exact before
  · cases failed.symm.trans done

/-- After a payload was put at the output and into the cache, a file stands at the output's
entry, and the cached path names a file that it named before or one with that payload. -/
theorem FetchRun.Undisturbed.of_refreshed (calm : r.Undisturbed output cached files)
    (reached : Fetch.Reached (r.start files) calls (replaceFile r.request.output content) u)
    (done : ((replaceFile r.request.output content).run u).1 = .ok ())
    (next : Fetch.Refreshed cached r.request.output content
      ((replaceFile r.request.output content).run u).2 calls after) :
    after.PlainAt output ∧ ∀ file, after.file? cached = some file →
      files.file? cached = some file ∨ file = (content, r.machine.clock) := by
  have named {file : Bytes × Instant}
      (h : ((replaceFile r.request.output content).run u).2.files.file? cached = some file) :
      files.file? cached = some file ∨ file = (content, r.machine.clock) :=
    (calm.file?_of_replaced reached h).imp_right And.right
  obtain ⟨entry, written⟩ := Replacement.replaceFile_done done (calm.noLinkAt reached)
  have plain := written.ways.plainAt written.named
  have ways := written.ways
  have setting := reached.setting.trans ((replaceFile r.request.output content).run_sameSetting u)
  rw [reached.files] at ways
  have noLink := calm.cachedSibling.of_givesWay ways
  generalize ((replaceFile r.request.output content).run u).2 = t at next named plain setting noLink
  rw [calm.writes] at plain
  cases next with
  | left one => exact ⟨plain, fun file h => named h⟩
  | @replaced s two again =>
    rw [← again.files] at named plain noLink
    have later := setting.trans again.setting
    have noLink : s.files.NoLinkAt (cached.temporarySibling s.processId) := by
      rw [later.processId]
      exact noLink
    refine ⟨?_, fun file h => ?_⟩
    · cases result : ((replaceFile cached content).run s).1 with
      | ok done =>
        obtain ⟨entry, written⟩ := Replacement.replaceFile_done result noLink
        exact plain.of_givesWay written.ways
      | error f => exact plain.of_sameWays (Replacement.replaceFile_failed result noLink)
    · rcases Replacement.file?_of_replaceFile noLink h with before | ⟨-, written⟩
      · exact named before
      · rw [later.clock] at written
        exact Or.inr written

end Replaced

/-- Whatever becomes of a run that reuses the cached copy, it leaves the cached file. -/
theorem FetchRun.Undisturbed.keepsCached {result : Except Failure FetchOutcome}
    {after : FileSystem} (calm : r.Undisturbed output cached files)
    (cachedFile : files.file? cached = some (content, modified)) (told : r.result files = result)
    (h : Fetch.Reused cached output content (r.start files) result after) :
    KeepsCached output cached files after := by
  cases h with
  | unread f refused => exact .refl output cached files
  | same one => exact .refl output cached files
  | @failed u f there setting failed =>
    have kept := KeepsCached.of_failed cached failed
    rw [there, setting.processId] at kept
    exact kept calm.outputSibling calm.apart
  | @done u there setting two done =>
    have kept := KeepsCached.of_done cached content modified done
    rw [there, setting.processId] at kept
    obtain ⟨compares, within⟩ := calm.compares _ told
    exact kept calm.outputSibling calm.apart within cachedFile (two compares)

/-- A run that tells of the cached copy found it fresh, tells its digest and leaves it. -/
theorem FetchRun.Undisturbed.of_fromCache {digest : String}
    (calm : r.Undisturbed output cached files)
    (told : r.result files = .ok (.fromCache digest)) :
    ∃ content modified, files.file? cached = some (content, modified) ∧
      digest = payloadDigest content ∧ r.Within content modified ∧
      KeepsCached output cached files (r.filesAfter files) := by
  obtain ⟨content, modified, ttl, fresh, reused⟩ :=
    fetchMetadata_fromCache (w := r.start files) calm.reads told
  rw [calm.writes] at reused
  have kept := calm.keepsCached fresh.file told reused
  exact ⟨content, modified, fresh.file, reused.digest_eq,
    ⟨ttl, fresh.lifetime, (isFresh_iff calm.clock).mp fresh.fresh⟩, kept⟩

/-- The file that the cached path names after a run was named before it, or was written by the
run with a payload that the run verified. -/
theorem FetchRun.Undisturbed.file?_of_file? (calm : r.Undisturbed output cached files)
    (h : (r.filesAfter files).file? cached = some file) :
    files.file? cached = some file ∨
      ∃ v, r.Renews files v ∧ file = (v.payload, r.machine.clock) := by
  by_cases reuse : ∃ digest, r.result files = .ok (.fromCache digest)
  · obtain ⟨digest, told⟩ := reuse
    obtain ⟨_, _, _, _, _, kept⟩ := calm.of_fromCache told
    exact Or.inl (kept.file file h)
  · have ended := fetchMetadata_ended r.config r.request (r.start files)
    rw [FetchRun.filesAfter] at h
    generalize told : ((fetchMetadata r.config r.request).run (r.start files)).1 = result at ended
    generalize ((fetchMetadata r.config r.request).run (r.start files)).2.files = after at ended h
    cases ended with
    | stopped f => exact Or.inl h
    | @reused cached' result after asked copied =>
      cases copied with
      | unread f => exact Or.inl h
      | same read one | done read reached done => exact absurd ⟨_, told⟩ reuse
      | failed read reached failed =>
        exact Or.inl (calm.file?_of_failed reached failed h)
    | notStored verifies reached failed => exact Or.inl (calm.file?_of_failed reached failed h)
    | stored verifies alone reached done => cases alone.symm.trans calm.reads
    | @refreshed v cached' u after verifies asked reached done next =>
      obtain rfl := Option.some.inj (asked.symm.trans calm.reads)
      rcases (calm.of_refreshed reached done next).2 file h with before | written
      · exact Or.inl before
      · exact Or.inr ⟨v, ⟨verifies, told⟩, written⟩

theorem Fetch.Verifies.digest_eq {config : FetchConfig} {request : FetchRequest} {w : Machine}
    (h : Fetch.Verifies config request w v) : v.digest = payloadDigest v.payload := by
  obtain ⟨read, parsed, some, answered, success, body, verified⟩ := h
  obtain ⟨e, -, accepted⟩ := (verifyEnvelopeAt_eq_ok_iff_parsed _ _ _ _ v).mp verified
  exact ((e.verifyAt_eq_ok_iff _ _ _ v).mp accepted).digest

/-- A run that verifies a payload leaves a file at the output's entry. -/
theorem FetchRun.Undisturbed.plainAt_of_renews (calm : r.Undisturbed output cached files)
    (h : r.Renews files v) : (r.filesAfter files).PlainAt output := by
  obtain ⟨-, told⟩ := h
  have ended := fetchMetadata_ended r.config r.request (r.start files)
  rw [FetchRun.result] at told
  rw [FetchRun.filesAfter]
  rw [told] at ended
  generalize ((fetchMetadata r.config r.request).run (r.start files)).2.files = after at ended ⊢
  generalize result : Except.ok (FetchOutcome.verified v.digest v.entryIndex v.kid) = outcome
    at ended
  cases ended with
  | stopped f => cases result
  | reused asked copied => cases copied <;> cases result
  | notStored verifies reached failed => cases result
  | stored verifies alone reached done => cases alone.symm.trans calm.reads
  | refreshed verifies asked reached done next =>
    obtain rfl := Option.some.inj (asked.symm.trans calm.reads)
    exact (calm.of_refreshed reached done next).1

/-- A run that sees the cached file within its lifetime reuses it, unless it cannot write, and
leaves it. -/
theorem FetchRun.Undisturbed.of_within (calm : r.Undisturbed output cached files)
    (looks : r.Looks) (within : r.Within content modified) (plain : files.PlainAt output)
    (cachedFile : files.file? cached = some (content, modified)) :
    (r.result files = .ok (.fromCache (payloadDigest content)) ∨ r.CannotWrite files content) ∧
      (r.filesAfter files).PlainAt output ∧
      (r.filesAfter files).file? cached = some (content, modified) := by
  obtain ⟨first, second, third⟩ := looks
  obtain ⟨ttl, stated, early⟩ := within
  have reused := fetchMetadata_of_fresh (w := r.start files) calm.reads
    ⟨cachedFile, stated, (isFresh_iff calm.clock).mpr early⟩ first second
  rw [calm.writes] at reused
  have kept := calm.keepsCached cachedFile rfl reused
  refine ⟨?_, plain.of_sameWays (kept.ways plain), (kept.file?_eq plain).trans cachedFile⟩
  generalize told : ((fetchMetadata r.config r.request).run (r.start files)).1 = result at reused
  generalize ((fetchMetadata r.config r.request).run (r.start files)).2.files = after at reused
  cases reused with
  | unread f refused => exact absurd third refused
  | same one => exact Or.inl told
  | @failed u f there setting failed =>
    rw [← calm.writes] at failed
    exact Or.inr ⟨u, f, cached, there, setting, failed, calm.reads, told⟩
  | done there setting two done => exact Or.inl told

end Run

structure Turn where
  run : FetchRun
  files : FileSystem

namespace Turn

def result (t : Turn) : Except Failure FetchOutcome :=
  t.run.result t.files

def after (t : Turn) : FileSystem :=
  t.run.filesAfter t.files

theorem result_eq_ok {t : Turn} {outcome : FetchOutcome} (h : t.result.toOption = some outcome) :
    t.result = .ok outcome := by
  cases told : t.result with
  | error f =>
    rw [told] at h
    cases h
  | ok other =>
    rw [told] at h
    exact congrArg Except.ok (Option.some.inj h)

/-- The run downloads and verifies this payload, and tells of it. -/
def Renews (t : Turn) (v : VerifiedPayload) : Prop :=
  t.run.Renews t.files v

end Turn

def filesLeft (initial : FileSystem) : List Turn → FileSystem
  | [] => initial
  | t :: rest => filesLeft t.after rest

/-- Others may write between runs, key files say, but not what the cached path names, and they
put no link and no directory at the output. -/
structure Untouched (output cached : Path) (left found : FileSystem) : Prop where
  file : found.file? cached = left.file? cached
  plain : left.PlainAt output → found.PlainAt output

/-- A history of undisturbed runs of one request, whose files nobody else writes. -/
def History (output cached : Path) (initial : FileSystem) : List Turn → Prop
  | [] => True
  | t :: rest => Untouched output cached initial t.files ∧
      t.run.Undisturbed output cached t.files ∧ History output cached t.after rest

/-- A file was at the cached path ever since the history began, or since the run that verified
and wrote it. -/
inductive LastWritten (cached : Path) (initial : FileSystem) (turns : List Turn)
    (file : Bytes × Instant) : Prop
  | never (found : initial.file? cached = some file)
    (since : ∀ t ∈ turns, t.files.file? cached = some file)
  | renewed {before after : List Turn} {t : Turn} {v : VerifiedPayload}
    (split : turns = before ++ t :: after) (renews : t.Renews v)
    (written : file = (v.payload, t.run.machine.clock))
    (left : t.after.file? cached = some file)
    (since : ∀ u ∈ after, u.files.file? cached = some file)

section History

variable {output cached : Path} {initial : FileSystem} {turns before after : List Turn}
variable {content : Bytes} {modified : Instant} {file : Bytes × Instant}

theorem History.split (h : History output cached initial (before ++ after)) :
    History output cached initial before ∧
      History output cached (filesLeft initial before) after := by
  induction before generalizing initial with
  | nil => exact ⟨trivial, h⟩
  | cons t rest ih =>
    obtain ⟨untouched, calm, others⟩ := h
    obtain ⟨first, second⟩ := ih others
    exact ⟨⟨untouched, calm, first⟩, second⟩

/-- The file that the cached path names after a history is accounted for. -/
theorem History.lastWritten (h : History output cached initial turns)
    (found : (filesLeft initial turns).file? cached = some file) :
    LastWritten cached initial turns file := by
  induction turns generalizing initial with
  | nil => exact .never found nofun
  | cons t rest ih =>
    obtain ⟨untouched, calm, others⟩ := h
    cases ih others found with
    | never left since =>
      rcases calm.file?_of_file? left with there | ⟨v, renews, written⟩
      · refine .never (untouched.file.symm.trans there) fun u member => ?_
        rcases List.mem_cons.mp member with rfl | member
        · exact there
        · exact since u member
      · exact .renewed (List.nil_append _).symm renews written left since
    | @renewed before after s v split renews written left since =>
      have split : t :: rest = (t :: before) ++ s :: after := congrArg (t :: ·) split
      exact .renewed split renews written left since

/-- While no run verifies anything, the cached path names no other file. -/
theorem History.file?_of_not_renewed (h : History output cached initial turns)
    (none : ∀ t ∈ turns, ∀ v, ¬ t.Renews v)
    (found : (filesLeft initial turns).file? cached = some file) :
    initial.file? cached = some file := by
  cases h.lastWritten found with
  | never there since => exact there
  | @renewed before after t v split renews =>
    exact absurd renews (none t (split ▸ List.mem_append_right before List.mem_cons_self) v)

/-- As long as the cached file is within its lifetime, all runs that can look at it reuse it. -/
theorem History.reused_within (h : History output cached initial turns)
    (plain : initial.PlainAt output) (cachedFile : initial.file? cached = some (content, modified))
    (within : ∀ t ∈ turns, t.run.Looks ∧ t.run.Within content modified) :
    ∀ t ∈ turns, t.result = .ok (.fromCache (payloadDigest content)) ∨
      t.run.CannotWrite t.files content := by
  induction turns generalizing initial with
  | nil => exact nofun
  | cons s rest ih =>
    obtain ⟨untouched, calm, others⟩ := h
    obtain ⟨looks, early⟩ := within s List.mem_cons_self
    obtain ⟨reused, plainAfter, kept⟩ := calm.of_within looks early (untouched.plain plain)
      (untouched.file.trans cachedFile)
    intro t member
    rcases List.mem_cons.mp member with rfl | member
    · exact reused
    · exact ih others plainAfter kept
        (fun u later => within u (List.mem_cons_of_mem s later)) t member

/-- A run reuses nothing but a file that is within its lifetime since it was last written, and
leaves it. -/
theorem History.of_fromCache {t : Turn} {digest : String}
    (h : History output cached initial (before ++ t :: after))
    (told : t.result = .ok (.fromCache digest)) :
    KeepsCached output cached t.files t.after ∧
      ∃ content modified, t.files.file? cached = some (content, modified) ∧
        digest = payloadDigest content ∧ t.run.Within content modified ∧
        LastWritten cached initial before (content, modified) := by
  obtain ⟨first, untouched, calm, -⟩ := h.split
  obtain ⟨content, modified, found, same, early, kept⟩ := calm.of_fromCache told
  exact ⟨kept, content, modified, found, same, early,
    first.lastWritten (untouched.file.symm.trans found)⟩

/-- The lifetime of the cached copy is bounded, and reuse does not extend it. A run that reuses
the copy leaves its content and its time, and comes within the lifetime of the content since a run
that verified the content wrote it. After such a write the copy is reused, as long as its lifetime
lasts for every run, whatever the keys and the network are; and not after that, unless some run
verified a payload anew. -/
theorem cache_lifetime_not_extended_by_reuse (output cached : Path) (initial : FileSystem)
    (before after : List Turn) (t : Turn)
    (history : History output cached initial (before ++ t :: after)) :
    (∀ digest, t.result = .ok (.fromCache digest) →
      KeepsCached output cached t.files t.after ∧
        ∃ content modified, t.files.file? cached = some (content, modified) ∧
          digest = payloadDigest content ∧ t.run.Within content modified ∧
          LastWritten cached initial before (content, modified)) ∧
    (∀ v, t.Renews v → t.after.file? cached = some (v.payload, t.run.machine.clock) →
      ∀ front s rest, after = front ++ s :: rest →
        ((∀ u ∈ front ++ [s], u.run.Looks ∧ u.run.Within v.payload t.run.machine.clock) →
          s.result = .ok (.fromCache v.digest) ∨ s.run.CannotWrite s.files v.payload) ∧
        ((∀ u ∈ front, ∀ v', ¬ u.Renews v') → ¬ s.run.Within v.payload t.run.machine.clock →
          ∀ digest, s.result ≠ .ok (.fromCache digest))) := by
  refine ⟨fun digest told => history.of_fromCache told, ?_⟩
  rintro v renews written front s rest rfl
  obtain ⟨-, -, calm, later⟩ := history.split
  constructor
  · intro within
    rw [List.append_cons] at later
    rw [renews.1.digest_eq]
    exact later.split.1.reused_within (calm.plainAt_of_renews renews) written within s
      (List.mem_append_right front List.mem_cons_self)
  · intro none late digest told
    obtain ⟨first, untouched, calm, -⟩ := later.split
    obtain ⟨content, modified, found, -, early, -⟩ := calm.of_fromCache told
    have since := first.file?_of_not_renewed none (untouched.file.symm.trans found)
    obtain ⟨rfl, rfl⟩ := Prod.mk.inj (Option.some.inj (written.symm.trans since))
    exact late early

end History

namespace Sample

/-- A run that keeps a signed payload as the output and in the cache. -/
def keeping : Turn where
  run := { renewal with request := ⟨⟨"k"⟩, ⟨"o"⟩, some ⟨"c"⟩⟩ }
  files := onlyKeys

/-- The two copies of the payload that such a run keeps, and no key file. -/
def copies : FileSystem where
  nodes := [(["c"], .file [0x7B, 0x7D] ⟨5, 0⟩), (["o"], .file [0x7B, 0x7D] ⟨5, 0⟩)]
  workingDirectory := []

/-- A run one second later, without a network. -/
def offline : Turn where
  run := { keeping.run with machine := Machine.quiet copies ⟨6, 0⟩ 1 }
  files := copies

theorem onlyKeys_linkFree : onlyKeys.LinkFree :=
  .of_nodes (by decide)

theorem keeping_undisturbed : keeping.run.Undisturbed ⟨"o"⟩ ⟨"c"⟩ onlyKeys :=
  .of_linkFree onlyKeys_linkFree rfl rfl (by decide) (by decide) (by decide)

theorem offline_undisturbed : offline.run.Undisturbed ⟨"o"⟩ ⟨"c"⟩ copies :=
  .of_linkFree (.of_nodes (by decide)) rfl rfl (by decide) (by decide) (by decide)

theorem keeping_file? : keeping.after.file? ⟨"c"⟩ = some ([0x7B, 0x7D], ⟨5, 0⟩) := by
  decide +kernel

theorem keeping_renews : ∃ v, keeping.Renews v ∧ v.payload = [0x7B, 0x7D] := by
  rcases keeping_undisturbed.file?_of_file? keeping_file? with before | ⟨v, renews, written⟩
  · have nothing : onlyKeys.file? ⟨"c"⟩ = none := by decide
    cases nothing.symm.trans before
  · exact ⟨v, renews, (Prod.mk.inj written).1.symm⟩

theorem offline_result : offline.result = .ok (.fromCache (payloadDigest [0x7B, 0x7D])) :=
  Turn.result_eq_ok (by decide +kernel)

theorem offline_untouched : Untouched ⟨"o"⟩ ⟨"c"⟩ keeping.after copies where
  file := Eq.symm keeping_file?
  plain := by
    intro plain entry named
    have there : copies.entry? ⟨"o"⟩ = some ["o"] := by decide
    obtain rfl := Option.some.inj (there.symm.trans named)
    decide

theorem keeping_then_offline : History ⟨"o"⟩ ⟨"c"⟩ onlyKeys [keeping, offline] :=
  ⟨⟨rfl, id⟩, keeping_undisturbed, offline_untouched, offline_undisturbed, trivial⟩

end Sample

/-- Without a network and without keys the payload that was kept is still told of. -/
theorem kept_payload_reused_without_keys :
    History ⟨"o"⟩ ⟨"c"⟩ Sample.onlyKeys [Sample.keeping, Sample.offline] ∧
      ∃ v, Sample.keeping.Renews v ∧ v.payload = [0x7B, 0x7D] ∧
        Sample.offline.result = .ok (.fromCache v.digest) ∧
        KeepsCached ⟨"o"⟩ ⟨"c"⟩ Sample.offline.files Sample.offline.after ∧
        LastWritten ⟨"c"⟩ Sample.onlyKeys [Sample.keeping] (v.payload, ⟨5, 0⟩) := by
  have history := Sample.keeping_then_offline
  obtain ⟨-, renewed⟩ := cache_lifetime_not_extended_by_reuse ⟨"o"⟩ ⟨"c"⟩ Sample.onlyKeys []
    [Sample.offline] Sample.keeping history
  obtain ⟨reused, -⟩ := cache_lifetime_not_extended_by_reuse ⟨"o"⟩ ⟨"c"⟩ Sample.onlyKeys
    [Sample.keeping] [] Sample.offline history
  obtain ⟨v, renews, payload⟩ := Sample.keeping_renews
  have written : Sample.keeping.after.file? ⟨"c"⟩ = some (v.payload, ⟨5, 0⟩) := by
    rw [payload]
    exact Sample.keeping_file?
  have within : ∀ u ∈ [Sample.offline], u.run.Looks ∧ u.run.Within v.payload ⟨5, 0⟩ := by
    intro u member
    obtain rfl := List.mem_singleton.mp member
    rw [payload]
    exact ⟨⟨by decide, by decide, by decide⟩, ⟨3600, 0⟩, by decide +kernel, by decide⟩
  have told : Sample.offline.result = .ok (.fromCache v.digest) := by
    rcases (renewed v renews written [] Sample.offline [] rfl).1 within with told | cannot
    · exact told
    · obtain ⟨_, _, _, _, _, _, _, refused⟩ := cannot
      cases Sample.offline_result.symm.trans refused
  obtain ⟨kept, content, modified, found, -, -, since⟩ := reused v.digest told
  have file := Sample.offline_untouched.file.trans written
  obtain ⟨rfl, rfl⟩ := Prod.mk.inj (Option.some.inj (found.symm.trans file))
  exact ⟨history, v, renews, payload, told, kept, since⟩

namespace Sample

def chain : List String → List (Place × Node)
  | a :: b :: rest => ([a], .link ⟨b⟩) :: chain (b :: rest)
  | _ => []

def shortLived : Bytes :=
  Bytes.ofText "\x7b\"cache_ttl\":10\x7d"

/-- The cached copy behind eleven links, and a link to the directory itself. -/
def tangled : FileSystem where
  nodes := (["x"], .file shortLived ⟨0, 0⟩) :: (["d"], .link ⟨"."⟩) ::
    chain ["c", "o", "y1", "y2", "y3", "y4", "y5", "y6", "y7", "y8", "y9", "x"]
  workingDirectory := []

/-- A run whose output is too many links away to be compared with the cached copy. -/
def roundabout (clock : Instant) : FetchRun where
  config := ⟨"http://127.0.0.1:1/", 30, 3600, .any⟩
  request := ⟨⟨"k"⟩, ⟨"d/d/d/d/d/d/d/d/d/d/d/d/d/d/d/d/d/d/d/d/d/d/d/d/d/d/d/d/d/d/d/d/d/d/d/o"⟩,
    some ⟨"c"⟩⟩
  machine := Machine.quiet tangled clock 1

def early : Turn :=
  ⟨roundabout ⟨5, 0⟩, tangled⟩

def late : Turn :=
  ⟨roundabout ⟨12, 0⟩, early.after⟩

/-- A reuse that finds a link to the copy where its temporary file is to be. -/
def baited : Turn where
  run := { roundabout ⟨5, 0⟩ with request := ⟨⟨"k"⟩, ⟨"o"⟩, some ⟨"c"⟩⟩ }
  files := ⟨[(["c"], .file shortLived ⟨0, 0⟩), (["o.1.tmp"], .link ⟨"c"⟩)], []⟩

end Sample

/-- Where the two paths cannot be compared, a reuse that puts a new file in the place of a link on
the way to the cached copy makes the copy younger, and it is reused beyond its lifetime. -/
theorem reuse_behind_many_links_extends_lifetime :
    CachedCopy.lifetime? Sample.shortLived 3600 = some ⟨10, 0⟩ ∧
      Sample.early.files.file? ⟨"c"⟩ = some (Sample.shortLived, ⟨0, 0⟩) ∧
      Sample.early.result = .ok (.fromCache (payloadDigest Sample.shortLived)) ∧
      Sample.early.after.file? ⟨"c"⟩ = some (Sample.shortLived, ⟨5, 0⟩) ∧
      Sample.late.result = .ok (.fromCache (payloadDigest Sample.shortLived)) := by
  refine ⟨by decide +kernel, by decide +kernel, ?_, by decide +kernel, ?_⟩
  · exact Turn.result_eq_ok (by decide +kernel)
  · exact Turn.result_eq_ok (by decide +kernel)

-- A reuse that writes through a link at its temporary sibling makes the copy younger as well.
example : Sample.baited.after.file? ⟨"c"⟩ = some (Sample.shortLived, ⟨5, 0⟩) := by
  decide +kernel

end FederationTrust
