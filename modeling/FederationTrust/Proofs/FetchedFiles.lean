import FederationTrust.Proofs.CacheLifetime
import FederationTrust.Proofs.FetchStages
import FederationTrust.Proofs.FileSystem.Moves

/-!
# What a successful run leaves at the output

After a successful run the output holds the content whose digest the run tells: that of the cached
file as it was before, or the payload that was verified. The cached file holds the payload as well
if it could be written.

The output could not be read again if the way to it led through a link at the output's own entry,
or at that of the cached file, which the new files replace. It would be overwritten if it were the
temporary sibling of the cached file, or if a link led from there to it.
-/

namespace FederationTrust

open FileSystem

namespace FileSystem

variable {fs : FileSystem} {p q : Path}

/-- Two paths that are told to be one file are read alike. -/
theorem read?_of_sameFile (one : fs.sameFile p q = true) : fs.read? p = fs.read? q := by
  unfold sameFile at one
  split at one
  · rename_i a b first second
    obtain rfl : a = b := eq_of_beq one
    rw [read?, read?, (Option.filter_eq_some_iff.mp first).1,
      (Option.filter_eq_some_iff.mp second).1]
  · cases one

end FileSystem

namespace Replacement

variable {path : Path} {content : Bytes} {w : Machine} {place entry : Place}

/-- No file takes the place of a directory. -/
theorem vacant_of_replaceFile (done : ((replaceFile path content).run w).1 = .ok ())
    (named : w.files.entry? path = some entry) : w.files.passage? entry ≠ some .directory := by
  have ended := replaceFile_replaced path content w
  rw [done] at ended
  generalize ((replaceFile path content).run w).2.files = after at ended
  cases ended with
  | @done place _ found free renamed =>
    obtain ⟨_, entry', node, -, named', -, -, vacant, -⟩ := rename?_eq_some_iff.mp renamed
    rw [entry?_put_file free, named] at named'
    obtain rfl := Option.some.inj named'
    rw [(sameWays_put_file free content w.clock).passage]
    exact fun seen => vacant ((passage?_eq_some_iff .directory (by simp)).mp seen)

/-- What stands at an entry outlasts the replacement of another path, unless it is replaced by the
new file or is the temporary sibling. -/
theorem node?_after_replaceFile (noLink : w.files.NoLinkAt (path.temporarySibling w.processId))
    (apart : w.files.entry? (path.temporarySibling w.processId) ≠ some place) :
    ((replaceFile path content).run w).2.files.node? place = w.files.node? place ∨
      ((replaceFile path content).run w).2.files.node? place = some (.file content w.clock) := by
  cases result : ((replaceFile path content).run w).1 with
  | ok done =>
    obtain ⟨entry, done⟩ := replaceFile_done result noLink
    by_cases same : place = entry
    · exact Or.inr (same ▸ done.inside)
    · rcases done.others place same with kept | ⟨sibling, -⟩
      · exact Or.inl kept
      · exact absurd sibling apart
  | error f =>
    rcases failed_replaceFile_nodes result noLink.not_leadsAway place with kept | ⟨sibling, -⟩
    · exact Or.inl kept
    · exact absurd sibling apart

end Replacement

namespace Fetch

/-- Neither links nor temporary files mislead a run on its way to its output. -/
structure Unmisled (request : FetchRequest) (w : Machine) : Prop where
  ways : w.files.ClearWays (request.output :: request.cached.toList)
  outputSibling : w.files.NoLinkAt (request.output.temporarySibling w.processId)
  cachedSibling : ∀ cached, request.cached = some cached →
    w.files.NoLinkAt (cached.temporarySibling w.processId)
  apart : ∀ cached entry, request.cached = some cached →
    w.files.entry? (cached.temporarySibling w.processId) = some entry →
    w.files.entry? request.output ≠ some entry

variable {config : FetchConfig} {request : FetchRequest} {w u s : Machine} {content : Bytes}
variable {cached p : Path} {place entry : Place} {fs after : FileSystem}
variable {calls : List (SystemCall × Machine)} {outcome : FetchOutcome}

/-- The files as a run sees them when every link is gone that it may replace. -/
def outOfSight (request : FetchRequest) (files : FileSystem) : FileSystem :=
  files.cutLinks ((request.output :: request.cached.toList).filterMap files.entry?)

/-- Paths that a run may replace are found where links in their place are out of sight. -/
theorem Unmisled.entry?_outOfSight (calm : Unmisled request w)
    (member : p ∈ request.output :: request.cached.toList)
    (named : w.files.entry? p = some entry) :
    FileSystem.entry? (outOfSight request w.files) p = some entry :=
  (calm.ways p member).trans named

/-- Where such a path has its entry, nothing is in sight unless it is a directory. -/
theorem passage?_outOfSight (member : p ∈ request.output :: request.cached.toList)
    (named : w.files.entry? p = some entry)
    (vacant : w.files.passage? entry ≠ some .directory) :
    (outOfSight request w.files).passage? entry = none :=
  passage?_cutLinks (List.mem_filterMap.mpr ⟨p, member, named⟩) vacant

/-- The output's entry holds this content, and nothing that is in sight gave way to it. -/
structure Written (request : FetchRequest) (w : Machine) (content : Bytes) (place : Place)
    (fs : FileSystem) : Prop where
  named : w.files.entry? request.output = some place
  unseen : (outOfSight request w.files).passage? place = none
  less : SeesLess (outOfSight request w.files) fs
  inside : fs.node? place = some (.file content w.clock)

theorem Written.read? (h : Written request w content place fs) (calm : Unmisled request w) :
    fs.read? request.output = some content := by
  have named := h.less.entry? (calm.entry?_outOfSight List.mem_cons_self h.named)
  exact read?_eq_some_iff.mpr ⟨w.clock, file?_of_entry? named h.inside⟩

/-- A run that replaces the output writes it, and only what stood there gives way. -/
theorem Unmisled.written (calm : Unmisled request w)
    (reached : Reached w calls (replaceFile request.output content) u)
    (done : ((replaceFile request.output content).run u).1 = .ok ()) :
    ∃ place, Written request w content place ((replaceFile request.output content).run u).2.files ∧
      GivesWay w.files ((replaceFile request.output content).run u).2.files place := by
  have noLink : u.files.NoLinkAt (request.output.temporarySibling u.processId) := by
    rw [reached.files, reached.setting.processId]
    exact calm.outputSibling
  obtain ⟨place, ended⟩ := Replacement.replaceFile_done done noLink
  have vacant := Replacement.vacant_of_replaceFile done ended.named
  generalize ((replaceFile request.output content).run u).2.files = after at ended ⊢
  rw [reached.files] at vacant ended
  rw [reached.setting.clock] at ended
  have unseen := passage?_outOfSight List.mem_cons_self ended.named vacant
  have less := (cutLinks_seesLess w.files _).of_givesWay ended.ways unseen
  exact ⟨place, ⟨ended.named, unseen, less, ended.inside⟩, ended.ways⟩

/-- Refreshing the cached file leaves the output, and if it succeeds the content is in both. -/
theorem Unmisled.written_refreshed (calm : Unmisled request w)
    (asked : request.cached = some cached) (output : Written request w content place s.files)
    (ways : GivesWay w.files s.files place) (setting : w.SameSetting s) :
    Written request w content place ((replaceFile cached content).run s).2.files ∧
      (((replaceFile cached content).run s).1 = .ok () →
        ((replaceFile cached content).run s).2.files.read? cached = some content) := by
  have member : cached ∈ request.output :: request.cached.toList := by
    rw [asked]
    exact List.mem_cons_of_mem _ List.mem_cons_self
  have noLink : s.files.NoLinkAt (cached.temporarySibling s.processId) := by
    rw [setting.processId]
    exact (calm.cachedSibling cached asked).of_givesWay ways
  have apart : s.files.entry? (cached.temporarySibling s.processId) ≠ some place := by
    intro sibling
    rw [setting.processId] at sibling
    exact calm.apart cached place asked (entry?_of_givesWay ways sibling) output.named
  have inside : ((replaceFile cached content).run s).2.files.node? place =
      some (.file content w.clock) := by
    rcases Replacement.node?_after_replaceFile noLink apart with kept | renewed
    · exact kept.trans output.inside
    · rw [renewed, setting.clock]
  cases result : ((replaceFile cached content).run s).1 with
  | error f =>
    have less := output.less.of_sameWays (Replacement.replaceFile_failed result noLink)
    exact ⟨⟨output.named, output.unseen, less, inside⟩, nofun⟩
  | ok done =>
    obtain ⟨entry, ended⟩ := Replacement.replaceFile_done result noLink
    have vacant := Replacement.vacant_of_replaceFile result ended.named
    have named := entry?_of_givesWay ways ended.named
    have unseen : (outOfSight request w.files).passage? entry = none := by
      by_cases same : entry = place
      · exact same ▸ output.unseen
      · rw [ways.others entry same] at vacant
        exact passage?_outOfSight member named vacant
    have less := output.less.of_givesWay ended.ways unseen
    have found := less.entry? (calm.entry?_outOfSight member named)
    refine ⟨⟨output.named, output.unseen, less, inside⟩, fun _ => ?_⟩
    exact read?_eq_some_iff.mpr ⟨s.clock, file?_of_entry? found ended.inside⟩

/-- What becomes of the cached file after the output was written. A path that is the output's
under another spelling needs no writing, and else it holds the payload if it could be written. -/
inductive Refilled (cached output : Path) (payload : Bytes) (w : Machine)
    (calls : List (SystemCall × Machine)) (after : FileSystem) : Prop where
  | one (same : cached.same output = true)
    (held : ∀ entry, w.files.entry? cached = some entry → after.read? cached = some payload) :
    Refilled cached output payload w calls after
  | two {u : Machine} (apart : cached.same output = false)
    (reached : Reached w calls (replaceFile cached payload) u)
    (held : ((replaceFile cached payload).run u).1 = .ok () → after.read? cached = some payload) :
    Refilled cached output payload w calls after

/-- What a successful run leaves in the files. -/
inductive Leaves (config : FetchConfig) (request : FetchRequest) (w : Machine)
    (calls : List (SystemCall × Machine)) (after : FileSystem) : FetchOutcome → Prop where
  | copy {cached : Path} {content : Bytes} (asked : request.cached = some cached)
    (before : w.files.read? cached = some content)
    (output : after.read? request.output = some content) :
    Leaves config request w calls after (.fromCache (payloadDigest content))
  | payload {v : VerifiedPayload} {u : Machine} (verifies : Verifies config request w v)
    (digest : v.digest = payloadDigest v.payload)
    (output : after.read? request.output = some v.payload)
    (reached : Reached w calls (replaceFile request.output v.payload) u)
    (refilled : ∀ cached, request.cached = some cached → Refilled cached request.output v.payload
      ((replaceFile request.output v.payload).run u).2 calls after) :
    Leaves config request w calls after (.verified v.digest v.entryIndex v.kid)

theorem Unmisled.leaves_copy (calm : Unmisled request w) (asked : request.cached = some cached)
    {result : Except Failure Bytes} (h : Copied cached request.output w calls result after)
    (told : result = .ok content) :
    Leaves config request w calls after (.fromCache (payloadDigest content)) := by
  cases h with
  | unread f => cases told
  | failed read reached failed => cases told
  | same read one =>
    cases told
    exact .copy asked read ((read?_of_sameFile one).symm.trans read)
  | done read reached done =>
    cases told
    obtain ⟨place, written, -⟩ := calm.written reached done
    exact .copy asked read (written.read? calm)

/-- After the output was written, whatever becomes of the cached file leaves it as it is. -/
theorem Unmisled.refilled (calm : Unmisled request w) (asked : request.cached = some cached)
    (written : Written request w content place s.files) (ways : GivesWay w.files s.files place)
    (setting : w.SameSetting s) (next : Refreshed cached request.output content s calls after) :
    after.read? request.output = some content ∧
      Refilled cached request.output content s calls after := by
  cases next with
  | left one =>
    refine ⟨written.read? calm, .one one fun entry named => ?_⟩
    -- Both spellings name the entry at which the output was written.
    have there := written.less.entry? (calm.entry?_outOfSight List.mem_cons_self written.named)
    obtain rfl := Path.entry?_of_same one named there
    exact read?_eq_some_iff.mpr ⟨w.clock, file?_of_entry? named written.inside⟩
  | replaced two again =>
    rw [← again.files] at written ways
    obtain ⟨kept, held⟩ := calm.written_refreshed asked written ways (setting.trans again.setting)
    exact ⟨kept.read? calm, .two two again held⟩

theorem Unmisled.leaves (calm : Unmisled request w) {result : Except Failure FetchOutcome}
    (h : Ended config request w calls result after) (told : result = .ok outcome) :
    Leaves config request w calls after outcome := by
  cases h with
  | stopped f => cases told
  | notStored verifies reached failed => cases told
  | @reused cached copying after asked copied =>
    cases copying with
    | error f => cases told
    | ok content =>
      cases told
      exact calm.leaves_copy asked copied rfl
  | stored verifies alone reached done =>
    cases told
    obtain ⟨place, written, -⟩ := calm.written reached done
    refine .payload verifies verifies.digest_eq (written.read? calm) reached fun cached asked => ?_
    cases alone.symm.trans asked
  | @refreshed v cached u after verifies asked reached done next =>
    cases told
    obtain ⟨place, written, ways⟩ := calm.written reached done
    have setting := reached.setting.trans
      ((replaceFile request.output v.payload).run_sameSetting u)
    obtain ⟨output, refilled⟩ := calm.refilled asked written ways setting next
    refine .payload verifies verifies.digest_eq output reached fun other here => ?_
    obtain rfl := Option.some.inj (asked.symm.trans here)
    exact refilled

/-- The network is asked for nothing but the document, and for that at most once. -/
theorem Decided.asks_once {result : Except Failure FetchOutcome} {asked : List DownloadRequest}
    (h : Decided config request w calls result asked) :
    asked = [] ∨ asked = [config.downloadRequest] := by
  cases h with
  | reused | notCopied | keys | client => exact Or.inl rfl
  | verification | output | written => exact Or.inr rfl
  | download =>
    by_cases askable : isFetchable config.url = true
    · exact Or.inr (if_pos askable)
    · exact Or.inl (if_neg askable)

theorem Leaves.digest_eq (h : Leaves config request w calls after outcome) :
    ∃ content, after.read? request.output = some content ∧
      payloadDigest content = outcome.digest := by
  cases h with
  | copy asked before output => exact ⟨_, output, rfl⟩
  | payload verifies digest output reached refilled => exact ⟨_, output, digest.symm⟩

end Fetch

/-- A run is decided by the first stage that can decide it, and asks the network at most once. If
neither links nor temporary files mislead it and it succeeds, then the output holds the content
whose digest it tells: that of the cached file before the run, or the payload that it verified,
which is in the cached file as well if it could be written there. -/
theorem fetchMetadata_decided_and_written (config : FetchConfig) (request : FetchRequest)
    (w : Machine) :
    (∃ asked, Fetch.Decided config request w ((fetchMetadata config request).calls w)
        ((fetchMetadata config request).run w).1 asked ∧
      ((fetchMetadata config request).run w).2.requests = w.requests ++ asked ∧
      (asked = [] ∨ asked = [config.downloadRequest])) ∧
    (Fetch.Unmisled request w →
      ∀ outcome, ((fetchMetadata config request).run w).1 = .ok outcome →
        Fetch.Leaves config request w ((fetchMetadata config request).calls w)
          ((fetchMetadata config request).run w).2.files outcome ∧
        ∃ content, ((fetchMetadata config request).run w).2.files.read? request.output =
            some content ∧
          payloadDigest content = outcome.digest) := by
  constructor
  · obtain ⟨asked, decided, requests⟩ := Fetch.fetchMetadata_decided config request w
    exact ⟨asked, decided, requests, decided.asks_once⟩
  · intro calm outcome told
    have leaves := calm.leaves (fetchMetadata_ended config request w) told
    exact ⟨leaves, leaves.digest_eq⟩

namespace Sample

theorem keeping_unmisled : Fetch.Unmisled keeping.run.request (keeping.run.start onlyKeys) where
  ways := .of_noLinkAt fun p _ => onlyKeys_linkFree.noLinkAt p
  outputSibling := onlyKeys_linkFree.noLinkAt _
  cachedSibling := fun _ _ => onlyKeys_linkFree.noLinkAt _
  apart := by
    intro cached entry asked sibling output
    obtain rfl : ⟨"c"⟩ = cached := Option.some.inj asked
    exact absurd (sibling.trans output.symm) (by decide)

end Sample

/-- The payload that a run keeps is read back from the output, and has the digest that was told. -/
theorem kept_payload_read_back :
    Fetch.Unmisled Sample.keeping.run.request (Sample.keeping.run.start Sample.keeping.files) ∧
      ∃ v : VerifiedPayload,
        Sample.keeping.result = .ok (.verified v.digest v.entryIndex v.kid) ∧
        ∃ content, Sample.keeping.after.read? Sample.keeping.run.request.output = some content ∧
          payloadDigest content = v.digest := by
  have calm := Sample.keeping_unmisled
  obtain ⟨v, ⟨-, told⟩, -⟩ := Sample.keeping_renews
  obtain ⟨-, leaves⟩ := fetchMetadata_decided_and_written Sample.keeping.run.config
    Sample.keeping.run.request (Sample.keeping.run.start Sample.keeping.files)
  refine ⟨calm, v, told, ?_⟩
  rw [FetchRun.result] at told
  rw [Turn.after, FetchRun.filesAfter]
  exact (leaves calm _ told).2

namespace Sample

def detour : FileSystem where
  nodes := [(["c"], .file shortLived ⟨0, 0⟩), (["d"], .directory), (["x"], .link ⟨"d"⟩)]
  workingDirectory := []

/-- A reuse whose way to the output leads through the link that the output takes the place of. -/
def backAndForth : Turn where
  run :=
    { config := ⟨"http://127.0.0.1:1/", 30, 3600, .any⟩
      request := ⟨⟨"k"⟩, ⟨"x/../x"⟩, some ⟨"c"⟩⟩
      machine := Machine.quiet detour ⟨5, 0⟩ 1 }
  files := detour

end Sample

/-- A run can succeed and tell a digest, and leave nothing to read at the output. -/
theorem output_behind_replaced_link_unreadable :
    Sample.backAndForth.result = .ok (.fromCache (payloadDigest Sample.shortLived)) ∧
      Sample.backAndForth.after.read? ⟨"x/../x"⟩ = none := by
  refine ⟨Turn.result_eq_ok (by decide +kernel), by decide +kernel⟩

end FederationTrust
