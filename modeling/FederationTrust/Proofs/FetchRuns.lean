import FederationTrust.Fetch
import FederationTrust.Proofs.Replacement

/-!
# What a run can do

Every run only looks until it replaces the output, and what it puts there is the content of
the cached file, or a payload that it downloaded and verified by the keys that it read. After
that only a replacement of the cached file can follow, which decides no result.
-/

namespace FederationTrust

open Job

def FetchConfig.downloadRequest (config : FetchConfig) : DownloadRequest :=
  ⟨config.url, Fetch.client config⟩

section

variable {path cached output : Path} {keys : KeySet} {document : Bytes} {w u : Machine}
variable {calls more : List (SystemCall × Machine)}
variable {config : FetchConfig} {request : FetchRequest} {v : VerifiedPayload}

namespace KeySet

theorem warnSkipped_looks (n : Nat) : (warnSkipped n).Looks := by
  induction n with
  | zero => exact .pure ()
  | succ n ih => exact .bind (.log _ _ _) fun _ => ih

theorem load_looks (path : Path) : (load path).Looks := by
  refine .bind (.ask rfl) fun file => ?_
  cases file with
  | error reason => exact .pure _
  | ok file =>
    dsimp only
    cases parse file with
    | error e => exact .pure _
    | ok keys =>
      refine .bind (warnSkipped_looks _) fun _ => ?_
      split
      · exact .pure _
      · exact .bind (.log _ _ _) fun _ => .pure _

/-- The keys that a run reads are those of the file, and there are some. -/
theorem load_eq_ok (h : ((load path).run w).1 = .ok keys) :
    ∃ file, w.files.read? path = some file ∧ parse file = .ok keys ∧ keys.keys ≠ [] := by
  rw [load, run_bind, Job.read, run_ask] at h
  simp only [Machine.answer] at h
  rcases w.look_cases (w.files.read? path) with ⟨file, read, eq⟩ | ⟨reason, eq⟩
  · rw [eq] at h
    dsimp only at h
    cases parsed : parse file with
    | error e =>
      rw [parsed] at h
      cases h
    | ok found =>
      rw [parsed] at h
      dsimp only at h
      rw [run_bind] at h
      by_cases empty : found.keys = []
      · rw [if_pos empty] at h
        cases h
      · rw [if_neg empty] at h
        cases h
        exact ⟨file, read, parsed, empty⟩
  · rw [eq] at h
    cases h

end KeySet

namespace CachedCopy

theorem inspect_looks (path : Path) (standard : UInt64) : (inspect path standard).Looks := by
  refine .bind (.ask rfl) fun document => ?_
  cases document with
  | error reason => exact .bind (.log _ _ _) fun _ => .pure _
  | ok document =>
    dsimp only
    cases lifetime? document standard with
    | none => exact .bind (.log _ _ _) fun _ => .pure _
    | some lifetime =>
      refine .bind (.ask rfl) fun modified => ?_
      cases modified with
      | error reason => exact .bind (.log _ _ _) fun _ => .pure _
      | ok modified => exact .pure _

end CachedCopy

theorem isCacheValid_looks (path : Path) (standard : UInt64) :
    (isCacheValid path standard).Looks := by
  refine .bind (.ask rfl) fun now => .bind (CachedCopy.inspect_looks path standard) fun copy => ?_
  cases copy with
  | none => exact .pure _
  | some c => exact .bind (.log _ _ _) fun _ => .pure _

namespace Fetch

theorem makeClient_looks (config : FetchConfig) : (makeClient config).Looks := by
  refine .bind (.ask rfl) fun answer => ?_
  cases answer <;> exact .pure _

theorem download_looks (config : FetchConfig) : (download config).Looks := by
  refine .bind (.log _ _ _) fun _ => ?_
  split
  · exact .pure _
  · refine .bind (.log _ _ _) fun _ => .bind (.log _ _ _) fun _ => .bind (.ask rfl) fun answer => ?_
    cases answer with
    | error fault => exact .pure _
    | ok response =>
      dsimp only
      split
      · cases response.body with
        | error fault => exact .pure _
        | ok body => exact .bind (.log _ _ _) fun _ => .pure _
      · exact .pure _

/-- A downloaded document is the body of an answer that tells of success. -/
theorem download_eq_ok (h : ((download config).run w).1 = .ok document) :
    ∃ response, w.network config.downloadRequest = .ok response ∧ response.isSuccess = true ∧
      response.body = .ok document := by
  rw [download, run_bind] at h
  split at h
  · cases h
  · rw [run_bind, run_bind, run_bind, run_ask] at h
    -- The lines that were logged up to here leave the network as it was.
    generalize logged : ((Job.log .debug connectionSource _).run _).2 = u at h
    have same : w.SameSetting u := by
      rw [← logged]
      exact ((run_sameSetting _ w).trans (run_sameSetting _ _)).trans (run_sameSetting _ _)
    simp only [Machine.answer, same.network] at h
    cases answered : w.network ⟨config.url, client config⟩ with
    | error fault =>
      rw [answered] at h
      cases h
    | ok response =>
      rw [answered] at h
      dsimp only at h
      cases success : response.isSuccess with
      | false =>
        rw [success] at h
        cases h
      | true =>
        rw [success, if_pos rfl] at h
        cases body : response.body with
        | error fault =>
          rw [body] at h
          cases h
        | ok received =>
          rw [body] at h
          cases h
          exact ⟨response, answered, success, body⟩

theorem logOutcomes_looks (outcomes : List EntryOutcome) : (logOutcomes outcomes).Looks := by
  induction outcomes with
  | nil => exact .pure ()
  | cons outcome rest ih =>
    refine .bind ?_ fun _ => ih
    cases outcome <;> exact .log _ _ _

theorem verify_looks (document : Bytes) (keys : KeySet) (policy : AlgorithmPolicy) :
    (verify document keys policy).Looks :=
  .bind (.ask rfl) fun _ => .bind (logOutcomes_looks _) fun _ => .pure _

/-- A run verifies a document at the time that the clock shows. -/
theorem verify_eq_ok {policy : AlgorithmPolicy}
    (h : ((verify document keys policy).run w).1 = .ok v) :
    verifyEnvelopeAt document keys policy w.clock = .ok v := by
  rw [verify, run_bind, run_ask, run_bind] at h
  simp only [Machine.answer] at h
  cases verified : verifyEnvelopeAt document keys policy w.clock with
  | error e =>
    rw [verified] at h
    cases h
  | ok payload =>
    rw [verified] at h
    cases h
    rfl

/-- A run on a machine verifies this payload: it downloads an envelope that these keys, the
policy and the clock let pass. -/
inductive Verifies (config : FetchConfig) (request : FetchRequest) (w : Machine)
    (v : VerifiedPayload) : Prop where
  | intro {file document : Bytes} {keys : KeySet} {response : DownloadResponse}
    (read : w.files.read? request.keys = some file)
    (parsed : KeySet.parse file = .ok keys) (some : keys.keys ≠ [])
    (answered : w.network config.downloadRequest = .ok response)
    (success : response.isSuccess = true) (body : response.body = .ok document)
    (verified : verifyEnvelopeAt document keys config.algorithms w.clock = .ok v)

/-- After merely looking, a run starts with this part on a machine. -/
structure Reached (w : Machine) (calls : List (SystemCall × Machine)) {α : Type} (part : Job α)
    (u : Machine) : Prop where
  files : u.files = w.files
  setting : w.SameSetting u
  calls : ∀ call ∈ part.calls u, call ∈ calls

theorem Reached.mono {α : Type} {part : Job α} (h : Reached w calls part u)
    (sub : ∀ call ∈ calls, call ∈ more) : Reached w more part u :=
  ⟨h.files, h.setting, fun call asked => sub call (h.calls call asked)⟩

/-- How putting the cached copy at the output ends. -/
inductive Copied (cached output : Path) (w : Machine) (calls : List (SystemCall × Machine)) :
    Except Failure Bytes → FileSystem → Prop where
  | unread (f : Failure) : Copied cached output w calls (.error f) w.files
  | same {content : Bytes} (read : w.files.read? cached = some content)
    (one : w.files.sameFile cached output = true) :
    Copied cached output w calls (.ok content) w.files
  | failed {content : Bytes} {u : Machine} {f : Failure}
    (read : w.files.read? cached = some content)
    (reached : Reached w calls (replaceFile output content) u)
    (failed : ((replaceFile output content).run u).1 = .error f) :
    Copied cached output w calls (.error (.cacheCopy cached.text f.message))
      ((replaceFile output content).run u).2.files
  | done {content : Bytes} {u : Machine} (read : w.files.read? cached = some content)
    (reached : Reached w calls (replaceFile output content) u)
    (done : ((replaceFile output content).run u).1 = .ok ()) :
    Copied cached output w calls (.ok content) ((replaceFile output content).run u).2.files

theorem Copied.mono {result : Except Failure Bytes} {after : FileSystem}
    (h : Copied cached output w calls result after) (sub : ∀ call ∈ calls, call ∈ more) :
    Copied cached output w more result after := by
  cases h with
  | unread f => exact .unread f
  | same read one => exact .same read one
  | failed read reached failed => exact .failed read (reached.mono sub) failed
  | done read reached done => exact .done read (reached.mono sub) done

theorem copyCached_copied (cached output : Path) (same : u.files = w.files)
    (setting : w.SameSetting u) : Copied cached output w ((copyCached cached output).calls u)
      ((copyCached cached output).run u).1 ((copyCached cached output).run u).2.files := by
  rw [copyCached, run_bind, calls_bind, Job.read, run_ask]
  simp only [Machine.answer]
  rcases u.look_cases (u.files.read? cached) with ⟨content, read, eq⟩ | ⟨reason, eq⟩
  · rw [same] at read
    rw [eq]
    dsimp only
    rw [run_bind, calls_bind, run_ask]
    have looked := (u.afterCall u.files).answer_sameFile cached output
    generalize ((u.afterCall u.files).answer (.sameFile cached output)).2 = t at looked ⊢
    have files : t.files = w.files := by rw [looked]; exact same
    have later : w.SameSetting t := by rw [looked]; exact setting.trans ⟨rfl, rfl, rfl, rfl, rfl⟩
    split
    · rename_i told
      have one : (u.afterCall u.files).files.sameFile cached output = true :=
        Machine.sameFile_of_answer told
      rw [Machine.afterCall, same] at one
      rw [(Looks.bind (.log _ _ _) fun _ => .pure _).run_files, files]
      exact .same read one
    · rw [run_bind, calls_bind]
      have reached (a b c : List (SystemCall × Machine)) :
          Reached w (a ++ (b ++ ((replaceFile output content).calls t ++ c)))
            (replaceFile output content) t :=
        ⟨files, later, fun _ asked =>
          List.mem_append_right a (List.mem_append_right b (List.mem_append_left c asked))⟩
      cases result : ((replaceFile output content).run t).1 with
      | error f => exact .failed read (reached _ _ _) result
      | ok done => exact .done read (reached _ _ _) result
  · rw [eq]
    show Copied cached output w _ (.error _) u.files
    rw [same]
    exact .unread _

/-- How putting a payload into the cache ends, which is never a failure. -/
inductive Refreshed (cached output : Path) (payload : Bytes) (w : Machine)
    (calls : List (SystemCall × Machine)) : FileSystem → Prop where
  | left (one : cached.same output = true) : Refreshed cached output payload w calls w.files
  | replaced {u : Machine} (two : cached.same output = false)
    (reached : Reached w calls (replaceFile cached payload) u) :
    Refreshed cached output payload w calls ((replaceFile cached payload).run u).2.files

theorem Refreshed.mono {payload : Bytes} {after : FileSystem}
    (h : Refreshed cached output payload w calls after) (sub : ∀ call ∈ calls, call ∈ more) :
    Refreshed cached output payload w more after := by
  cases h with
  | left one => exact .left one
  | replaced two reached => exact .replaced two (reached.mono sub)

theorem refreshCache_refreshed (cached output : Path) (payload : Bytes) (w : Machine) :
    Refreshed cached output payload w ((refreshCache cached output payload).calls w)
      ((refreshCache cached output payload).run w).2.files := by
  rw [refreshCache]
  cases one : cached.same output with
  | true => exact .left one
  | false =>
    rw [if_neg Bool.false_ne_true, run_bind, calls_bind]
    have reached (more : List (SystemCall × Machine)) :
        Reached w ((replaceFile cached payload).calls w ++ more) (replaceFile cached payload) w :=
      ⟨rfl, .refl w, fun _ asked => List.mem_append_left more asked⟩
    cases ((replaceFile cached payload).run w).1 with
    | ok done =>
      dsimp only
      rw [(Looks.log _ _ _).run_files]
      exact .replaced one (reached _)
    | error f =>
      dsimp only
      rw [(Looks.log _ _ _).run_files]
      exact .replaced one (reached _)

/-- How a run ends, and with which files, given what it asked for on the way. -/
inductive Ended (config : FetchConfig) (request : FetchRequest) (w : Machine)
    (calls : List (SystemCall × Machine)) : Except Failure FetchOutcome → FileSystem → Prop where
  | stopped (f : Failure) : Ended config request w calls (.error f) w.files
  | reused {cached : Path} {result : Except Failure Bytes} {after : FileSystem}
    (asked : request.cached = some cached)
    (copied : Copied cached request.output w calls result after) :
    Ended config request w calls (result.map fun content => .fromCache (payloadDigest content))
      after
  | notStored {v : VerifiedPayload} {u : Machine} {f : Failure}
    (verifies : Verifies config request w v)
    (reached : Reached w calls (replaceFile request.output v.payload) u)
    (failed : ((replaceFile request.output v.payload).run u).1 = .error f) :
    Ended config request w calls (.error f)
      ((replaceFile request.output v.payload).run u).2.files
  | stored {v : VerifiedPayload} {u : Machine}
    (verifies : Verifies config request w v) (alone : request.cached = none)
    (reached : Reached w calls (replaceFile request.output v.payload) u)
    (done : ((replaceFile request.output v.payload).run u).1 = .ok ()) :
    Ended config request w calls (.ok (.verified v.digest v.entryIndex v.kid))
      ((replaceFile request.output v.payload).run u).2.files
  | refreshed {v : VerifiedPayload} {cached : Path} {u : Machine} {after : FileSystem}
    (verifies : Verifies config request w v) (asked : request.cached = some cached)
    (reached : Reached w calls (replaceFile request.output v.payload) u)
    (done : ((replaceFile request.output v.payload).run u).1 = .ok ())
    (next : Refreshed cached request.output v.payload
      ((replaceFile request.output v.payload).run u).2 calls after) :
    Ended config request w calls (.ok (.verified v.digest v.entryIndex v.kid)) after

theorem Ended.mono {result : Except Failure FetchOutcome} {after : FileSystem}
    (h : Ended config request w calls result after) (sub : ∀ call ∈ calls, call ∈ more) :
    Ended config request w more result after := by
  cases h with
  | stopped f => exact .stopped f
  | reused asked copied => exact .reused asked (copied.mono sub)
  | notStored verifies reached failed => exact .notStored verifies (reached.mono sub) failed
  | stored verifies alone reached done => exact .stored verifies alone (reached.mono sub) done
  | refreshed verifies asked reached done next =>
    exact .refreshed verifies asked (reached.mono sub) done (next.mono sub)

theorem reuse_ended (asked : request.cached = some cached) (same : u.files = w.files)
    (setting : w.SameSetting u) : Ended config request w ((reuse cached request.output).calls u)
      ((reuse cached request.output).run u).1 ((reuse cached request.output).run u).2.files := by
  rw [reuse, run_bind, calls_bind]
  have copied := copyCached_copied cached request.output same setting
  generalize (copyCached cached request.output).run u = ran at copied ⊢
  obtain ⟨result, t⟩ := ran
  cases result with
  | error f => exact .reused asked (copied.mono fun _ asked => List.mem_append_left _ asked)
  | ok content =>
    dsimp only at copied ⊢
    rw [(Looks.bind (.log _ _ _) fun _ => .pure _).run_files]
    exact .reused asked (copied.mono fun _ asked => List.mem_append_left _ asked)

theorem store_ended (verifies : Verifies config request w v) (same : u.files = w.files)
    (setting : w.SameSetting u) : Ended config request w ((store request v).calls u)
      ((store request v).run u).1 ((store request v).run u).2.files := by
  rw [store, run_bind, calls_bind]
  have reached {more : List (SystemCall × Machine)} :
      Reached w ((replaceFile request.output v.payload).calls u ++ more)
        (replaceFile request.output v.payload) u :=
    ⟨same, setting, fun _ asked => List.mem_append_left _ asked⟩
  cases result : ((replaceFile request.output v.payload).run u).1 with
  | error f => exact .notStored verifies reached result
  | ok done =>
    dsimp only
    cases asked : request.cached with
    | none =>
      dsimp only
      rw [(Looks.bind (.log _ _ _) fun _ => .pure _).run_files]
      exact .stored verifies asked reached result
    | some cached =>
      dsimp only
      rw [run_bind, calls_bind, (Looks.bind (.log _ _ _) fun _ => .pure _).run_files]
      refine .refreshed verifies asked reached result ?_
      refine (refreshCache_refreshed cached request.output v.payload _).mono fun _ asked => ?_
      exact List.mem_append_right _ (List.mem_append_left _ asked)

/-- A stage that only looks ends the run where it fails, and else hands on what it found. -/
theorem Ended.after {α : Type} {job : Job (Except Failure α)}
    {next : Except Failure α → Job (Except Failure FetchOutcome)} (looks : job.Looks)
    (same : u.files = w.files) (setting : w.SameSetting u)
    (stops : ∀ f, next (.error f) = pure (.error f))
    (rest : ∀ a t, (job.run u).1 = .ok a → t.files = w.files → w.SameSetting t →
      Ended config request w ((next (.ok a)).calls t) ((next (.ok a)).run t).1
        ((next (.ok a)).run t).2.files) :
    Ended config request w ((job >>= next).calls u) ((job >>= next).run u).1
      ((job >>= next).run u).2.files := by
  rw [run_bind, calls_bind]
  have files := (looks.run_files u).trans same
  have later := setting.trans (job.run_sameSetting u)
  cases result : (job.run u).1 with
  | error f =>
    rw [stops]
    show Ended config request w _ (.error f) (job.run u).2.files
    rw [files]
    exact .stopped f
  | ok a => exact (rest a _ result files later).mono fun _ asked => List.mem_append_right _ asked

theorem renew_ended (config : FetchConfig) (request : FetchRequest) (same : u.files = w.files)
    (setting : w.SameSetting u) : Ended config request w ((renew config request).calls u)
      ((renew config request).run u).1 ((renew config request).run u).2.files := by
  refine .after (KeySet.load_looks request.keys) same setting (fun _ => rfl) ?_
  intro keys u₁ loaded same₁ setting₁
  obtain ⟨file, read, parsed, some⟩ := KeySet.load_eq_ok loaded
  rw [same] at read
  refine .after (makeClient_looks config) same₁ setting₁ (fun _ => rfl) ?_
  intro _ u₂ _ same₂ setting₂
  refine .after (download_looks config) same₂ setting₂ (fun _ => rfl) ?_
  intro document u₃ downloaded same₃ setting₃
  obtain ⟨response, answered, success, body⟩ := download_eq_ok downloaded
  rw [setting₂.network] at answered
  refine .after (verify_looks document keys config.algorithms) same₃ setting₃ (fun _ => rfl) ?_
  intro v u₄ checked same₄ setting₄
  have verified := verify_eq_ok checked
  rw [setting₃.clock] at verified
  exact store_ended (.intro read parsed some answered success body verified) same₄ setting₄

end Fetch

/-- What a run can do, and with which result and files it then ends. -/
theorem fetchMetadata_ended (config : FetchConfig) (request : FetchRequest) (w : Machine) :
    Fetch.Ended config request w ((fetchMetadata config request).calls w)
      ((fetchMetadata config request).run w).1
      ((fetchMetadata config request).run w).2.files := by
  rw [fetchMetadata]
  cases asked : request.cached with
  | none => exact Fetch.renew_ended config request rfl (.refl w)
  | some cached =>
    dsimp only
    rw [run_bind, calls_bind]
    have files := (isCacheValid_looks cached config.defaultCacheTtl).run_files w
    have setting := (isCacheValid cached config.defaultCacheTtl).run_sameSetting w
    generalize ((isCacheValid cached config.defaultCacheTtl).run w).2 = u at files setting ⊢
    split
    · exact (Fetch.reuse_ended asked files setting).mono
        fun _ asked => List.mem_append_right _ asked
    · rw [run_bind, calls_bind]
      have later := ((Looks.log .debug Fetch.runSource
        "cached metadata not usable, fetching").run_files u).trans files
      refine (Fetch.renew_ended config request later
        (setting.trans (run_sameSetting _ u))).mono fun _ asked => ?_
      exact List.mem_append_right _ (List.mem_append_right _ asked)

end

end FederationTrust
