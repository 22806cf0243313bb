import FederationTrust.Proofs.FetchRuns
import FederationTrust.Proofs.ReplacedFiles

/-!
# Reuse of the cached copy

A run reuses the cached copy exactly as long as its lifetime lasts, counted from the time at
which the file was modified. Reuse asks four things of the files before it changes any: the
content and the time of the cached file, the content again, and whether it is the output.
-/

namespace FederationTrust

open Job

def Instant.Shown (t : Instant) : Prop :=
  t.seconds < (Nat.pow 2 63 : Nat) ∧ t.nanos < 1000000000

instance (t : Instant) : Decidable t.Shown :=
  inferInstanceAs (Decidable (_ ∧ _))

/-- Fresh is what is not as old as its lifetime. -/
theorem isFresh_iff {modified now : Instant} {lifetime : Lifetime} (shown : now.Shown) :
    isFresh modified lifetime now = true ↔ now.total < modified.total + lifetime.total := by
  obtain ⟨inRange, nanos⟩ := shown
  unfold isFresh Instant.add? Instant.total Lifetime.total
  have split := Nat.div_add_mod (modified.nanos + lifetime.nanos) 1000000000
  have small := Nat.mod_lt (modified.nanos + lifetime.nanos) (y := 1000000000) (by decide)
  dsimp only
  generalize (modified.nanos + lifetime.nanos) / 1000000000 = carry at split
  generalize (modified.nanos + lifetime.nanos) % 1000000000 = left at split small
  by_cases fits : modified.seconds + lifetime.seconds + (carry : Int) < (Nat.pow 2 63 : Nat)
  · rw [if_pos fits]
    simp only [Instant.before, Bool.or_eq_true, Bool.and_eq_true, decide_eq_true_eq]
    omega
  · rw [if_neg fits]
    simp only [true_iff]
    omega

namespace Machine

/-- The file call that follows so many others is not refused outright. -/
def Admits (w : Machine) (n : Nat) : Prop :=
  w.faults (w.fileCalls + n) ≠ .refused

instance (w : Machine) (n : Nat) : Decidable (w.Admits n) :=
  inferInstanceAs (Decidable (_ ≠ _))

theorem look_of_admits {α : Type} {w : Machine} (admits : w.Admits 0) (a : α) :
    w.look (some a) = (.ok a, w.afterCall w.files) := by
  unfold look
  cases fault : w.nextFault with
  | refused => exact absurd fault admits
  | none | short => rfl

theorem look_of_not_admits {α : Type} {w : Machine} (refused : ¬ w.Admits 0) (found : Option α) :
    w.look found = (.error "permission denied", w.afterCall w.files) := by
  have fault : w.nextFault = .refused := Decidable.not_not.mp refused
  unfold look
  rw [fault]

/-- Whether two paths are one file is answered rightly, if it is answered. -/
theorem answer_sameFile_of_admits {w : Machine} (admits : w.Admits 0) (a b : Path) :
    (w.answer (.sameFile a b)).1 = w.files.sameFile a b := by
  simp only [answer]
  rw [look_of_admits admits]

end Machine

variable {cached output path : Path} {standard : UInt64} {w u : Machine} {content : Bytes}
variable {modified : Instant} {ttl : Lifetime}

/-- The cached file holds this content and is fresh, as the files and the clock are now. -/
structure FreshAt (w : Machine) (cached : Path) (standard : UInt64) (content : Bytes)
    (modified : Instant) (ttl : Lifetime) : Prop where
  file : w.files.file? cached = some (content, modified)
  lifetime : CachedCopy.lifetime? content standard = some ttl
  fresh : isFresh modified ttl w.clock = true

theorem log_fileCalls (level : LogLevel) (source message : String) (w : Machine) :
    ((Job.log level source message).run w).2.fileCalls = w.fileCalls := by
  rw [Job.log, run_ask]
  simp only [Machine.answer]
  split <;> rfl

namespace CachedCopy

theorem inspect_eq_some {c : CachedCopy} (h : ((inspect path standard).run w).1 = some c) :
    ∃ content, w.files.file? path = some (content, c.modified) ∧
      lifetime? content standard = some c.lifetime ∧
      ((inspect path standard).run w).2 = (w.afterCall w.files).afterCall w.files := by
  rw [inspect, run_bind, Job.read, run_ask] at h ⊢
  simp only [Machine.answer] at h ⊢
  rcases w.look_cases (w.files.read? path) with ⟨content, read, eq⟩ | ⟨reason, eq⟩
  · rw [eq] at h ⊢
    dsimp only at h ⊢
    cases stated : lifetime? content standard with
    | none =>
      rw [stated] at h
      cases h
    | some ttl =>
      rw [stated] at h
      dsimp only at h ⊢
      rw [run_bind, run_ask] at h ⊢
      simp only [Machine.answer] at h ⊢
      rcases (w.afterCall w.files).look_cases ((w.afterCall w.files).files.modified? path) with
        ⟨modified, time, eq⟩ | ⟨reason, eq⟩
      · rw [eq] at h ⊢
        obtain rfl := Option.some.inj h
        obtain ⟨modified', file⟩ := FileSystem.read?_eq_some_iff.mp read
        obtain ⟨content', same⟩ := FileSystem.modified?_eq_some_iff.mp time
        obtain ⟨rfl, rfl⟩ := Prod.mk.inj (Option.some.inj (file.symm.trans same))
        exact ⟨content, file, stated, rfl⟩
      · rw [eq] at h
        cases h
  · rw [eq] at h
    cases h

theorem inspect_of_admits (file : w.files.file? path = some (content, modified))
    (stated : lifetime? content standard = some ttl) (first : w.Admits 0) (second : w.Admits 1) :
    ((inspect path standard).run w).1 = some ⟨path, ttl, modified⟩ := by
  have read : w.files.read? path = some content := FileSystem.read?_eq_some_iff.mpr ⟨_, file⟩
  have time : (w.afterCall w.files).files.modified? path = some modified :=
    FileSystem.modified?_eq_some_iff.mpr ⟨_, file⟩
  rw [inspect, run_bind, Job.read, run_ask]
  simp only [Machine.answer]
  rw [read, Machine.look_of_admits first]
  dsimp only
  rw [stated]
  dsimp only
  rw [run_bind, run_ask]
  simp only [Machine.answer]
  rw [time, Machine.look_of_admits (w := w.afterCall w.files) second]
  rfl

theorem admits_of_inspect {c : CachedCopy} (seen : ((inspect path standard).run w).1 = some c) :
    w.Admits 0 ∧ w.Admits 1 := by
  rw [inspect, run_bind, Job.read, run_ask] at seen
  simp only [Machine.answer] at seen
  by_cases first : w.Admits 0
  · refine ⟨first, ?_⟩
    rcases w.look_cases (w.files.read? path) with ⟨document, -, eq⟩ | ⟨reason, eq⟩
    · rw [eq] at seen
      dsimp only at seen
      cases stated : lifetime? document standard with
      | none =>
        rw [stated] at seen
        cases seen
      | some ttl =>
        rw [stated] at seen
        dsimp only at seen
        rw [run_bind, run_ask] at seen
        simp only [Machine.answer] at seen
        by_cases second : (w.afterCall w.files).Admits 0
        · exact second
        · rw [Machine.look_of_not_admits second] at seen
          cases seen
    · rw [eq] at seen
      cases seen
  · rw [Machine.look_of_not_admits first] at seen
    cases seen

/-- A cached copy can be used exactly when it is a file whose document has a lifetime, and when
both its content and its time may be looked at. -/
theorem inspect_eq_some_iff {c : CachedCopy} :
    ((inspect path standard).run w).1 = some c ↔
      ∃ content, w.files.file? path = some (content, c.modified) ∧
        lifetime? content standard = some c.lifetime ∧ c.path = path ∧ w.Admits 0 ∧ w.Admits 1 := by
  constructor
  · intro seen
    obtain ⟨content, file, stated, -⟩ := inspect_eq_some seen
    obtain ⟨first, second⟩ := admits_of_inspect seen
    have same := seen.symm.trans (inspect_of_admits file stated first second)
    exact ⟨content, file, stated, congrArg CachedCopy.path (Option.some.inj same), first, second⟩
  · rintro ⟨content, file, stated, rfl, first, second⟩
    exact inspect_of_admits file stated first second

end CachedCopy

/-- A cached copy is valid at an instant exactly when it can be used and is fresh then. -/
theorem isCacheValidAt_iff {now : Instant} :
    ((isCacheValidAt path standard now).run w).1 = true ↔
      (∃ content modified ttl, w.files.file? path = some (content, modified) ∧
        CachedCopy.lifetime? content standard = some ttl ∧ isFresh modified ttl now = true) ∧
      w.Admits 0 ∧ w.Admits 1 := by
  have judged : ((isCacheValidAt path standard now).run w).1 = true ↔
      ∃ c, ((CachedCopy.inspect path standard).run w).1 = some c ∧ c.isValidAt now = true := by
    rw [isCacheValidAt, run_bind]
    cases ((CachedCopy.inspect path standard).run w).1 with
    | none => exact ⟨nofun, nofun⟩
    | some c =>
      dsimp only
      rw [run_bind, run_pure]
      simp
  rw [judged]
  simp only [CachedCopy.inspect_eq_some_iff]
  constructor
  · rintro ⟨⟨_, ttl, modified⟩, ⟨content, file, stated, -, first, second⟩, fresh⟩
    exact ⟨⟨content, modified, ttl, file, stated, fresh⟩, first, second⟩
  · rintro ⟨⟨content, modified, ttl, file, stated, fresh⟩, first, second⟩
    exact ⟨⟨path, ttl, modified⟩, ⟨content, file, stated, rfl, first, second⟩, fresh⟩

theorem isCacheValid_eq_true (h : ((isCacheValid path standard).run w).1 = true) :
    (∃ content modified ttl, FreshAt w path standard content modified ttl) ∧
      ((isCacheValid path standard).run w).2.fileCalls = w.fileCalls + 2 := by
  rw [isCacheValid, run_bind, run_ask, isCacheValidAt, run_bind] at h ⊢
  simp only [Machine.answer] at h ⊢
  cases seen : ((CachedCopy.inspect path standard).run w).1 with
  | none =>
    rw [seen] at h
    cases h
  | some c =>
    obtain ⟨content, file, stated, after⟩ := CachedCopy.inspect_eq_some seen
    rw [seen] at h
    dsimp only at h ⊢
    rw [run_bind] at h ⊢
    refine ⟨⟨content, c.modified, c.lifetime, file, stated, h⟩, ?_⟩
    refine (log_fileCalls _ _ _ _).trans ?_
    rw [after]
    rfl

theorem isCacheValid_of_fresh (h : FreshAt w path standard content modified ttl)
    (first : w.Admits 0) (second : w.Admits 1) :
    ((isCacheValid path standard).run w).1 = true :=
  isCacheValidAt_iff.mpr ⟨⟨content, modified, ttl, h.file, h.lifetime, h.fresh⟩, first, second⟩

namespace Fetch

variable {config : FetchConfig} {request : FetchRequest}

/-- How a run ends that reuses the cached copy, and what can go wrong. -/
inductive Reused (cached output : Path) (content : Bytes) (w : Machine) :
    Except Failure FetchOutcome → FileSystem → Prop
  | unread (f : Failure) (refused : ¬ w.Admits 2) :
    Reused cached output content w (.error f) w.files
  | same (one : w.files.sameFile cached output = true) :
    Reused cached output content w (.ok (.fromCache (payloadDigest content))) w.files
  | failed {u : Machine} {f : Failure} (files : u.files = w.files) (setting : w.SameSetting u)
    (failed : ((replaceFile output content).run u).1 = .error f) :
    Reused cached output content w (.error (.cacheCopy cached.text f.message))
      ((replaceFile output content).run u).2.files
  | done {u : Machine} (files : u.files = w.files) (setting : w.SameSetting u)
    (two : w.Admits 3 → w.files.sameFile cached output = false)
    (done : ((replaceFile output content).run u).1 = .ok ()) :
    Reused cached output content w (.ok (.fromCache (payloadDigest content)))
      ((replaceFile output content).run u).2.files

theorem reuse_reused (read : w.files.read? cached = some content) (files : u.files = w.files)
    (setting : w.SameSetting u) (calls : u.fileCalls = w.fileCalls + 2) :
    Reused cached output content w ((reuse cached output).run u).1
      ((reuse cached output).run u).2.files := by
  have admits (n : Nat) : u.Admits n ↔ w.Admits (n + 2) := by
    rw [Machine.Admits, Machine.Admits, setting.faults, calls, Nat.add_assoc, Nat.add_comm 2]
  rw [reuse, run_bind, copyCached, run_bind, Job.read, run_ask]
  simp only [Machine.answer]
  by_cases first : u.Admits 0
  · rw [files, read, Machine.look_of_admits first, files]
    dsimp only
    rw [run_bind, run_ask, Machine.answer_sameFile]
    -- The machine that is asked whether both paths are one file, and the one after that.
    generalize asked : u.afterCall w.files = v
    have same : v.files = w.files := by rw [← asked]; rfl
    have later : w.SameSetting (v.afterCall v.files) := by
      rw [← asked]
      exact setting.trans ((u.afterCall_sameSetting _).trans (Machine.afterCall_sameSetting _ _))
    have two : w.Admits 3 → (v.answer (.sameFile cached output)).1 =
        w.files.sameFile cached output := by
      intro second
      rw [← same]
      refine Machine.answer_sameFile_of_admits ?_ cached output
      rw [← asked]
      exact (admits 1).mpr second
    cases one : (v.answer (.sameFile cached output)).1 with
    | true =>
      have one := Machine.sameFile_of_answer one
      rw [same] at one
      rw [if_pos rfl, run_bind]
      simp only [run_pure]
      rw [(Looks.bind (.log _ _ _) fun _ => .pure _).run_files, (Looks.log _ _ _).run_files]
      change Reused cached output content w (.ok (.fromCache (payloadDigest content))) v.files
      rw [same]
      exact .same one
    | false =>
      rw [if_neg Bool.false_ne_true, run_bind]
      cases result : ((replaceFile output content).run (v.afterCall v.files)).1 with
      | error f =>
        simp only [run_pure]
        exact .failed same later result
      | ok done =>
        simp only [run_pure]
        rw [(Looks.bind (.log _ _ _) fun _ => .pure _).run_files]
        exact .done same later (fun second => (two second).symm.trans one) result
  · rw [Machine.look_of_not_admits first]
    dsimp only
    rw [files]
    exact .unread _ fun second => first ((admits 0).mpr second)

/-- A job that does not tell of the cached copy, wherever it runs. -/
def TellsOfNoCopy (job : Job (Except Failure FetchOutcome)) : Prop :=
  ∀ digest w, (job.run w).1 ≠ .ok (.fromCache digest)

/-- What ends with its first failure tells of no copy if what comes after it does not. -/
theorem TellsOfNoCopy.bind {α : Type} {job : Job (Except Failure α)}
    {next : Except Failure α → Job (Except Failure FetchOutcome)}
    (stops : ∀ f, next (.error f) = pure (.error f))
    (rest : ∀ a, TellsOfNoCopy (next (.ok a))) : TellsOfNoCopy (job >>= next) := by
  intro digest w
  rw [run_bind]
  cases (job.run w).1 with
  | error f =>
    rw [stops]
    exact nofun
  | ok a => exact rest a digest _

/-- A run that does not reuse the cached copy does not tell of any. -/
theorem renew_tellsOfNoCopy (config : FetchConfig) (request : FetchRequest) :
    TellsOfNoCopy (renew config request) := by
  refine .bind (fun _ => rfl) fun keys => .bind (fun _ => rfl) fun _ => ?_
  refine .bind (fun _ => rfl) fun document => .bind (fun _ => rfl) fun v => ?_
  refine .bind (fun _ => rfl) fun _ => ?_
  intro digest w
  cases request.cached with
  | none => exact nofun
  | some cached =>
    dsimp only
    rw [run_bind]
    exact nofun

end Fetch

/-- A run that tells of the cached copy found it fresh and reused it. -/
theorem fetchMetadata_fromCache {config : FetchConfig} {request : FetchRequest} {digest : String}
    (asked : request.cached = some cached)
    (h : ((fetchMetadata config request).run w).1 = .ok (.fromCache digest)) :
    ∃ content modified ttl, FreshAt w cached config.defaultCacheTtl content modified ttl ∧
      Fetch.Reused cached request.output content w (.ok (.fromCache digest))
        ((fetchMetadata config request).run w).2.files := by
  rw [fetchMetadata, asked] at h ⊢
  dsimp only at h ⊢
  rw [run_bind] at h ⊢
  have files := (isCacheValid_looks cached config.defaultCacheTtl).run_files w
  have setting := (isCacheValid cached config.defaultCacheTtl).run_sameSetting w
  cases valid : ((isCacheValid cached config.defaultCacheTtl).run w).1 with
  | false =>
    rw [valid, if_neg Bool.false_ne_true, run_bind] at h
    exact absurd h (Fetch.renew_tellsOfNoCopy config request digest _)
  | true =>
    obtain ⟨⟨content, modified, ttl, fresh⟩, calls⟩ := isCacheValid_eq_true valid
    rw [valid, if_pos rfl] at h
    rw [if_pos rfl]
    refine ⟨content, modified, ttl, fresh, ?_⟩
    rw [← h]
    exact Fetch.reuse_reused (FileSystem.read?_eq_some_iff.mpr ⟨_, fresh.file⟩) files setting calls

/-- A run that is let see a fresh cached copy reuses it. -/
theorem fetchMetadata_of_fresh {config : FetchConfig} {request : FetchRequest}
    (asked : request.cached = some cached)
    (fresh : FreshAt w cached config.defaultCacheTtl content modified ttl)
    (first : w.Admits 0) (second : w.Admits 1) :
    Fetch.Reused cached request.output content w ((fetchMetadata config request).run w).1
      ((fetchMetadata config request).run w).2.files := by
  have valid := isCacheValid_of_fresh fresh first second
  obtain ⟨-, calls⟩ := isCacheValid_eq_true valid
  rw [fetchMetadata, asked]
  dsimp only
  rw [run_bind, valid, if_pos rfl]
  exact Fetch.reuse_reused (FileSystem.read?_eq_some_iff.mpr ⟨_, fresh.file⟩)
    ((isCacheValid_looks cached config.defaultCacheTtl).run_files w)
    ((isCacheValid cached config.defaultCacheTtl).run_sameSetting w) calls

end FederationTrust
