import FederationTrust.Proofs.Reuse

/-!
# The stage that decides a run

A run goes through its stages in one order and ends at the first that decides it: a fresh cached
copy, the keys, the client, the download, the verification, and the output. Up to there it reads
no file that an earlier stage does not need, and asks the network at most once.
-/

namespace FederationTrust

def SystemCall.Offline : SystemCall → Prop
  | .download _ => False
  | _ => True

/-- A call that asks the network for nothing and reads no file but this one. -/
def SystemCall.ReadsOnly (path : Path) : SystemCall → Prop
  | .read other => other = path
  | .download _ => False
  | _ => True

theorem SystemCall.ReadsOnly.offline {path : Path} {c : SystemCall} (h : c.ReadsOnly path) :
    c.Offline := by
  cases c with
  | download request => exact h
  | _ => trivial

/-- A call that works on files, or asks who or when one is. -/
def SystemCall.OnFiles : SystemCall → Prop
  | .makeClient _ | .download _ | .log _ | .showOnly _ | .print _ | .complain _ => False
  | _ => True

/-- Such a call changes nothing but the files and how many calls there were on them. -/
theorem Machine.answer_onFiles (w : Machine) {c : SystemCall} (h : c.OnFiles) :
    ∃ files calls, (w.answer c).2 = { w with files := files, fileCalls := calls } := by
  cases c with
  | read path | modified path => exact ⟨_, _, look_snd w _⟩
  | sameFile a b => exact ⟨_, _, answer_sameFile w a b⟩
  | truncate path =>
    simp only [answer]
    rcases w.change_cases (w.files.truncate? path w.clock) with ⟨_, -, eq⟩ | ⟨_, eq⟩ <;> rw [eq] <;>
      exact ⟨_, _, rfl⟩
  | rename source target =>
    simp only [answer]
    rcases w.change_cases (w.files.rename? source target) with ⟨_, -, eq⟩ | ⟨_, eq⟩ <;> rw [eq] <;>
      exact ⟨_, _, rfl⟩
  | append path content =>
    simp only [answer]
    rcases w.appendTo_cases path content with ⟨_, -, eq⟩ | ⟨_, eq⟩ | ⟨_, _, eq⟩ <;> rw [eq] <;>
      exact ⟨_, _, rfl⟩
  | remove | now | processId => exact ⟨_, _, rfl⟩
  | makeClient | download | log | showOnly | print | complain => exact h.elim

theorem Machine.answer_requests (w : Machine) {c : SystemCall} (h : c.Offline) :
    (w.answer c).2.requests = w.requests := by
  have onFiles (h : c.OnFiles) : (w.answer c).2.requests = w.requests := by
    obtain ⟨files, calls, eq⟩ := w.answer_onFiles h
    rw [eq]
  cases c with
  | download request => exact h.elim
  | log line | print text =>
    simp only [answer]
    split <;> rfl
  | makeClient | showOnly | complain => rfl
  | _ => exact onFiles trivial

namespace Job

variable {α β : Type} {P Q : SystemCall → Prop} {job : Job α} {next : α → Job β} {w : Machine}

/-- A job all of whose calls have a property, whatever it is answered. -/
inductive Only (P : SystemCall → Prop) : Job α → Prop where
  | done (a : α) : Only P (.done a)
  | call {c : SystemCall} {next : c.Answer → Job α} (allowed : P c)
      (rest : ∀ answer, Only P (next answer)) : Only P (.call c next)

theorem Only.pure (a : α) : Only P (pure a : Job α) := .done a

theorem Only.ask {c : SystemCall} (allowed : P c) : Only P (Job.ask c) := .call allowed .done

theorem Only.bind (first : job.Only P) (rest : ∀ a, (next a).Only P) : (job >>= next).Only P := by
  induction first with
  | done a => exact rest a
  | call allowed _ ih => exact .call allowed ih

theorem Only.mono (h : job.Only P) (weaker : ∀ c, P c → Q c) : job.Only Q := by
  induction h with
  | done a => exact .done a
  | call allowed _ ih => exact .call (weaker _ allowed) ih

theorem Only.of_mem_calls (h : job.Only P) : ∀ call ∈ job.calls w, P call.1 := by
  induction h generalizing w with
  | done a => exact nofun
  | call allowed _ ih =>
    intro call asked
    rcases List.mem_cons.mp asked with rfl | later
    · exact allowed
    · exact ih _ call later

/-- A run that asks the network for nothing leaves the requests. -/
theorem Only.run_requests (h : job.Only SystemCall.Offline) (w : Machine) :
    (job.run w).2.requests = w.requests := by
  induction h generalizing w with
  | done a => rfl
  | call allowed _ ih => exact (ih _ _).trans (w.answer_requests allowed)

end Job

open Job

def SystemCall.Replaces : SystemCall → Prop
  | .processId | .truncate _ | .append _ _ | .rename _ _ | .remove _ | .log _ => True
  | _ => False

theorem SystemCall.Replaces.readsOnly (path : Path) {c : SystemCall} (h : c.Replaces) :
    c.ReadsOnly path := by
  cases c with
  | read | download => exact h.elim
  | _ => trivial

theorem replaceFile_replaces (target : Path) (content : Bytes) :
    (replaceFile target content).Only SystemCall.Replaces := by
  have giveUp (temporary : Path) (message : String) :
      (Replacement.giveUp target temporary message).Only SystemCall.Replaces :=
    .bind (.ask trivial) fun _ => .pure _
  have pieces (temporary : Path) (pieces : List Bytes) :
      (Replacement.writePieces temporary pieces).Only SystemCall.Replaces := by
    induction pieces with
    | nil => exact .pure _
    | cons piece rest ih =>
      refine .bind (.ask trivial) fun answer => ?_
      cases answer with
      | error reason => exact .pure _
      | ok done => exact ih
  refine .bind (.ask trivial) fun processId => .bind (.bind (.ask trivial) fun answer => ?_)
    fun written => ?_
  · cases answer with
    | error reason => exact .pure _
    | ok done => exact pieces _ _
  · cases written with
    | error reason => exact giveUp _ _
    | ok done =>
      refine .bind (.ask trivial) fun renamed => ?_
      cases renamed with
      | error reason => exact giveUp _ _
      | ok done => exact .bind (.ask trivial) fun _ => .pure _

section Reads

variable (path : Path)

theorem replaceFile_reads (target : Path) (content : Bytes) :
    (replaceFile target content).Only (SystemCall.ReadsOnly path) :=
  (replaceFile_replaces target content).mono fun _ => SystemCall.Replaces.readsOnly path

theorem isCacheValid_reads (standard : UInt64) :
    (isCacheValid path standard).Only (SystemCall.ReadsOnly path) := by
  refine .bind (.ask trivial) fun now => .bind (.bind (.ask rfl) fun document => ?_) fun copy => ?_
  · cases document with
    | error reason => exact .bind (.ask trivial) fun _ => .pure _
    | ok document =>
      dsimp only
      cases CachedCopy.lifetime? document standard with
      | none => exact .bind (.ask trivial) fun _ => .pure _
      | some lifetime =>
        refine .bind (.ask trivial) fun modified => ?_
        cases modified with
        | error reason => exact .bind (.ask trivial) fun _ => .pure _
        | ok modified => exact .pure _
  · cases copy with
    | none => exact .pure _
    | some c => exact .bind (.ask trivial) fun _ => .pure _

theorem reuse_reads (output : Path) :
    (Fetch.reuse path output).Only (SystemCall.ReadsOnly path) := by
  refine .bind (.bind (.ask rfl) fun content => ?_) fun copied => ?_
  · cases content with
    | error reason => exact .pure _
    | ok content =>
      refine .bind (.ask trivial) fun same => ?_
      split
      · exact .bind (.ask trivial) fun _ => .pure _
      · refine .bind (replaceFile_reads path output content) fun done => ?_
        cases done <;> exact .pure _
  · cases copied with
    | error f => exact .pure _
    | ok content => exact .bind (.ask trivial) fun _ => .pure _

theorem KeySet.load_reads : (KeySet.load path).Only (SystemCall.ReadsOnly path) := by
  have warns (n : Nat) : (KeySet.warnSkipped n).Only (SystemCall.ReadsOnly path) := by
    induction n with
    | zero => exact .pure ()
    | succ n ih => exact .bind (.ask trivial) fun _ => ih
  refine .bind (.ask rfl) fun file => ?_
  cases file with
  | error reason => exact .pure _
  | ok file =>
    dsimp only
    cases KeySet.parse file with
    | error e => exact .pure _
    | ok keys =>
      refine .bind (warns _) fun _ => ?_
      split
      · exact .pure _
      · exact .bind (.ask trivial) fun _ => .pure _

end Reads

theorem Fetch.makeClient_offline (config : FetchConfig) :
    (Fetch.makeClient config).Only SystemCall.Offline := by
  refine .bind (.ask trivial) fun answer => ?_
  cases answer <;> exact .pure _

theorem Fetch.verify_offline (document : Bytes) (keys : KeySet) (policy : AlgorithmPolicy) :
    (Fetch.verify document keys policy).Only SystemCall.Offline := by
  have logs (outcomes : List EntryOutcome) :
      (Fetch.logOutcomes outcomes).Only SystemCall.Offline := by
    induction outcomes with
    | nil => exact .pure ()
    | cons outcome rest ih =>
      refine .bind ?_ fun _ => ih
      cases outcome <;> exact .ask trivial
  exact .bind (.ask trivial) fun _ => .bind (logs _) fun _ => .pure _

theorem Fetch.store_offline (request : FetchRequest) (v : VerifiedPayload) :
    (Fetch.store request v).Only SystemCall.Offline := by
  have replaces (target : Path) :
      (replaceFile target v.payload).Only SystemCall.Offline :=
    (replaceFile_reads target target v.payload).mono fun _ => SystemCall.ReadsOnly.offline
  refine .bind (replaces request.output) fun written => ?_
  cases written with
  | error f => exact .pure _
  | ok done =>
    cases request.cached with
    | none => exact .bind (.ask trivial) fun _ => .pure _
    | some cached =>
      refine .bind ?_ fun _ => .bind (.ask trivial) fun _ => .pure _
      rw [Fetch.refreshCache]
      split
      · exact .pure _
      · refine .bind (replaces cached) fun refreshed => ?_
        cases refreshed <;> exact .ask trivial

/-- A run is let see that the cached file is fresh. -/
def Machine.SeesFresh (w : Machine) (cached : Path) (standard : UInt64) : Prop :=
  (∃ content modified ttl, FreshAt w cached standard content modified ttl) ∧
    w.Admits 0 ∧ w.Admits 1

theorem isCacheValid_iff {w : Machine} {cached : Path} {standard : UInt64} :
    ((isCacheValid cached standard).run w).1 = true ↔ w.SeesFresh cached standard := by
  constructor
  · intro valid
    obtain ⟨_, first, second⟩ := isCacheValidAt_iff.mp valid
    exact ⟨(isCacheValid_eq_true valid).1, first, second⟩
  · rintro ⟨⟨content, modified, ttl, fresh⟩, first, second⟩
    exact isCacheValid_of_fresh fresh first second

namespace Fetch

variable {config : FetchConfig} {request : FetchRequest} {path : Path} {w u : Machine}
variable {calls more : List (SystemCall × Machine)} {keys : KeySet} {document : Bytes}
variable {v : VerifiedPayload} {f : Failure}

/-- Why a key file gives no key, as it is told. -/
inductive KeysMissing (path : Path) (files : FileSystem) (calls : List (SystemCall × Machine)) :
    String → Prop where
  | unread {reason : String} {u : Machine} (asked : (.read path, u) ∈ calls)
    (refused : files.read? path = none ∨ ¬ u.Admits 0) : KeysMissing path files calls reason
  | unparsed {file : Bytes} {e : KeyFileError} (read : files.read? path = some file)
    (wrong : KeySet.parse file = .error e) : KeysMissing path files calls e.message
  | unusable {file : Bytes} {keys : KeySet} (read : files.read? path = some file)
    (parsed : KeySet.parse file = .ok keys) (none : keys.keys = []) :
    KeysMissing path files calls "no usable keys"

inductive HasKeys (path : Path) (files : FileSystem) (keys : KeySet) : Prop where
  | intro {file : Bytes} (read : files.read? path = some file)
    (parsed : KeySet.parse file = .ok keys) (some : keys.keys ≠ [])

/-- Why a download gives no document, as it is told. -/
inductive DownloadFails (config : FetchConfig)
    (network : DownloadRequest → Except DownloadFault DownloadResponse) : String → Prop where
  | unaskable (no : isFetchable config.url = false) :
    DownloadFails config network "not a URL of a document"
  | unanswered {fault : DownloadFault} (askable : isFetchable config.url = true)
    (answered : network config.downloadRequest = .error fault) :
    DownloadFails config network fault.text
  | refused {response : DownloadResponse} (askable : isFetchable config.url = true)
    (answered : network config.downloadRequest = .ok response)
    (status : response.isSuccess = false) :
    DownloadFails config network ("HTTP " ++ statusText response.status)
  | broken {response : DownloadResponse} {fault : DownloadFault}
    (askable : isFetchable config.url = true)
    (answered : network config.downloadRequest = .ok response)
    (status : response.isSuccess = true) (body : response.body = .error fault) :
    DownloadFails config network fault.text

inductive Downloads (config : FetchConfig)
    (network : DownloadRequest → Except DownloadFault DownloadResponse) (document : Bytes) :
    Prop where
  | intro {response : DownloadResponse} (askable : isFetchable config.url = true)
    (answered : network config.downloadRequest = .ok response)
    (status : response.isSuccess = true) (body : response.body = .ok document)

theorem load_cases (path : Path) (w : Machine) :
    (∃ reason, ((KeySet.load path).run w).1 = .error (.keyRead path.text reason) ∧
      KeysMissing path w.files ((KeySet.load path).calls w) reason) ∨
    ∃ keys, ((KeySet.load path).run w).1 = .ok keys ∧ HasKeys path w.files keys := by
  rw [KeySet.load, run_bind, calls_bind, Job.read, run_ask]
  have asked {rest : List (SystemCall × Machine)} :
      (.read path, w) ∈ (Job.ask (.read path)).calls w ++ rest :=
    List.mem_append_left _ List.mem_cons_self
  simp only [Machine.answer]
  by_cases admits : w.Admits 0
  · cases read : w.files.read? path with
    | none =>
      rcases w.look_cases (none : Option Bytes) with ⟨_, found, -⟩ | ⟨reason, eq⟩
      · cases found
      · rw [eq]
        exact Or.inl ⟨reason, rfl, .unread asked (Or.inl read)⟩
    | some file =>
      rw [Machine.look_of_admits admits]
      dsimp only
      cases parsed : KeySet.parse file with
      | error e => exact Or.inl ⟨e.message, rfl, .unparsed read parsed⟩
      | ok keys =>
        dsimp only
        rw [run_bind]
        by_cases none : keys.keys = []
        · rw [if_pos none]
          exact Or.inl ⟨_, rfl, .unusable read parsed none⟩
        · rw [if_neg none]
          exact Or.inr ⟨keys, rfl, .intro read parsed none⟩
  · rw [Machine.look_of_not_admits admits]
    exact Or.inl ⟨_, rfl, .unread asked (Or.inr admits)⟩

theorem makeClient_cases (config : FetchConfig) (w : Machine) :
    (∃ reason, w.clients (client config) = .error reason ∧
      ((makeClient config).run w).1 =
        .error (.config ("failed to create HTTP client: " ++ reason))) ∨
    w.clients (client config) = .ok () ∧ ((makeClient config).run w).1 = .ok () := by
  rw [makeClient, run_bind, run_ask]
  simp only [Machine.answer]
  cases w.clients (client config) with
  | error reason => exact Or.inl ⟨reason, rfl, rfl⟩
  | ok made => exact Or.inr ⟨rfl, rfl⟩

theorem download_cases (config : FetchConfig) (w : Machine) :
    (∃ message, ((download config).run w).1 = .error (.network config.url message) ∧
      DownloadFails config w.network message ∧
      ((download config).run w).2.requests = w.requests ++
        if isFetchable config.url then [config.downloadRequest] else []) ∨
    ∃ document, ((download config).run w).1 = .ok document ∧ Downloads config w.network document ∧
      ((download config).run w).2.requests = w.requests ++ [config.downloadRequest] := by
  have logged (level : LogLevel) (source message : String) (u : Machine) :
      ((Job.log level source message).run u).2.requests = u.requests :=
    u.answer_requests (c := .log ⟨level, source, message⟩) trivial
  rw [download, run_bind]
  cases askable : isFetchable config.url with
  | false =>
    refine Or.inl ⟨_, rfl, .unaskable askable, ?_⟩
    rw [if_neg Bool.false_ne_true, List.append_nil]
    exact logged _ _ _ w
  | true =>
    dsimp only
    rw [if_neg (by decide), if_pos rfl, run_bind, run_bind, run_bind, run_ask]
    -- The machine that is asked for the download, after some lines were logged.
    generalize asked : ((Job.log .debug connectionSource "starting new connection").run _).2 = u
    have same : w.SameSetting u := by
      rw [← asked]
      exact ((run_sameSetting _ w).trans (run_sameSetting _ _)).trans (run_sameSetting _ _)
    have before : u.requests = w.requests := by
      rw [← asked, logged, logged, logged]
    simp only [Machine.answer, same.network, before]
    cases answered : w.network ⟨config.url, client config⟩ with
    | error fault => exact Or.inl ⟨_, rfl, .unanswered askable answered, rfl⟩
    | ok response =>
      dsimp only
      cases status : response.isSuccess with
      | false =>
        rw [if_neg Bool.false_ne_true]
        exact Or.inl ⟨_, rfl, .refused askable answered status, rfl⟩
      | true =>
        rw [if_pos rfl]
        cases body : response.body with
        | error fault => exact Or.inl ⟨_, rfl, .broken askable answered status body, rfl⟩
        | ok document =>
          refine Or.inr ⟨document, rfl, .intro askable answered status body, ?_⟩
          exact logged _ _ _ _

theorem verify_result (document : Bytes) (keys : KeySet) (policy : AlgorithmPolicy)
    (w : Machine) : ((verify document keys policy).run w).1 =
      (verifyEnvelopeAt document keys policy w.clock).mapError VerificationError.failure := by
  rw [verify, run_bind, run_ask, run_bind]
  rfl

theorem copyCached_cases (cached output : Path) (w : Machine) :
    (∃ content, w.files.read? cached = some content ∧
      ((copyCached cached output).run w).1 = .ok content) ∨
    ∃ message, ((copyCached cached output).run w).1 = .error (.cacheCopy cached.text message) := by
  rw [copyCached, run_bind, Job.read, run_ask]
  simp only [Machine.answer]
  rcases w.look_cases (w.files.read? cached) with ⟨content, read, eq⟩ | ⟨reason, eq⟩
  · rw [eq]
    dsimp only
    rw [run_bind, run_ask]
    generalize (w.afterCall w.files).answer (.sameFile cached output) = told
    obtain ⟨one, t⟩ := told
    cases one with
    | true => exact Or.inl ⟨content, read, rfl⟩
    | false =>
      dsimp only
      rw [if_neg Bool.false_ne_true, run_bind]
      cases ((replaceFile output content).run t).1 with
      | error f => exact Or.inr ⟨f.message, rfl⟩
      | ok done => exact Or.inl ⟨content, read, rfl⟩
  · rw [eq]
    exact Or.inr ⟨_, rfl⟩

theorem reuse_cases (cached output : Path) (w : Machine) :
    (∃ content, w.files.read? cached = some content ∧
      ((reuse cached output).run w).1 = .ok (.fromCache (payloadDigest content))) ∨
    ∃ message, ((reuse cached output).run w).1 = .error (.cacheCopy cached.text message) := by
  rw [reuse, run_bind]
  rcases copyCached_cases cached output w with ⟨content, read, copied⟩ | ⟨message, failed⟩
  · rw [copied]
    exact Or.inl ⟨content, read, rfl⟩
  · rw [failed]
    exact Or.inr ⟨message, rfl⟩

theorem replaceFile_error {content : Bytes}
    (failed : ((replaceFile path content).run w).1 = .error f) :
    ∃ message, f = .output path.text message := by
  have ended := Replacement.replaceFile_replaced path content w
  rw [failed] at ended
  generalize ((replaceFile path content).run w).2.files = after at ended
  cases ended with
  | refused message => exact ⟨message, rfl⟩
  | undone message => exact ⟨message, rfl⟩

theorem store_cases (request : FetchRequest) (v : VerifiedPayload) (w : Machine) :
    (∃ message, ((replaceFile request.output v.payload).run w).1 =
        .error (.output request.output.text message) ∧
      ((store request v).run w).1 = .error (.output request.output.text message)) ∨
    ((replaceFile request.output v.payload).run w).1 = .ok () ∧
      ((store request v).run w).1 = .ok (.verified v.digest v.entryIndex v.kid) := by
  rw [store, run_bind]
  cases written : ((replaceFile request.output v.payload).run w).1 with
  | error f =>
    obtain ⟨message, rfl⟩ := replaceFile_error written
    exact Or.inl ⟨message, rfl, rfl⟩
  | ok done =>
    refine Or.inr ⟨rfl, ?_⟩
    cases request.cached with
    | none => rfl
    | some cached =>
      dsimp only
      rw [run_bind]
      rfl

def Stale (config : FetchConfig) (request : FetchRequest) (w : Machine) : Prop :=
  ∀ cached, request.cached = some cached → ¬ w.SeesFresh cached config.defaultCacheTtl

/-- The stage that decides a run, what the run ends with, and what it asks of the network. -/
inductive Decided (config : FetchConfig) (request : FetchRequest) (w : Machine)
    (calls : List (SystemCall × Machine)) :
    Except Failure FetchOutcome → List DownloadRequest → Prop where
  | reused {cached : Path} {content : Bytes} (asked : request.cached = some cached)
    (fresh : w.SeesFresh cached config.defaultCacheTtl)
    (only : ∀ call ∈ calls, call.1.ReadsOnly cached)
    (read : w.files.read? cached = some content) :
    Decided config request w calls (.ok (.fromCache (payloadDigest content))) []
  | notCopied {cached : Path} {message : String} (asked : request.cached = some cached)
    (fresh : w.SeesFresh cached config.defaultCacheTtl)
    (only : ∀ call ∈ calls, call.1.ReadsOnly cached) :
    Decided config request w calls (.error (.cacheCopy cached.text message)) []
  | keys {reason : String} (stale : Stale config request w)
    (missing : KeysMissing request.keys w.files calls reason) :
    Decided config request w calls (.error (.keyRead request.keys.text reason)) []
  | client {keys : KeySet} {reason : String} (stale : Stale config request w)
    (known : HasKeys request.keys w.files keys)
    (refused : w.clients (client config) = .error reason) :
    Decided config request w calls
      (.error (.config ("failed to create HTTP client: " ++ reason))) []
  | download {keys : KeySet} {message : String} (stale : Stale config request w)
    (known : HasKeys request.keys w.files keys) (made : w.clients (client config) = .ok ())
    (fails : DownloadFails config w.network message) :
    Decided config request w calls (.error (.network config.url message))
      (if isFetchable config.url then [config.downloadRequest] else [])
  | verification {keys : KeySet} {document : Bytes} {e : VerificationError}
    (stale : Stale config request w) (known : HasKeys request.keys w.files keys)
    (made : w.clients (client config) = .ok ()) (downloads : Downloads config w.network document)
    (rejected : verifyEnvelopeAt document keys config.algorithms w.clock = .error e) :
    Decided config request w calls (.error e.failure) [config.downloadRequest]
  | output {keys : KeySet} {document : Bytes} {v : VerifiedPayload} {u : Machine}
    {message : String} (stale : Stale config request w) (known : HasKeys request.keys w.files keys)
    (made : w.clients (client config) = .ok ()) (downloads : Downloads config w.network document)
    (verified : verifyEnvelopeAt document keys config.algorithms w.clock = .ok v)
    (reached : Reached w calls (replaceFile request.output v.payload) u)
    (failed : ((replaceFile request.output v.payload).run u).1 =
      .error (.output request.output.text message)) :
    Decided config request w calls (.error (.output request.output.text message))
      [config.downloadRequest]
  | written {keys : KeySet} {document : Bytes} {v : VerifiedPayload} {u : Machine}
    (stale : Stale config request w) (known : HasKeys request.keys w.files keys)
    (made : w.clients (client config) = .ok ()) (downloads : Downloads config w.network document)
    (verified : verifyEnvelopeAt document keys config.algorithms w.clock = .ok v)
    (reached : Reached w calls (replaceFile request.output v.payload) u)
    (done : ((replaceFile request.output v.payload).run u).1 = .ok ()) :
    Decided config request w calls (.ok (.verified v.digest v.entryIndex v.kid))
      [config.downloadRequest]

theorem KeysMissing.mono {reason : String} {files : FileSystem}
    (h : KeysMissing path files calls reason) (sub : ∀ call ∈ calls, call ∈ more) :
    KeysMissing path files more reason := by
  cases h with
  | unread asked refused => exact .unread (sub _ asked) refused
  | unparsed read wrong => exact .unparsed read wrong
  | unusable read parsed none => exact .unusable read parsed none

/-- A machine after stages that changed no file, when the network was asked for so much. -/
structure Standing (w u : Machine) (asked : List DownloadRequest) : Prop where
  files : u.files = w.files
  setting : w.SameSetting u
  requests : u.requests = w.requests ++ asked

theorem Standing.refl (w : Machine) : Standing w w [] :=
  ⟨rfl, .refl w, (List.append_nil w.requests).symm⟩

theorem Standing.after {α : Type} {job : Job α} {asked : List DownloadRequest}
    (h : Standing w u asked) (looks : job.Looks) (offline : job.Only SystemCall.Offline) :
    Standing w (job.run u).2 asked :=
  ⟨(looks.run_files u).trans h.files, h.setting.trans (run_sameSetting job u),
    (offline.run_requests u).trans h.requests⟩

/-- What is left of a run ends as the stage that decides it says. -/
def EndsDecided (config : FetchConfig) (request : FetchRequest) (w : Machine)
    (calls : List (SystemCall × Machine)) (job : Job (Except Failure FetchOutcome))
    (u : Machine) : Prop :=
  (∀ call ∈ job.calls u, call ∈ calls) →
    ∃ asked, Decided config request w calls (job.run u).1 asked ∧
      (job.run u).2.requests = w.requests ++ asked

/-- A stage decides the run where it fails, and else leaves that to the stages after it. -/
theorem EndsDecided.bind {α : Type} {job : Job (Except Failure α)}
    {next : Except Failure α → Job (Except Failure FetchOutcome)}
    (stops : ∀ f, next (.error f) = pure (.error f))
    (decides : ∀ f, (job.run u).1 = .error f → (∀ call ∈ job.calls u, call ∈ calls) →
      ∃ asked, Decided config request w calls (.error f) asked ∧
        (job.run u).2.requests = w.requests ++ asked)
    (rest : ∀ a, (job.run u).1 = .ok a →
      EndsDecided config request w calls (next (.ok a)) (job.run u).2) :
    EndsDecided config request w calls (job >>= next) u := by
  intro sub
  rw [calls_bind] at sub
  rw [run_bind]
  cases result : (job.run u).1 with
  | error f =>
    rw [stops]
    exact decides f result fun call called => sub call (List.mem_append_left _ called)
  | ok a =>
    refine rest a result fun call called => sub call (List.mem_append_right _ ?_)
    rw [result]
    exact called

theorem store_decided (stale : Stale config request w) (known : HasKeys request.keys w.files keys)
    (made : w.clients (client config) = .ok ()) (downloads : Downloads config w.network document)
    (verified : verifyEnvelopeAt document keys config.algorithms w.clock = .ok v)
    (stands : Standing w u [config.downloadRequest]) :
    EndsDecided config request w calls (store request v) u := by
  intro sub
  have requests := ((store_offline request v).run_requests u).trans stands.requests
  have reached : Reached w calls (replaceFile request.output v.payload) u := by
    refine ⟨stands.files, stands.setting, fun call called => sub call ?_⟩
    rw [store, calls_bind]
    exact List.mem_append_left _ called
  rcases store_cases request v u with ⟨message, failed, ends⟩ | ⟨done, ends⟩
  · rw [ends]
    exact ⟨_, .output stale known made downloads verified reached failed, requests⟩
  · rw [ends]
    exact ⟨_, .written stale known made downloads verified reached done, requests⟩

theorem renew_decided (stale : Stale config request w) (stands : Standing w u []) :
    EndsDecided config request w calls (renew config request) u := by
  have keysOffline : (KeySet.load request.keys).Only SystemCall.Offline :=
    (KeySet.load_reads request.keys).mono fun _ => SystemCall.ReadsOnly.offline
  have afterKeys := stands.after (KeySet.load_looks request.keys) keysOffline
  refine .bind (fun _ => rfl) (fun f failed called => ?_) fun keys loaded => ?_
  · rcases load_cases request.keys u with ⟨reason, ends, missing⟩ | ⟨keys, ends, -⟩
    · cases failed.symm.trans ends
      rw [stands.files] at missing
      exact ⟨[], .keys stale (missing.mono called), afterKeys.requests⟩
    · cases failed.symm.trans ends
  have known : HasKeys request.keys w.files keys := by
    rcases load_cases request.keys u with ⟨reason, ends, -⟩ | ⟨found, ends, known⟩
    · cases loaded.symm.trans ends
    · cases loaded.symm.trans ends
      exact stands.files ▸ known
  generalize ((KeySet.load request.keys).run u).2 = u₁ at afterKeys
  have afterClient := afterKeys.after (makeClient_looks config) (makeClient_offline config)
  refine .bind (fun _ => rfl) (fun f failed _ => ?_) fun _ ready => ?_
  · rcases makeClient_cases config u₁ with ⟨reason, refused, ends⟩ | ⟨-, ends⟩
    · cases failed.symm.trans ends
      rw [afterKeys.setting.clients] at refused
      exact ⟨[], .client stale known refused, afterClient.requests⟩
    · cases failed.symm.trans ends
  have made : w.clients (client config) = .ok () := by
    rcases makeClient_cases config u₁ with ⟨reason, -, ends⟩ | ⟨made, -⟩
    · cases ready.symm.trans ends
    · exact afterKeys.setting.clients ▸ made
  generalize ((makeClient config).run u₁).2 = u₂ at afterClient
  refine .bind (fun _ => rfl) (fun f failed _ => ?_) fun document downloaded => ?_
  · rcases download_cases config u₂ with ⟨message, ends, fails, asked⟩ | ⟨document, ends, -⟩
    · cases failed.symm.trans ends
      rw [afterClient.setting.network] at fails
      rw [afterClient.requests, List.append_nil] at asked
      exact ⟨_, .download stale known made fails, asked⟩
    · cases failed.symm.trans ends
  have ⟨downloads, afterDownload⟩ : Downloads config w.network document ∧
      Standing w ((download config).run u₂).2 [config.downloadRequest] := by
    rcases download_cases config u₂ with ⟨message, ends, -⟩ | ⟨found, ends, downloads, asked⟩
    · cases downloaded.symm.trans ends
    · cases downloaded.symm.trans ends
      rw [afterClient.setting.network] at downloads
      rw [afterClient.requests, List.append_nil] at asked
      exact ⟨downloads, ((download_looks config).run_files u₂).trans afterClient.files,
        afterClient.setting.trans (run_sameSetting _ u₂), asked⟩
  generalize ((download config).run u₂).2 = u₃ at afterDownload
  have result := verify_result document keys config.algorithms u₃
  rw [afterDownload.setting.clock] at result
  have afterCheck := afterDownload.after (verify_looks document keys config.algorithms)
    (verify_offline document keys config.algorithms)
  refine .bind (fun _ => rfl) (fun f failed _ => ?_) fun v checked => ?_
  · cases verified : verifyEnvelopeAt document keys config.algorithms w.clock with
    | error e =>
      rw [verified] at result
      cases failed.symm.trans result
      exact ⟨_, .verification stale known made downloads verified, afterCheck.requests⟩
    | ok v =>
      rw [verified] at result
      cases failed.symm.trans result
  · cases verified : verifyEnvelopeAt document keys config.algorithms w.clock with
    | error e =>
      rw [verified] at result
      cases checked.symm.trans result
    | ok found =>
      rw [verified] at result
      cases checked.symm.trans result
      exact store_decided stale known made downloads verified afterCheck

/-- Every run is decided by the first stage in their order that can decide it, and asks the network
for the document only if that stage comes after the client. -/
theorem fetchMetadata_decided (config : FetchConfig) (request : FetchRequest) (w : Machine) :
    ∃ asked, Decided config request w ((fetchMetadata config request).calls w)
        ((fetchMetadata config request).run w).1 asked ∧
      ((fetchMetadata config request).run w).2.requests = w.requests ++ asked := by
  rw [fetchMetadata]
  cases asked : request.cached with
  | none =>
    exact renew_decided (fun cached here => by cases asked.symm.trans here) (.refl w)
      fun _ called => called
  | some cached =>
    dsimp only
    rw [run_bind, calls_bind]
    have checks := isCacheValid_reads cached config.defaultCacheTtl
    have files := (isCacheValid_looks cached config.defaultCacheTtl).run_files w
    have setting := run_sameSetting (isCacheValid cached config.defaultCacheTtl) w
    have unasked := (checks.mono fun _ => SystemCall.ReadsOnly.offline).run_requests w
    have valid := @isCacheValid_iff w cached config.defaultCacheTtl
    have before : ∀ call ∈ (isCacheValid cached config.defaultCacheTtl).calls w,
      call.1.ReadsOnly cached := checks.of_mem_calls
    generalize (isCacheValid cached config.defaultCacheTtl).calls w = calls at before ⊢
    generalize (isCacheValid cached config.defaultCacheTtl).run w = ran at *
    obtain ⟨fresh, u⟩ := ran
    dsimp only at files setting unasked valid ⊢
    cases fresh with
    | true =>
      rw [if_pos rfl]
      have reads := reuse_reads cached request.output
      have requests := (reads.mono fun _ => SystemCall.ReadsOnly.offline).run_requests u
      have only : ∀ call ∈ calls ++ (reuse cached request.output).calls u,
          call.1.ReadsOnly cached := by
        intro call called
        rcases List.mem_append.mp called with earlier | later
        · exact before call earlier
        · exact reads.of_mem_calls call later
      refine ⟨[], ?_, by rw [requests, unasked, List.append_nil]⟩
      rcases reuse_cases cached request.output u with ⟨content, read, ends⟩ | ⟨message, ends⟩
      · rw [ends]
        exact .reused asked (valid.mp rfl) only (files ▸ read)
      · rw [ends]
        exact .notCopied asked (valid.mp rfl) only
    | false =>
      rw [if_neg Bool.false_ne_true, run_bind, calls_bind]
      have stale : Stale config request w := by
        intro other here sees
        cases asked.symm.trans here
        cases valid.mpr sees
      have checked : Standing w u [] := ⟨files, setting, unasked.trans (List.append_nil _).symm⟩
      have logged := checked.after (.log .debug runSource "cached metadata not usable, fetching")
        (.ask trivial)
      exact renew_decided stale logged
        fun _ called => List.mem_append_right _ (List.mem_append_right _ called)

end Fetch

end FederationTrust
