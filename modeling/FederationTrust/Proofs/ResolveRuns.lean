import FederationTrust.CommandLine.Run
import FederationTrust.Proofs.FetchStages
import FederationTrust.Proofs.ResolvedServers
import FederationTrust.Proofs.SpelledArguments
import FederationTrust.Proofs.WholeReplacements

/-!
# Runs of a resolution

A resolution that fails has printed nothing and left all files, and one that succeeds has printed a
line for each end point. The certificates are written last: if that fails, the file that they were
for is as it was, and the lines have been printed nevertheless.
-/

namespace FederationTrust

open FileSystem Replacement

def SystemCall.Silent : SystemCall → Prop
  | .print _ => False
  | _ => True

theorem SystemCall.Replaces.silent {c : SystemCall} (h : c.Replaces) : c.Silent := by
  cases c with
  | print => exact h.elim
  | _ => trivial

theorem Machine.answer_printed (w : Machine) {c : SystemCall} (h : c.Silent) :
    (w.answer c).2.printed = w.printed := by
  have onFiles (h : c.OnFiles) : (w.answer c).2.printed = w.printed := by
    obtain ⟨files, calls, eq⟩ := w.answer_onFiles h
    rw [eq]
  cases c with
  | print text => exact h.elim
  | log line =>
    simp only [answer]
    split <;> rfl
  | makeClient | download | showOnly | complain => rfl
  | _ => exact onFiles trivial

/-- What has been printed stays so when nothing is printed. -/
theorem Job.Only.run_printed {α : Type} {job : Job α} (h : job.Only SystemCall.Silent)
    (w : Machine) : (job.run w).2.printed = w.printed := by
  induction h generalizing w with
  | done a => rfl
  | call silent _ ih => exact (ih _ _).trans (w.answer_printed silent)

theorem printed_log (level : LogLevel) (source message : String) (w : Machine) :
    ((Job.log level source message).run w).2.printed = w.printed :=
  w.answer_printed trivial

namespace Replacement

theorem printed_replaceFile (path : Path) (content : Bytes) (w : Machine) :
    ((replaceFile path content).run w).2.printed = w.printed :=
  ((replaceFile_replaces path content).mono fun _ => SystemCall.Replaces.silent).run_printed w

/-- A replacement that fails tells of the path, wherever links lead. -/
theorem output_of_failed {path : Path} {content : Bytes} {w : Machine} {f : Failure}
    (failed : ((replaceFile path content).run w).1 = .error f) :
    ∃ message, f = .output path.text message := by
  have ended := replaceFile_replaced path content w
  rw [failed] at ended
  generalize ((replaceFile path content).run w).2.files = after at ended
  cases ended with
  | refused message => exact ⟨message, rfl⟩
  | undone message => exact ⟨message, rfl⟩

end Replacement

/-- The file at a path can be read and holds this metadata. -/
def Machine.Provides (w : Machine) (path : Path) (metadata : Metadata) : Prop :=
  w.Admits 0 ∧ ∃ document, w.files.read? path = some document ∧
    Metadata.parse? document = some metadata

/-- Metadata is read exactly if it is provided; otherwise the failure tells of the file. -/
theorem Metadata.load_cases (path : Path) (w : Machine) :
    (∃ metadata, w.Provides path metadata ∧
        (Metadata.load path).run w = (.ok metadata, w.afterCall w.files)) ∨
      (∀ metadata, ¬ w.Provides path metadata) ∧
        ∃ reason, (Metadata.load path).run w =
          (.error (.metadataRead path.text reason), w.afterCall w.files) := by
  rw [Metadata.load, Job.run_bind, Job.read, Job.run_ask]
  simp only [Machine.answer]
  by_cases admits : w.Admits 0
  · cases found : w.files.read? path with
    | none =>
      right
      refine ⟨fun metadata provided => ?_, ?_⟩
      · obtain ⟨-, document, read, -⟩ := provided
        rw [found] at read
        cases read
      · rcases w.look_cases (none : Option Bytes) with ⟨_, nothing, -⟩ | ⟨reason, eq⟩
        · cases nothing
        · rw [eq]
          exact ⟨reason, rfl⟩
    | some document =>
      rw [Machine.look_of_admits admits]
      dsimp only
      cases parsed : Metadata.parse? document with
      | none =>
        right
        refine ⟨fun metadata provided => ?_, _, rfl⟩
        obtain ⟨-, other, read, provided⟩ := provided
        obtain rfl := Option.some.inj (found.symm.trans read)
        rw [parsed] at provided
        cases provided
      | some metadata => exact .inl ⟨metadata, ⟨admits, document, found, parsed⟩, rfl⟩
  · right
    rw [Machine.look_of_not_admits admits]
    exact ⟨fun metadata provided => admits provided.1, _, rfl⟩

theorem Machine.Provides.unique {w : Machine} {path : Path} {metadata other : Metadata}
    (first : w.Provides path metadata) (second : w.Provides path other) : metadata = other := by
  obtain ⟨-, document, read, parsed⟩ := first
  obtain ⟨-, document', read', parsed'⟩ := second
  obtain rfl := Option.some.inj (read.symm.trans read')
  exact Option.some.inj (parsed.symm.trans parsed')

/-- A selector never stands for no servers at all. -/
theorem Entity.Chosen.ne_nil {e : Entity} {selector : ServerSelector} {servers : List Server}
    (chosen : e.Chosen selector servers) : servers ≠ [] := by
  rcases selector with (_ | name) | tags
  · obtain ⟨-, one⟩ := chosen
    rintro rfl
    cases one
  · obtain ⟨s, -, rfl⟩ := chosen
    exact List.cons_ne_nil s []
  · exact chosen.2

/-- A connection has an end point. -/
theorem Metadata.endPoints_ne_nil {m : Metadata} {entityId : String} {selector : ServerSelector}
    {c : ServerConnection} (resolved : m.resolve entityId selector = .ok c) :
    c.endPoints ≠ [] := by
  obtain ⟨e, -, connected⟩ := (m.resolve_eq_ok_iff entityId selector c).mp resolved
  obtain ⟨servers, chosen, given, -⟩ := (e.connect_eq_ok_iff selector c).mp connected
  intro none
  rw [none] at given
  exact chosen.ne_nil (List.forall₂_nil_right_iff.mp given)

namespace CommandLine

def endPointLines (points : List EndPoint) : Bytes :=
  points.flatMap fun e => Bytes.ofText (endPointLine e)

def printedMore (w : Machine) (more : Bytes) : Machine :=
  { w with printed := w.printed ++ more }

theorem run_emit_bind {w : Machine} (line : String) (next : ExceptT String Job Unit) :
    (emit line >>= fun _ => next).run.run w =
      if w.acceptsPrint then next.run.run (printedMore w (Bytes.ofText line))
      else (.error "no space left", w) := by
  have asked : (emit line).run.run w = w.answer (.print line) := rfl
  rw [ExceptT.run_bind, Job.run_bind, asked]
  by_cases accepts : w.acceptsPrint = true
  · have printed : w.answer (.print line) = (.ok (), printedMore w (Bytes.ofText line)) :=
      if_pos accepts
    rw [if_pos accepts, printed]
  · have refused : w.answer (.print line) = (.error "no space left", w) := if_neg accepts
    rw [if_neg accepts, refused]
    rfl

/-- Where printing works, the lines of all end points are printed. -/
theorem run_printLines (points : List EndPoint) {w : Machine} (accepts : w.acceptsPrint = true) :
    ((points.forM fun e => emit (endPointLine e)).run).run w =
      (.ok (), printedMore w (endPointLines points)) := by
  induction points generalizing w with
  | nil =>
    show _ = (Except.ok (), printedMore w [])
    rw [printedMore, List.append_nil]
    rfl
  | cons e rest ih =>
    refine (run_emit_bind (endPointLine e) _).trans ?_
    rw [if_pos accepts, ih (w := printedMore w _) accepts, printedMore, printedMore, printedMore,
      List.append_assoc]
    rfl

/-- Where it does not, nothing is printed. -/
theorem run_printLines_refused {points : List EndPoint} (some : points ≠ []) {w : Machine}
    (refuses : w.acceptsPrint = false) :
    ((points.forM fun e => emit (endPointLine e)).run).run w = (.error "no space left", w) := by
  obtain ⟨e, rest, rfl⟩ := List.exists_cons_of_ne_nil some
  refine (run_emit_bind (endPointLine e) _).trans ?_
  rw [refuses, if_neg Bool.false_ne_true]

/-- A machine after one file call that changed nothing, and whatever was printed or logged. -/
structure LookedOnce (w u : Machine) : Prop where
  files : u.files = w.files
  setting : w.SameSetting u
  fileCalls : u.fileCalls = w.fileCalls + 1

section Storing

variable {w u : Machine} {path : Path} {content : Bytes} {after : FileSystem}

theorem LookedOnce.complete (looked : LookedOnce w u) (done : Complete path content u after) :
    Complete path content w after := by
  obtain ⟨held, leads, sibling, others⟩ := done
  rw [looked.files, looked.setting.clock] at held leads
  rw [looked.setting.processId] at sibling
  rw [looked.files, looked.setting.processId] at others
  exact ⟨held, leads, sibling, others⟩

theorem LookedOnce.kept (looked : LookedOnce w u) (kept : Kept path u after) :
    Kept path w after := by
  obtain ⟨held, leads, others⟩ := kept
  rw [looked.files, looked.setting.processId] at leads others
  rw [looked.files] at held
  exact ⟨held, leads, others⟩

theorem LookedOnce.undone {calls : List (SystemCall × Machine)} {f : Failure}
    (looked : LookedOnce w u) (undone : Undone path u calls f after) :
    Undone path w calls f after := by
  obtain ⟨told, kept, sibling, meanwhile⟩ := undone
  rw [looked.files, looked.setting.processId] at sibling
  exact ⟨told, looked.kept kept, sibling, fun call asked => looked.kept (meanwhile call asked)⟩

/-- How the certificates are stored, if at all: with which exit code and which files. What is said
of the files holds unless a link leads away from the temporary sibling. -/
inductive Stored (content : Bytes) (w : Machine) : Option Path → Nat → FileSystem → Prop where
  | nowhere : Stored content w none 0 w.files
  | complete {path : Path} {u : Machine} (looked : LookedOnce w u)
    (done : ((replaceFile path content).run u).1 = .ok ())
    (held : ¬ w.files.LeadsAway (path.temporarySibling w.processId) →
      Complete path content w ((replaceFile path content).run u).2.files) :
    Stored content w (some path) 0 ((replaceFile path content).run u).2.files
  | undone {path : Path} {u : Machine} {f : Failure} (looked : LookedOnce w u)
    (failed : ((replaceFile path content).run u).1 = .error f)
    (kept : ¬ w.files.LeadsAway (path.temporarySibling w.processId) →
      Undone path w ((replaceFile path content).calls u) f
        ((replaceFile path content).run u).2.files) :
    Stored content w (some path) 6 ((replaceFile path content).run u).2.files

/-- With exit code 0, the certificates stand where they are wanted. -/
theorem Stored.complete_of_zero {caOut : Option Path} (stored : Stored content w caOut 0 after) :
    ∀ path ∈ caOut, ¬ w.files.LeadsAway (path.temporarySibling w.processId) →
      Complete path content w after := by
  intro path wanted away
  cases stored with
  | nowhere => cases wanted
  | complete _ _ held =>
    obtain rfl := Option.some.inj wanted
    exact held away

/-- With exit code 6, they were wanted at a path that is as it was. -/
theorem Stored.kept_of_six {caOut : Option Path} (stored : Stored content w caOut 6 after) :
    ∃ path ∈ caOut, ¬ w.files.LeadsAway (path.temporarySibling w.processId) →
      Kept path w after := by
  cases stored with
  | @undone path _ _ _ _ kept => exact ⟨path, rfl, fun away => (kept away).kept⟩

/-- The certificates are stored where they are wanted, and nothing is printed meanwhile. -/
theorem stored_writeCertificates (connection : ServerConnection) (caOut : Option Path)
    (looked : LookedOnce w u) :
    Stored (Bytes.ofText connection.caCertificates) w caOut
        ((writeCertificates connection caOut).run u).1
        ((writeCertificates connection caOut).run u).2.files ∧
      ((writeCertificates connection caOut).run u).2.printed = u.printed := by
  cases caOut with
  | none =>
    refine ⟨?_, rfl⟩
    show Stored _ w none 0 u.files
    rw [looked.files]
    exact .nowhere
  | some path =>
    have printed := printed_replaceFile path (Bytes.ofText connection.caCertificates) u
    have stays (away : ¬ w.files.LeadsAway (path.temporarySibling w.processId)) :
        ¬ u.files.LeadsAway (path.temporarySibling u.processId) := by
      rw [looked.files, looked.setting.processId]
      exact away
    rw [writeCertificates, Job.run_bind]
    cases ended : ((replaceFile path (Bytes.ofText connection.caCertificates)).run u).1 with
    | ok done =>
      dsimp only
      rw [Job.run_bind, Job.run_pure]
      dsimp only
      rw [(Job.Looks.log _ _ _).run_files, printed_log]
      refine ⟨.complete looked ended fun away => ?_, printed⟩
      exact looked.complete (.of_done ended (stays away))
    | error f =>
      obtain ⟨message, rfl⟩ := output_of_failed ended
      refine ⟨.undone looked ended fun away => ?_, printed⟩
      exact looked.undone (.of_failed ended (stays away))

end Storing

structure Untouched (w after : Machine) : Prop where
  printed : after.printed = w.printed
  files : after.files = w.files

section Resolving

variable {a : ResolveArguments} {w : Machine} {metadata : Metadata} {c : ServerConnection}

/-- What cannot be read as metadata ends a resolution before anything else. -/
theorem runResolve_unread (filter : LogFilter)
    (absent : ∀ metadata, ¬ w.Provides a.metadata metadata) :
    ((runResolve a).run { w with filter := filter }).1 = 1 ∧
      Untouched w ((runResolve a).run { w with filter := filter }).2 := by
  rw [runResolve, Job.run_bind]
  rcases Metadata.load_cases a.metadata { w with filter := filter } with
    ⟨metadata, provided, -⟩ | ⟨-, reason, eq⟩
  · exact absurd provided (absent metadata)
  · rw [eq]
    exact ⟨rfl, rfl, rfl⟩

/-- What is provided is what is read. -/
theorem load_of_provides (filter : LogFilter) (provided : w.Provides a.metadata metadata) :
    (Metadata.load a.metadata).run { w with filter := filter } =
      (.ok metadata, Machine.afterCall { w with filter := filter } w.files) := by
  rcases Metadata.load_cases a.metadata { w with filter := filter } with
    ⟨other, others, eq⟩ | ⟨absent, -⟩
  · rw [eq, Machine.Provides.unique provided others]
  · exact absurd provided (absent metadata)

/-- A resolution that fails ends the run before anything is printed. -/
theorem runResolve_unresolved (filter : LogFilter) {e : LookupError}
    (provided : w.Provides a.metadata metadata)
    (failed : metadata.resolve a.entity a.selector = .error e) :
    ((runResolve a).run { w with filter := filter }).1 = 3 ∧
      Untouched w ((runResolve a).run { w with filter := filter }).2 := by
  rw [runResolve, Job.run_bind, load_of_provides filter provided]
  dsimp only
  rw [failed]
  exact ⟨rfl, rfl, rfl⟩

/-- Where nothing can be printed, nothing is written either. -/
theorem runResolve_unprinted (filter : LogFilter) (provided : w.Provides a.metadata metadata)
    (resolved : metadata.resolve a.entity a.selector = .ok c) (refuses : w.acceptsPrint = false) :
    ((runResolve a).run { w with filter := filter }).1 = aborted ∧
      Untouched w ((runResolve a).run { w with filter := filter }).2 := by
  rw [runResolve, Job.run_bind, load_of_provides filter provided]
  dsimp only
  rw [resolved]
  dsimp only
  have refusal := run_printLines_refused (Metadata.endPoints_ne_nil resolved)
    (w := Machine.afterCall { w with filter := filter } w.files) refuses
  rw [Job.run_bind, refusal]
  exact ⟨rfl, rfl, rfl⟩

/-- What is resolved is printed before the certificates are stored. -/
theorem runResolve_printed (filter : LogFilter) (provided : w.Provides a.metadata metadata)
    (resolved : metadata.resolve a.entity a.selector = .ok c) (accepts : w.acceptsPrint = true) :
    ((runResolve a).run { w with filter := filter }).2.printed =
        w.printed ++ endPointLines c.endPoints ∧
      Stored (Bytes.ofText c.caCertificates) w a.caOut
        ((runResolve a).run { w with filter := filter }).1
        ((runResolve a).run { w with filter := filter }).2.files := by
  rw [runResolve, Job.run_bind, load_of_provides filter provided]
  dsimp only
  rw [resolved]
  dsimp only
  have lines := run_printLines c.endPoints
    (w := Machine.afterCall { w with filter := filter } w.files) accepts
  rw [Job.run_bind, lines]
  dsimp only
  obtain ⟨stored, printed⟩ := stored_writeCertificates (w := w)
    (u := printedMore (Machine.afterCall { w with filter := filter } w.files)
      (endPointLines c.endPoints)) c a.caOut ⟨rfl, ⟨rfl, rfl, rfl, rfl, rfl⟩, rfl⟩
  exact ⟨printed, stored⟩

end Resolving

/-- How a resolution ends on a machine: with which exit code, and in what state it leaves the
machine. -/
structure ResolveArguments.Ends (a : ResolveArguments) (w : Machine) (code : Nat)
    (after : Machine) : Prop where
  unread : (∀ metadata, ¬ w.Provides a.metadata metadata) → code = 1 ∧ Untouched w after
  unresolved : ∀ metadata e, w.Provides a.metadata metadata →
    metadata.resolve a.entity a.selector = .error e → code = 3 ∧ Untouched w after
  unprinted : ∀ metadata c, w.Provides a.metadata metadata →
    metadata.resolve a.entity a.selector = .ok c → w.acceptsPrint = false →
      code = aborted ∧ Untouched w after
  resolved : ∀ metadata c, w.Provides a.metadata metadata →
    metadata.resolve a.entity a.selector = .ok c → w.acceptsPrint = true →
      after.printed = w.printed ++ endPointLines c.endPoints ∧
        Stored (Bytes.ofText c.caCertificates) w a.caOut code after.files
  succeeded : code = 0 → ∃ metadata c, w.Provides a.metadata metadata ∧
    metadata.resolve a.entity a.selector = .ok c ∧
    after.printed = w.printed ++ endPointLines c.endPoints ∧
    ∀ path ∈ a.caOut, ¬ w.files.LeadsAway (path.temporarySibling w.processId) →
      Complete path (Bytes.ofText c.caCertificates) w after.files
  notStored : code = 6 → ∃ metadata c, w.Provides a.metadata metadata ∧
    metadata.resolve a.entity a.selector = .ok c ∧
    after.printed = w.printed ++ endPointLines c.endPoints ∧
    ∃ path ∈ a.caOut, ¬ w.files.LeadsAway (path.temporarySibling w.processId) →
      Kept path w after.files

/-- A run that is stopped by none of three failures has printed what it resolved. -/
theorem runResolve_cases (a : ResolveArguments) (w : Machine) (filter : LogFilter) :
    ((runResolve a).run { w with filter := filter }).1 ∈ [1, 3, aborted] ∨
      ∃ metadata c, w.Provides a.metadata metadata ∧
        metadata.resolve a.entity a.selector = .ok c ∧
        ((runResolve a).run { w with filter := filter }).2.printed =
          w.printed ++ endPointLines c.endPoints ∧
        Stored (Bytes.ofText c.caCertificates) w a.caOut
          ((runResolve a).run { w with filter := filter }).1
          ((runResolve a).run { w with filter := filter }).2.files := by
  rcases Metadata.load_cases a.metadata w with ⟨metadata, provided, -⟩ | ⟨absent, -⟩
  · cases resolved : metadata.resolve a.entity a.selector with
    | error e =>
      obtain ⟨code, -⟩ := runResolve_unresolved filter provided resolved
      exact .inl (by rw [code]; decide)
    | ok c =>
      by_cases accepts : w.acceptsPrint = true
      · exact .inr ⟨metadata, c, provided, resolved,
          runResolve_printed filter provided resolved accepts⟩
      · obtain ⟨code, -⟩ :=
          runResolve_unprinted filter provided resolved (eq_false_of_ne_true accepts)
        exact .inl (by rw [code]; decide)
  · obtain ⟨code, -⟩ := runResolve_unread filter absent
    exact .inl (by rw [code]; decide)

theorem runResolve_ends (a : ResolveArguments) (w : Machine) (filter : LogFilter) :
    a.Ends w ((runResolve a).run { w with filter := filter }).1
      ((runResolve a).run { w with filter := filter }).2 where
  unread := runResolve_unread filter
  unresolved := fun _ _ => runResolve_unresolved filter
  unprinted := fun _ _ => runResolve_unprinted filter
  resolved := fun _ _ => runResolve_printed filter
  succeeded := by
    intro code
    have ended := runResolve_cases a w filter
    rw [code] at ended
    obtain ⟨metadata, c, provided, resolved, printed, stored⟩ := ended.resolve_left (by decide)
    exact ⟨metadata, c, provided, resolved, printed, stored.complete_of_zero⟩
  notStored := by
    intro code
    have ended := runResolve_cases a w filter
    rw [code] at ended
    obtain ⟨metadata, c, provided, resolved, printed, stored⟩ := ended.resolve_left (by decide)
    exact ⟨metadata, c, provided, resolved, printed, stored.kept_of_six⟩

/-- A resolution that the arguments ask for is the one that they spell: tags, taken apart at every
comma, select by tags, and otherwise the server that is named or the only one is meant. If the
metadata cannot be read or does not resolve, nothing is printed and no file is touched. Otherwise
each end point has its line before any certificate is written, and only then does it matter whether
these can be: if so, the run succeeds and their file holds them, and if not, that file is as it
was. -/
theorem resolution_has_no_partial_effects {environment : Environment} {arguments : List String}
    {verbose : Bool} {a : ResolveArguments}
    (accepted : read environment arguments = .run verbose (.resolve a)) (w : Machine) :
    (∃ front rest, arguments = front ++ "resolve" :: rest ∧
      (∀ argument ∈ front, Grammar.isOption argument = true) ∧
      (∃ words, CommandName.resolve.grammar.Spelled rest words) ∧
      ∀ words, CommandName.resolve.grammar.Spelled rest words → a.Said words) ∧
    a.Ends w ((run environment arguments).run w).1 ((run environment arguments).run w).2 := by
  refine ⟨resolution_said accepted, ?_⟩
  have asked : (run environment arguments).run w =
      (runResolve a).run { w with filter := logFilter environment verbose } := by
    rw [run, accepted]
    rfl
  rw [asked]
  exact runResolve_ends a w _

namespace Sample

def oneServer : Bytes :=
  Bytes.ofText ("\x7b\"entities\":[\x7b\"entity_id\":\"a:b\",\"issuers\":"
    ++ "[\x7b\"x509certificate\":\"C\"\x7d],\"servers\":[\x7b\"name\":\"s\","
    ++ "\"base_uri\":\"u:v\",\"tags\":[\"y\",\"x\"],"
    ++ "\"pins\":[\x7b\"name\":\"sha256\",\"value\":\"AAA=\"\x7d]\x7d]\x7d]\x7d")

/-- A machine on which everything works, with that member in a file beside a link to a directory. -/
def provided : Machine :=
  Machine.quiet
    { nodes := [(["m"], .file oneServer ⟨1, 0⟩), (["d"], .directory), (["x"], .link ⟨"d"⟩)]
      workingDirectory := [] } ⟨5, 0⟩ 1

def byTags (caOut : String) : List String :=
  ["-v", "resolve", "m", "--entity", "a:b", "--tags=X,y", "--ca-out", caOut]

def resolution (caOut : String) : ResolveArguments :=
  ⟨⟨"m"⟩, "a:b", .tags ["X", "y"], some ⟨caOut⟩⟩

def ended (caOut : String) : Nat × Machine :=
  (run (fun _ => none) (byTags caOut)).run provided

end Sample

/-- The server that has the tags gets its line, and the certificates their file. -/
theorem certificates_stored_behind_lines :
    read (fun _ => none) (Sample.byTags "c") = .run true (.resolve (Sample.resolution "c")) ∧
      (Sample.ended "c").1 = 0 ∧
      (Sample.ended "c").2.printed = Bytes.ofText "s\tu:v\tsha256//AAA=\n" ∧
      ∃ connection : ServerConnection,
        (Sample.ended "c").2.printed = endPointLines connection.endPoints ∧
          (Sample.ended "c").2.files.leadsTo? ⟨"c"⟩ =
            some (.file (Bytes.ofText connection.caCertificates) ⟨5, 0⟩) := by
  have accepted : read (fun _ => none) (Sample.byTags "c") =
      .run true (.resolve (Sample.resolution "c")) := by decide +kernel
  have code : (Sample.ended "c").1 = 0 := by decide +kernel
  have ends : (Sample.resolution "c").Ends Sample.provided (Sample.ended "c").1
      (Sample.ended "c").2 := (resolution_has_no_partial_effects accepted Sample.provided).2
  obtain ⟨metadata, connection, -, -, printed, held⟩ := ends.succeeded code
  refine ⟨accepted, code, by decide +kernel, connection, printed, ?_⟩
  exact (held ⟨"c"⟩ rfl (by decide +kernel)).leads.mpr (by decide +kernel)

/-- A run can succeed although nothing can be read where the certificates were to be stored. -/
theorem certificates_lost_behind_replaced_link :
    read (fun _ => none) (Sample.byTags "x/../x") =
        .run true (.resolve (Sample.resolution "x/../x")) ∧
      (Sample.ended "x/../x").1 = 0 ∧
      (Sample.ended "x/../x").2.files.read? ⟨"x/../x"⟩ = none := by
  decide +kernel

end CommandLine

end FederationTrust
