import FederationTrust.Proofs.FetchRuns

/-!
# Failed runs

A run that fails at any stage leaves every file as it was, with its content and its time. Of
its temporary sibling nothing remains, though a file that stood there before the run may be
gone as well. What could go wrong after the output was replaced is no failure of the run.
-/

namespace FederationTrust

/-- A replacement that a run came to and that failed leaves the files as the run found them. -/
theorem Fetch.Reached.failed_nodes {path : Path} {content : Bytes} {w u : Machine}
    {calls : List (SystemCall × Machine)} {f : Failure}
    (reached : Fetch.Reached w calls (replaceFile path content) u)
    (failed : ((replaceFile path content).run u).1 = .error f)
    (stays : ¬ w.files.LeadsAway (path.temporarySibling w.processId)) (place : Place) :
    ((replaceFile path content).run u).2.files.node? place = w.files.node? place ∨
      w.files.entry? (path.temporarySibling w.processId) = some place ∧
        ((replaceFile path content).run u).2.files.node? place = none := by
  have processId := reached.setting.processId
  rw [← reached.files, ← processId] at stays ⊢
  exact Replacement.failed_replaceFile_nodes failed stays place

/-- Whatever makes a run fail, no file but its temporary sibling is touched, and that one is
as before or gone. No link may lead from the temporary sibling to a file. -/
theorem failed_fetchMetadata_changes_nothing (config : FetchConfig) (request : FetchRequest)
    (w : Machine) (f : Failure) (failed : ((fetchMetadata config request).run w).1 = .error f)
    (stays : ¬ w.files.LeadsAway (request.output.temporarySibling w.processId)) (place : Place) :
    ((fetchMetadata config request).run w).2.files.node? place = w.files.node? place ∨
      w.files.entry? (request.output.temporarySibling w.processId) = some place ∧
        ((fetchMetadata config request).run w).2.files.node? place = none := by
  have ended := fetchMetadata_ended config request w
  generalize ((fetchMetadata config request).run w).1 = result at ended failed
  generalize ((fetchMetadata config request).run w).2.files = after at ended ⊢
  cases ended with
  | stopped e => exact Or.inl rfl
  | reused asked copied =>
    cases copied with
    | unread e => exact Or.inl rfl
    | same read one => cases failed
    | failed read reached stopped => exact reached.failed_nodes stopped stays place
    | done read reached done => cases failed
  | notStored verifies reached stopped => exact reached.failed_nodes stopped stays place
  | stored verifies alone reached done => cases failed
  | refreshed verifies asked reached done next => cases failed

namespace Sample

def freshCopy : FileSystem where
  nodes :=
    [(["c"], .file (Bytes.ofText "\x7b\x7d") ⟨5, 0⟩),
      (["o"], .file (Bytes.ofText "old") ⟨1, 0⟩)]
  workingDirectory := []

/-- A machine whose disk is full after one octet of the temporary sibling. -/
def fullDisk : Machine :=
  { Machine.quiet freshCopy ⟨6, 0⟩ 1 with faults := fun n => if n = 5 then .short 1 else .none }

/-- A machine that makes no client, beside a key file. -/
def clientless : Machine :=
  let keys := Bytes.ofText "\x7b\"kty\":\"oct\",\"k\":\"aw\"\x7d"
  { Machine.quiet ⟨[(["k"], .file keys ⟨1, 0⟩)], []⟩ ⟨6, 0⟩ 1 with
    clients := fun _ => .error "no trusted certificates" }

def config : FetchConfig := ⟨"https://f.example/", 30, 3600, .any⟩

def request : FetchRequest := ⟨⟨"k"⟩, ⟨"o"⟩, some ⟨"c"⟩⟩

end Sample

-- Without a client nothing is asked of the network.
example :
    let ended := (fetchMetadata Sample.config Sample.request).run Sample.clientless
    ended.1 = .error (.config "failed to create HTTP client: no trusted certificates") ∧
      ended.2.requests = [] ∧ ended.2.files = Sample.clientless.files := by
  decide +kernel

set_option maxRecDepth 20000 in
/-- On a full disk the cached copy does not come to the output, which stays as it was. -/
theorem old_output_survives_full_disk :
    ((fetchMetadata Sample.config Sample.request).run Sample.fullDisk).1 =
        .error (.cacheCopy "c" "failed to write o: failed to write temp file: no space left") ∧
      ¬ Sample.fullDisk.files.LeadsAway
        (Sample.request.output.temporarySibling Sample.fullDisk.processId) ∧
      let after := ((fetchMetadata Sample.config Sample.request).run Sample.fullDisk).2.files
      (after.node? ["o"] = Sample.fullDisk.files.node? ["o"] ∨
        Sample.fullDisk.files.entry?
            (Sample.request.output.temporarySibling Sample.fullDisk.processId) = some ["o"] ∧
          after.node? ["o"] = none) :=
  ⟨rfl, by decide, failed_fetchMetadata_changes_nothing Sample.config Sample.request
    Sample.fullDisk _ rfl (by decide) ["o"]⟩

end FederationTrust
