import FederationTrust.Failure
import FederationTrust.Job
import FederationTrust.Metadata.Basic

/-!
# Metadata files

Verified metadata is read back from the file that a fetch wrote.
-/

namespace FederationTrust

def Metadata.load (path : Path) : Job (Except Failure Metadata) := do
  match ← Job.read path with
  | .error reason => return .error (.metadataRead path.text reason)
  | .ok document =>
    match Metadata.parse? document with
    | none => return .error (.metadataRead path.text "malformed document")
    | some m => return .ok m

end FederationTrust
