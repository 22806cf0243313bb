import FederationTrust.Failure
import FederationTrust.Job
import FederationTrust.KeyFile.KeySet

/-!
# Key files

The trusted keys are read from a local file, which has to hold at least one usable key.
-/

namespace FederationTrust

namespace KeySet

def source : String := "fedmeta_core::keys"

def warnSkipped : Nat → Job Unit
  | 0 => return ()
  | n + 1 => do
    Job.log .warn source "skipping unusable key"
    warnSkipped n

def load (path : Path) : Job (Except Failure KeySet) := do
  match ← Job.read path with
  | .error reason => return .error (.keyRead path.text reason)
  | .ok file =>
    match parse file with
    | .error e => return .error (.keyRead path.text e.message)
    | .ok keys =>
      warnSkipped keys.skipped
      if keys.keys = [] then return .error (.keyRead path.text "no usable keys")
      Job.log .debug source "loaded key set"
      return .ok keys

end KeySet

end FederationTrust
