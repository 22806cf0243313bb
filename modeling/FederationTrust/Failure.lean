/-!
# Failures

What can go wrong in fetching, verifying and inspecting metadata, the text that
tells it, and the exit code that a script sees.
-/

namespace FederationTrust

inductive Failure where
  | network (url message : String)
  | keyRead (path message : String)
  | verification (reason : String)
  | cacheCopy (path message : String)
  | metadataRead (path message : String)
  | output (path message : String)
  | lookup (message : String)
  | config (message : String)
  deriving DecidableEq, Repr, Inhabited

namespace Failure

def message : Failure → String
  | .network url m => "failed to download metadata from " ++ url ++ ": " ++ m
  | .keyRead path m => "failed to read key set from " ++ path ++ ": " ++ m
  | .verification reason => "signature verification failed: " ++ reason
  | .cacheCopy path m => "failed to use cached metadata " ++ path ++ ": " ++ m
  | .metadataRead path m => "failed to read metadata from " ++ path ++ ": " ++ m
  | .output path m => "failed to write " ++ path ++ ": " ++ m
  | .lookup m => "lookup failed: " ++ m
  | .config m => "configuration error: " ++ m

/-- The exit code: input and configuration, trust anchor, lookup, security, network, local files. -/
def exitCode : Failure → Nat
  | .config _ => 1
  | .metadataRead _ _ => 1
  | .keyRead _ _ => 2
  | .lookup _ => 3
  | .verification _ => 4
  | .network _ _ => 5
  | .cacheCopy _ _ => 6
  | .output _ _ => 6

end Failure

end FederationTrust
