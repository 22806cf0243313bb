import FederationTrust.Cache
import FederationTrust.Config
import FederationTrust.KeyFile.File
import FederationTrust.Url.Basic
import FederationTrust.Verification

/-!
# Fetching verified metadata

A run ends with verified metadata at the output or changes nothing. A fresh cached copy is
put there and ends the run. Otherwise the trusted keys are read, a client is made, the
envelope is downloaded and verified, and its payload is written to the output and then to
the cache, where a failure is only warned about. Nothing is written before a signature is verified.
-/

namespace FederationTrust

structure FetchRequest where
  keys : Path
  output : Path
  cached : Option Path
  deriving DecidableEq, Repr

inductive FetchOutcome where
  | fromCache (digest : String)
  | verified (digest : String) (entryIndex : Nat) (kid : Option String)
  deriving DecidableEq, Repr

/-- The digest of the metadata at the output. -/
def FetchOutcome.digest : FetchOutcome → String
  | .fromCache digest => digest
  | .verified digest _ _ => digest

namespace Fetch

def runSource : String := "fedmeta_core::pipeline"

def downloadSource : String := "fedmeta_core::client"

def verifySource : String := "fedmeta_core::verify"

def connectionSource : String := "http"

def userAgent : String := "fedmeta/0.3.0"

def accept : String := "application/jose+json, application/json"

def client (config : FetchConfig) : HttpClient :=
  ⟨userAgent, accept, config.timeoutSeconds⟩

def makeClient (config : FetchConfig) : Job (Except Failure Unit) := do
  match ← Job.ask (.makeClient (client config)) with
  | .error reason => return .error (.config ("failed to create HTTP client: " ++ reason))
  | .ok () => return .ok ()

def isFetchable (url : String) : Bool :=
  match Url.parse url.toList with
  | .ok u => u.scheme = "http".toList || u.scheme = "https".toList
  | .error _ => false

def download (config : FetchConfig) : Job (Except Failure Bytes) := do
  let failed (message : String) : Except Failure Bytes := .error (.network config.url message)
  Job.log .debug downloadSource "fetching signed metadata"
  if !isFetchable config.url then return failed "not a URL of a document"
  Job.log .trace connectionSource "waiting for a connection"
  Job.log .debug connectionSource "starting new connection"
  match ← Job.ask (.download ⟨config.url, client config⟩) with
  | .error fault => return failed fault.text
  | .ok response =>
    if response.isSuccess then
      match response.body with
      | .error fault => return failed fault.text
      | .ok body =>
        Job.log .debug downloadSource "downloaded signed metadata"
        return .ok body
    else return failed ("HTTP " ++ statusText response.status)

def logOutcome : EntryOutcome → Job Unit
  | .verified _ _ _ => Job.log .debug verifySource "signature verified"
  | .expired _ => Job.log .info verifySource "signature expired"
  | .rejected _ => Job.log .debug verifySource "signature rejected"

def logOutcomes : List EntryOutcome → Job Unit
  | [] => return ()
  | outcome :: rest => do
    logOutcome outcome
    logOutcomes rest

def verify (document : Bytes) (keys : KeySet) (policy : AlgorithmPolicy) :
    Job (Except Failure VerifiedPayload) := do
  let now ← Job.ask .now
  logOutcomes (entryOutcomesAt document keys policy now)
  return (verifyEnvelopeAt document keys policy now).mapError VerificationError.failure

/-- Puts verified metadata into the cache as well, if that is another path than the output. -/
def refreshCache (cached output : Path) (payload : Bytes) : Job Unit := do
  if cached.same output then return ()
  match ← replaceFile cached payload with
  | .ok () => Job.log .debug runSource "refreshed cached metadata"
  | .error _ => Job.log .warn runSource "failed to refresh cached metadata"

def reuse (cached output : Path) : Job (Except Failure FetchOutcome) := do
  match ← copyCached cached output with
  | .error f => return .error f
  | .ok content =>
    Job.log .info runSource "using cached metadata"
    return .ok (.fromCache (payloadDigest content))

/-- Writes a verified payload to the output and to the cache. -/
def store (request : FetchRequest) (v : VerifiedPayload) : Job (Except Failure FetchOutcome) := do
  match ← replaceFile request.output v.payload with
  | .error f => return .error f
  | .ok () =>
    match request.cached with
    | none => pure ()
    | some cached => refreshCache cached request.output v.payload
    Job.log .info runSource "verified metadata written"
    return .ok (.verified v.digest v.entryIndex v.kid)

def renew (config : FetchConfig) (request : FetchRequest) : Job (Except Failure FetchOutcome) := do
  match ← KeySet.load request.keys with
  | .error f => return .error f
  | .ok keys =>
    match ← makeClient config with
    | .error f => return .error f
    | .ok () =>
      match ← download config with
      | .error f => return .error f
      | .ok document =>
        match ← verify document keys config.algorithms with
        | .error f => return .error f
        | .ok v => store request v

end Fetch

/-- Puts verified metadata at the output. -/
def fetchMetadata (config : FetchConfig) (request : FetchRequest) :
    Job (Except Failure FetchOutcome) := do
  match request.cached with
  | none => Fetch.renew config request
  | some cached =>
    if ← isCacheValid cached config.defaultCacheTtl then
      Fetch.reuse cached request.output
    else
      Job.log .debug Fetch.runSource "cached metadata not usable, fetching"
      Fetch.renew config request

end FederationTrust
