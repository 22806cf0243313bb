import FederationTrust.Json.Decode
import FederationTrust.Json.Printer
import FederationTrust.Policy

/-!
# Configuration of a fetch

A configuration has the URL of the metadata, a time limit, the lifetime of cached
copies that do not state one, and the algorithms that signatures may use. It comes from
a JSON document or from the environment, and whatever is missing there has a standard
value. A variable of the environment whose value cannot be used is warned about, and one
that is no text counts as not set.
-/

namespace FederationTrust

structure FetchConfig where
  url : String
  timeoutSeconds : UInt64
  defaultCacheTtl : UInt64
  algorithms : AlgorithmPolicy
  deriving DecidableEq, Repr

abbrev Environment := String → Option Bytes

/-- A variable of the environment whose value is not used. -/
inductive ConfigWarning where
  | algorithms
  | seconds (name : String)
  deriving DecidableEq, Repr

def ConfigWarning.message : ConfigWarning → String
  | .algorithms => "ignoring FEDMETA_ALGORITHMS"
  | .seconds name => "ignoring invalid seconds value " ++ name

namespace FetchConfig

def standardUrl : String :=
  "https://fedscim-poc.skolfederation.se/md/skolfederation-fedscim-0_1.json"

/-- The seconds after which a download is given up. -/
def standardTimeout : UInt64 := 30

/-- The lifetime in seconds of a cached copy that does not state one. -/
def standardCacheTtl : UInt64 := 3600

def standard : FetchConfig :=
  ⟨standardUrl, standardTimeout, standardCacheTtl, .standard⟩

instance : Inhabited FetchConfig := ⟨standard⟩

def ofJson? (j : Json) : Option FetchConfig := do
  match ← j.fields? [["url"], ["timeout_secs"], ["default_cache_ttl_secs"], ["algorithms"]] with
  | [url, timeout, ttl, algorithms] =>
    let url ← Json.withDefault? standardUrl Json.text? url
    let timeout ← Json.withDefault? standardTimeout Json.word? timeout
    let ttl ← Json.withDefault? standardCacheTtl Json.word? ttl
    let algorithms ← Json.withDefault? .standard AlgorithmPolicy.ofJson? algorithms
    some ⟨url, timeout, ttl, algorithms⟩
  | _ => none

def toJson (c : FetchConfig) : Json :=
  .record [("url", .text c.url), ("timeout_secs", .ofWord c.timeoutSeconds),
    ("default_cache_ttl_secs", .ofWord c.defaultCacheTtl), ("algorithms", c.algorithms.toJson)]

def parse? (document : Bytes) : Option FetchConfig :=
  (Json.parse? document).bind ofJson?

def urlVariable : String := "FEDMETA_URL"

def timeoutVariable : String := "FEDMETA_TIMEOUT"

def cacheTtlVariable : String := "FEDMETA_DEFAULT_CACHE_TTL"

def algorithmsVariable : String := "FEDMETA_ALGORITHMS"

def variableNames : List String :=
  [urlVariable, timeoutVariable, cacheTtlVariable, algorithmsVariable]

def valueOf? (env : Environment) (name : String) : Option String :=
  (env name).bind Bytes.text?

def environmentAlgorithms (env : Environment) : AlgorithmPolicy × List ConfigWarning :=
  match valueOf? env algorithmsVariable with
  | none => (.standard, [])
  | some s =>
    match AlgorithmPolicy.parse s with
    | .ok p => (p, [])
    | .error _ => (.standard, [.algorithms])

def environmentSeconds (env : Environment) (name : String) (standard : UInt64) :
    UInt64 × List ConfigWarning :=
  match valueOf? env name with
  | none => (standard, [])
  | some s =>
    match Text.word? (Text.trim s.toList) with
    | some n => (n, [])
    | none => (standard, [.seconds name])

/-- The configuration of the environment, and the warnings about it. -/
def ofEnvironment (env : Environment) : FetchConfig × List ConfigWarning :=
  let (algorithms, warnings) := environmentAlgorithms env
  let url := (valueOf? env urlVariable).getD standardUrl
  let (timeout, timeoutWarnings) := environmentSeconds env timeoutVariable standardTimeout
  let (ttl, ttlWarnings) := environmentSeconds env cacheTtlVariable standardCacheTtl
  (⟨url, timeout, ttl, algorithms⟩, warnings ++ timeoutWarnings ++ ttlWarnings)

end FetchConfig

end FederationTrust
