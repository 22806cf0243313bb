import FederationTrust.CommandLine.Invocation
import FederationTrust.Metadata.File

/-!
# The program

Each invocation is a job that ends with an exit code. Results are printed, log lines and
errors go elsewhere; an error is told in one line that begins with the word `error`. The
environment says which log lines are shown, and a flag shows all up to details.
-/

namespace FederationTrust

namespace CommandLine

def success : Nat := 0

def generalFailure : Nat := 1

def wrongUsage : Nat := 2

/-- What a shell reports of a run that was cut off by the abort signal, the sixth: such a run has
no exit code of its own. -/
def aborted : Nat := 128 + 6

def versionText : String := "fedmeta 0.3.0\n"

def optionText (o : OptionSpec) : String :=
  "  " ++ (match o.letter with
    | some c => "-" ++ String.singleton c ++ ", "
    | none => "    ") ++ "--" ++ o.name ++ (if o.kind = .flag then "" else " <VALUE>") ++ "\n"

def helpText : Option CommandName → String
  | none =>
    "Fetch, verify and inspect signed federation metadata\n\n"
      ++ "Usage: fedmeta [OPTIONS] <COMMAND>\n\nCommands:\n"
      ++ "  fetch    Download and verify metadata, reusing a fresh cached copy\n"
      ++ "  list     Print entities of verified metadata\n"
      ++ "  resolve  Print connection details for an entity's servers\n"
      ++ "  help     Print this message or the help of the given subcommand(s)\n\nOptions:\n"
      ++ String.join (topGrammar.options.map optionText)
      ++ "  -h, --help\n  -V, --version\n"
  | some name =>
    "Usage: fedmeta " ++ name.text ++ " [OPTIONS] " ++ " ".intercalate name.grammar.operands
      ++ "\n\nOptions:\n" ++ String.join (name.grammar.options.map optionText) ++ "  -h, --help\n"

def logVariable : String := "RUST_LOG"

def logFilter (environment : Environment) (verbose : Bool) : LogFilter :=
  if verbose then .upTo .debug
  else
    (((environment logVariable).bind Bytes.text?).bind LogFilter.parse?).getD (.upTo .info)

/-- Tells an error and ends with its exit code. -/
def fail (message : String) (exitCode : Nat) : Job Nat := do
  Job.ask (.complain ("error: " ++ message ++ "\n"))
  return exitCode

def failWith (f : Failure) : Job Nat :=
  fail f.message f.exitCode

/-- Prints a line, or stops everything after it. -/
def emit (line : String) : ExceptT String Job Unit :=
  ExceptT.mk (Job.ask (.print line))

def fetchSource : String := "fedmeta::cli::commands::fetch"

def runFetch (a : FetchArguments) : Job Nat := do
  Job.log .info fetchSource "fetching metadata"
  match ← fetchMetadata a.config a.request with
  | .error f => failWith f
  | .ok outcome =>
    match outcome with
    | .fromCache _ => Job.log .info fetchSource "metadata up to date (cached)"
    | .verified _ _ _ => Job.log .info fetchSource "metadata verified"
    return success

def runList (a : ListArguments) : Job Nat := do
  match ← Metadata.load a.metadata with
  | .error f => failWith f
  | .ok metadata =>
    match ← (a.options.write emit metadata).run with
    | .error reason => fail ("failed to write listing: " ++ reason) generalFailure
    | .ok _ =>
      Job.log .debug "fedmeta::cli::commands::list" "listed metadata"
      return success

def endPointLine (e : EndPoint) : String :=
  e.name ++ "\t" ++ e.url ++ "\t" ++ e.pinnedPublicKeys ++ "\n"

def writeCertificates (connection : ServerConnection) : Option Path → Job Nat
  | none => return success
  | some path => do
    match ← replaceFile path (Bytes.ofText connection.caCertificates) with
    | .error f => failWith f
    | .ok () =>
      Job.log .info "fedmeta::cli::commands::resolve" "wrote CA certificates"
      return success

/-- Resolves servers; what cannot be printed cuts the run off. -/
def runResolve (a : ResolveArguments) : Job Nat := do
  match ← Metadata.load a.metadata with
  | .error f => failWith f
  | .ok metadata =>
    match metadata.resolve a.entity a.selector with
    | .error e => failWith e.failure
    | .ok connection =>
      match ← (connection.endPoints.forM fun e => emit (endPointLine e)).run with
      | .error reason =>
        Job.ask (.complain ("failed to print: " ++ reason ++ "\n"))
        return aborted
      | .ok () => writeCertificates connection a.caOut

def runCommand : Command → Job Nat
  | .fetch a => runFetch a
  | .list a => runList a
  | .resolve a => runResolve a

/-- Prints a text, whether or not that succeeds. -/
def display (text : String) : Job Nat := do
  let _ ← Job.ask (.print text)
  return success

def perform (environment : Environment) : Invocation → Job Nat
  | .help topic => display (helpText topic)
  | .version => display versionText
  | .nothing => do
    Job.ask (.complain (helpText none))
    return wrongUsage
  | .wrong message => fail message wrongUsage
  | .run verbose command => do
    Job.ask (.showOnly (logFilter environment verbose))
    runCommand command

def run (environment : Environment) (arguments : List String) : Job Nat :=
  perform environment (read environment arguments)

end CommandLine

end FederationTrust
