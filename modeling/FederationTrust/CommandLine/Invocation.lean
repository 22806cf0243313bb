import FederationTrust.CommandLine.Grammar
import FederationTrust.Config
import FederationTrust.Fetch
import FederationTrust.Listing
import FederationTrust.Resolution

/-!
# Invocations

What the program is asked to do by its arguments and its environment: fetch metadata, list
it, or resolve servers; or to show help or its version. Options of a fetch that are not
given are taken from the environment, whose values have to be valid then.
-/

namespace FederationTrust

namespace CommandLine

structure FetchArguments where
  url : Option String
  keys : Path
  output : Path
  cached : Option Path
  timeout : Option UInt64
  defaultCacheTtl : Option UInt64
  algorithms : Option AlgorithmPolicy
  anyAlgorithm : Bool
  deriving DecidableEq, Repr

structure ListArguments where
  metadata : Path
  options : ListOptions
  deriving DecidableEq, Repr

structure ResolveArguments where
  metadata : Path
  entity : String
  selector : ServerSelector
  caOut : Option Path
  deriving DecidableEq, Repr

inductive Command where
  | fetch (arguments : FetchArguments)
  | list (arguments : ListArguments)
  | resolve (arguments : ResolveArguments)
  deriving DecidableEq, Repr

inductive CommandName where
  | fetch
  | list
  | resolve
  deriving DecidableEq, Repr

inductive Invocation where
  | run (verbose : Bool) (command : Command)
  | help (topic : Option CommandName)
  | version
  | nothing
  | wrong (message : String)
  deriving DecidableEq, Repr

def CommandName.text : CommandName → String
  | .fetch => "fetch"
  | .list => "list"
  | .resolve => "resolve"

def CommandName.ofText? (s : String) : Option CommandName :=
  [.fetch, .list, .resolve].find? fun c => c.text == s

def flag (name : String) (letter : Option Char) : OptionSpec :=
  ⟨name, letter, .flag, false, none⟩

def optional (name : String) (kind : OptionKind) (environment : Option String) : OptionSpec :=
  ⟨name, none, kind, false, environment⟩

def required (name : String) (letter : Option Char) (kind : OptionKind) : OptionSpec :=
  ⟨name, letter, kind, true, none⟩

/-- The flag for a detailed log, which all commands have. -/
def verboseFlag : OptionSpec := flag "verbose" (some 'v')

/-- What may stand before the name of a command. -/
def topGrammar : Grammar := ⟨[verboseFlag], [], true⟩

def CommandName.grammar : CommandName → Grammar
  | .fetch =>
    ⟨[optional "url" .text (some FetchConfig.urlVariable), required "keys" none .path,
      required "output" (some 'o') .path, optional "cached" .path none,
      optional "timeout" .word (some FetchConfig.timeoutVariable),
      optional "default-cache-ttl" .word (some FetchConfig.cacheTtlVariable),
      optional "algorithms" .policy (some FetchConfig.algorithmsVariable),
      flag "any-algorithm" none, verboseFlag], [], false⟩
  | .list =>
    ⟨[optional "entity" .text none, flag "normalize-urls" none, flag "servers" none,
      flag "base-uris" none, flag "clients" none, flag "server-tags" none, verboseFlag],
      ["<METADATA>"], false⟩
  | .resolve =>
    ⟨[required "entity" none .text, optional "server" .text none, optional "tags" .texts none,
      optional "ca-out" .path none, verboseFlag], ["<METADATA>"], false⟩

def FetchArguments.of? (g : Given) : Option FetchArguments := do
  let keys ← g.path? "keys"
  let output ← g.path? "output"
  some ⟨g.text? "url", keys, output, g.path? "cached", g.word? "timeout",
    g.word? "default-cache-ttl", g.policy? "algorithms", g.has "any-algorithm"⟩

def ListArguments.of? (g : Given) : Option ListArguments := do
  let metadata ← g.operands.head?
  some ⟨metadata, g.text? "entity", if g.has "normalize-urls" then .normalizedUrl else .exactly,
    g.has "servers", g.has "base-uris", g.has "clients", g.has "server-tags"⟩

/-- The arguments of a resolution from what is given; a name and tags together are an error. -/
def ResolveArguments.of? (g : Given) : Option ResolveArguments := do
  let metadata ← g.operands.head?
  let entity ← g.text? "entity"
  if g.has "server" ∧ g.has "tags" then none
  else
    let selector :=
      if g.has "tags" then ServerSelector.tags (g.texts "tags") else .name (g.text? "server")
    some ⟨metadata, entity, selector, g.path? "ca-out"⟩

def CommandName.command? (name : CommandName) (g : Given) : Option Command :=
  match name with
  | .fetch => (FetchArguments.of? g).map .fetch
  | .list => (ListArguments.of? g).map .list
  | .resolve => (ResolveArguments.of? g).map .resolve

/-- The configuration of a fetch: standard values, and what is given instead. -/
def FetchArguments.config (a : FetchArguments) : FetchConfig where
  url := a.url.getD FetchConfig.standardUrl
  timeoutSeconds := a.timeout.getD FetchConfig.standardTimeout
  defaultCacheTtl := a.defaultCacheTtl.getD FetchConfig.standardCacheTtl
  algorithms := if a.anyAlgorithm then .any else a.algorithms.getD .standard

def FetchArguments.request (a : FetchArguments) : FetchRequest :=
  ⟨a.keys, a.output, a.cached⟩

def Interruption.invocation (topic : Option CommandName) : Interruption → Invocation
  | .help => .help topic
  | .version => .version
  | .usage message => .wrong message

/-- What the arguments after the name of a command ask for. -/
def readCommand (environment : Environment) (verbose : Bool) (name : CommandName)
    (arguments : List String) : Invocation :=
  match name.grammar.given environment arguments with
  | .error e => e.invocation (some name)
  | .ok g =>
    match name.command? g with
    | none => .wrong "the argument '--server' cannot be used with '--tags'"
    | some command => .run (verbose || g.has "verbose") command

def readHelp (topic : Option CommandName) : List String → Invocation
  | [] => .help topic
  | argument :: rest =>
    if argument = "help" ∧ topic = none then readHelp none rest
    else
      match topic, CommandName.ofText? argument with
      | none, some name => readHelp (some name) rest
      | _, _ => .wrong ("unrecognized subcommand '" ++ argument ++ "'")

/-- What arguments ask for, after those that are read already. -/
def readTop (environment : Environment) (g : Given) : List String → Invocation
  | [] => if g.has "verbose" then .wrong "a subcommand is required" else .nothing
  | argument :: rest =>
    if argument = "--" ∧ rest = [] then readTop environment g rest
    else if Grammar.isOption argument then
      match topGrammar.readOption g argument with
      | .error e => e.invocation none
      | .ok (_, g) => readTop environment g rest
    else if argument = "help" then readHelp none rest
    else
      match CommandName.ofText? argument with
      | none => .wrong ("unrecognized subcommand '" ++ argument ++ "'")
      | some name => readCommand environment (g.has "verbose") name rest

def read (environment : Environment) (arguments : List String) : Invocation :=
  readTop environment default arguments

end CommandLine

end FederationTrust
