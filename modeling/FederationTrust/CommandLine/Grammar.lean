import FederationTrust.FileSystem.Path
import FederationTrust.Policy

/-!
# Grammar of command lines

A command has options and operands. An option is a flag, or takes a value of some kind,
in the next argument or behind an equals sign, or takes values with commas between them and
may then be repeated. Every other option may be given once. Two dashes alone end the options.
Arguments are read from left to right, and the first one that asks for help or is wrong
decides.
-/

namespace FederationTrust

namespace CommandLine

inductive OptionValue where
  | flag
  | text (s : String)
  | path (p : Path)
  | word (n : UInt64)
  | policy (p : AlgorithmPolicy)
  deriving DecidableEq, Repr

inductive OptionKind where
  | flag
  | text
  | path
  | word
  | policy
  | texts
  deriving DecidableEq, Repr

/-- The values that a text gives for an option, if it is one that the option takes. -/
def OptionKind.read? (kind : OptionKind) (s : String) : Option (List OptionValue) :=
  match kind with
  | .flag => none
  | .text => some [.text s]
  | .path => if s.isEmpty then none else some [.path ⟨s⟩]
  | .word => (Text.word? s.toList).map fun n => [.word n]
  | .policy =>
    match AlgorithmPolicy.parse s with
    | .ok p => some [.policy p]
    | .error _ => none
  | .texts => some ((Text.splitAt ',' s.toList).map fun piece => .text (String.ofList piece))

structure OptionSpec where
  name : String
  letter : Option Char
  kind : OptionKind
  required : Bool
  environment : Option String
  deriving DecidableEq, Repr

structure Grammar where
  options : List OptionSpec
  operands : List String
  hasVersion : Bool
  deriving Repr

/-- Why arguments are not read to their end. -/
inductive Interruption where
  | help
  | version
  | usage (message : String)
  deriving DecidableEq, Repr

structure Given where
  options : List (String × OptionValue)
  operands : List Path
  deriving DecidableEq, Repr, Inhabited

namespace Given

def has (g : Given) (name : String) : Bool :=
  g.options.any (·.1 == name)

def values (g : Given) (name : String) : List OptionValue :=
  (g.options.filter (·.1 == name)).map (·.2)

def text? (g : Given) (name : String) : Option String :=
  match g.values name with
  | .text s :: _ => some s
  | _ => none

def path? (g : Given) (name : String) : Option Path :=
  match g.values name with
  | .path p :: _ => some p
  | _ => none

def word? (g : Given) (name : String) : Option UInt64 :=
  match g.values name with
  | .word n :: _ => some n
  | _ => none

def policy? (g : Given) (name : String) : Option AlgorithmPolicy :=
  match g.values name with
  | .policy p :: _ => some p
  | _ => none

def texts (g : Given) (name : String) : List String :=
  (g.values name).filterMap fun
    | .text s => some s
    | _ => none

/-- Adds values of an option; only an option with several values may be given before. -/
def add (g : Given) (o : OptionSpec) (values : List OptionValue) : Except Interruption Given :=
  if g.has o.name ∧ o.kind ≠ .texts then
    .error (.usage ("the argument '--" ++ o.name ++ "' cannot be used multiple times"))
  else .ok { g with options := g.options ++ values.map fun v => (o.name, v) }

def addText (g : Given) (o : OptionSpec) (s : String) : Except Interruption Given :=
  match o.kind.read? s with
  | none => .error (.usage ("invalid value '" ++ s ++ "' for '--" ++ o.name ++ "'"))
  | some values => g.add o values

/-- Adds an operand, if the command takes one more. -/
def addOperand (g : Given) (grammar : Grammar) (s : String) : Except Interruption Given :=
  if g.operands.length < grammar.operands.length then
    if s.isEmpty then .error (.usage "a value is required for an operand but none was supplied")
    else .ok { g with operands := g.operands ++ [⟨s⟩] }
  else .error (.usage ("unexpected argument '" ++ s ++ "' found"))

end Given

namespace Grammar

def unexpected {α : Type} (argument : String) : Except Interruption α :=
  .error (.usage ("unexpected argument '" ++ argument ++ "' found"))

/-- Reads an argument that begins with two dashes; an option may go on to wait for its value. -/
def readLong (grammar : Grammar) (g : Given) (argument : List Char) :
    Except Interruption (Option OptionSpec × Given) :=
  let name := String.ofList (argument.takeWhile (· ≠ '='))
  let value? := match argument.dropWhile (· ≠ '=') with
    | [] => none
    | _ :: value => some (String.ofList value)
  let whole := "--" ++ String.ofList argument
  match grammar.options.find? (·.name == name), value? with
  | some o, none =>
    if o.kind = .flag then (g.add o [.flag]).map fun g => (none, g) else .ok (some o, g)
  | some o, some value => (g.addText o value).map fun g => (none, g)
  | none, none =>
    if name = "help" then .error .help
    else if name = "version" ∧ grammar.hasVersion then .error .version
    else unexpected whole
  | none, some _ => unexpected whole

/-- Reads letters behind one dash; gives the option that waits for its value, if any. -/
def readLetters (grammar : Grammar) (g : Given) :
    List Char → Except Interruption (Option OptionSpec × Given)
  | [] => .ok (none, g)
  | c :: rest =>
    match grammar.options.find? (·.letter == some c) with
    | some o =>
      if o.kind = .flag then do grammar.readLetters (← g.add o [.flag]) rest
      else
        match rest with
        | [] => .ok (some o, g)
        | '=' :: value => (g.addText o (String.ofList value)).map fun g => (none, g)
        | value => (g.addText o (String.ofList value)).map fun g => (none, g)
    | none =>
      if c = 'h' then .error .help
      else if c = 'V' ∧ grammar.hasVersion then .error .version
      else unexpected ("-" ++ String.singleton c)

/-- Whether an argument is an option or ends the options, so that it is no value. -/
def isOption (argument : String) : Bool :=
  match argument.toList with
  | '-' :: _ :: _ => true
  | _ => false

def readOption (grammar : Grammar) (g : Given) (argument : String) :
    Except Interruption (Option OptionSpec × Given) :=
  match argument.toList with
  | '-' :: '-' :: rest => grammar.readLong g rest
  | _ :: rest => grammar.readLetters g rest
  | [] => unexpected argument

/-- Reads arguments that are all operands. -/
def readOperands (grammar : Grammar) (g : Given) : List String → Except Interruption Given
  | [] => .ok g
  | argument :: rest => do grammar.readOperands (← g.addOperand grammar argument) rest

/-- Reads arguments; an option may wait for its value. -/
def read (grammar : Grammar) (waiting : Option OptionSpec) (g : Given) :
    List String → Except Interruption Given
  | [] =>
    match waiting with
    | none => .ok g
    | some o =>
      .error (.usage ("a value is required for '--" ++ o.name ++ "' but none was supplied"))
  | argument :: rest =>
    match waiting with
    | some o =>
      if isOption argument then
        .error (.usage ("a value is required for '--" ++ o.name ++ "' but none was supplied"))
      else do grammar.read none (← g.addText o argument) rest
    | none =>
      if argument = "--" then grammar.readOperands g rest
      else if isOption argument then do
        let (waiting, g) ← grammar.readOption g argument
        grammar.read waiting g rest
      else do grammar.read none (← g.addOperand grammar argument) rest

/-- Adds the values that the environment has for options that are not given. -/
def addEnvironment (environment : String → Option Bytes) (g : Given) :
    List OptionSpec → Except Interruption Given
  | [] => .ok g
  | o :: rest =>
    match o.environment.bind environment with
    | none => addEnvironment environment g rest
    | some value =>
      if g.has o.name then addEnvironment environment g rest
      else
        match Bytes.text? value with
        | none =>
          .error (.usage ("invalid UTF-8 was detected in the value for '--" ++ o.name ++ "'"))
        | some s => do addEnvironment environment (← g.addText o s) rest

def missing (grammar : Grammar) (g : Given) : List String :=
  ((grammar.options.filter fun o => o.required && !g.has o.name).map fun o => "--" ++ o.name)
    ++ grammar.operands.drop g.operands.length

/-- Everything that is given to a command by its arguments and by the environment. -/
def given (grammar : Grammar) (environment : String → Option Bytes) (arguments : List String) :
    Except Interruption Given := do
  let g ← grammar.read none default arguments
  let g ← addEnvironment environment g grammar.options
  match grammar.missing g with
  | [] => return g
  | names =>
    let list := ", ".intercalate names
    throw (.usage ("the following required arguments were not provided: " ++ list))

end Grammar

end CommandLine

end FederationTrust
