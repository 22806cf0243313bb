import FederationTrust.Text.Blank

/-!
# Log lines and filters

A log line has a level and names the part of the program that it comes from. A filter is a
list of directives: each sets the most detailed level that is shown, for all lines or for
those of parts whose names begin in a certain way. Of the directives for a line the one
with the longest name decides, and of two for one name the later one.

The text of a filter has commas between directives. A directive is a level, a name, or a
name with an equals sign and a level; a name alone shows everything. Directives for spans,
written in brackets, are read and never show a line.
-/

namespace FederationTrust

inductive LogLevel where
  | error
  | warn
  | info
  | debug
  | trace
  deriving DecidableEq, Repr, Inhabited

namespace LogLevel

def name : LogLevel → String
  | .error => "ERROR"
  | .warn => "WARN"
  | .info => "INFO"
  | .debug => "DEBUG"
  | .trace => "TRACE"

def rank : LogLevel → Nat
  | .error => 1
  | .warn => 2
  | .info => 3
  | .debug => 4
  | .trace => 5

end LogLevel

structure LogLine where
  level : LogLevel
  source : String
  message : String
  deriving DecidableEq, Repr

def LogLine.text (l : LogLine) : String :=
  l.level.name ++ " " ++ l.message

/-- The highest rank that is shown of lines whose source begins with a name. -/
structure LogDirective where
  source : List Char
  rank : Nat
  deriving DecidableEq, Repr

structure LogFilter where
  directives : List LogDirective
  deriving DecidableEq, Repr, Inhabited

namespace LogFilter

/-- The filter that shows lines of any source up to a level. -/
def upTo (level : LogLevel) : LogFilter :=
  ⟨[⟨[], level.rank⟩]⟩

/-- The filter that shows all lines of sources whose names begin in a certain way. -/
def only (source : String) : LogFilter :=
  ⟨[⟨source.toList, LogLevel.trace.rank⟩]⟩

/-- The more specific of two directives; the second one, if they are equally specific. -/
def moreSpecific (best : Option LogDirective) (d : LogDirective) : Option LogDirective :=
  match best with
  | none => some d
  | some b => if d.source.length < b.source.length then some b else some d

def deciding? (f : LogFilter) (source : String) : Option LogDirective :=
  (f.directives.filter fun d => d.source.isPrefixOf source.toList).foldl moreSpecific none

def shows (f : LogFilter) (l : LogLine) : Bool :=
  match f.deciding? l.source with
  | none => false
  | some d => l.level.rank ≤ d.rank

/-- The rank that a word or number stands for; nothing at all stands for errors. -/
def rank? (s : List Char) : Option Nat :=
  match Text.digits? s with
  | some n => if n ≤ 5 then some n else none
  | none =>
    match String.ofList (s.map Text.lowerAscii) with
    | "" => some 1
    | "off" => some 0
    | "error" => some 1
    | "warn" => some 2
    | "info" => some 3
    | "debug" => some 4
    | "trace" => some 5
    | _ => none

def mayBegin (c : Char) : Bool :=
  c.isAlphanum || 0x80 ≤ c.toNat || c = '-' || c = ':' || c = '_'

/-- The rank after an equals sign; nothing there shows everything. -/
def rankAfter? (s : List Char) : Option Nat :=
  if s = [] then some 5 else rank? s

/-- Whether text that begins in brackets is a directive for spans. -/
def isSpan (s : List Char) : Bool :=
  match s.dropWhile (· ≠ ']') with
  | [] => false
  | _ :: rest =>
    match rest with
    | [] => true
    | '=' :: level => (rankAfter? level).isSome
    | _ => false

/-- The directive that a text stands for, none for a span; or an error. -/
def directive? (s : List Char) : Option (Option LogDirective) :=
  match s with
  | [] => none
  | c :: _ =>
    if c = '[' then if isSpan s then some none else none
    else if !mayBegin c then none
    else
      let source := s.takeWhile fun c => c ≠ '=' && c ≠ '['
      match s.drop source.length with
      | [] =>
        match rank? s with
        | some r => some (some ⟨[], r⟩)
        | none => some (some ⟨s, 5⟩)
      | '=' :: level => (rankAfter? level).map fun r => some ⟨source, r⟩
      | span => if isSpan span then some none else none

/-- The filter that a text stands for; without directives errors are shown. -/
def parse? (s : String) : Option LogFilter :=
  let pieces := (Text.splitAt ',' s.toList).filter (· ≠ [])
  (pieces.mapM fun piece => directive? (Text.trim piece)).map fun found =>
    match found.filterMap id with
    | [] => if found.isEmpty then upTo .error else ⟨[]⟩
    | directives => ⟨directives⟩

end LogFilter

end FederationTrust
