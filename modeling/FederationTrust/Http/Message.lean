import FederationTrust.Download
import FederationTrust.Url.Reference

/-!
# Messages of the web

The octets that ask a server for a document, and the answer that octets from a server hold.
A server is asked to end the connection after its answer, so that an answer is read when all
of it is there. The body is as long as the head says, or comes in chunks that say how long they
are, or goes on to the end; a body that ends too early is no body.

A redirection is an answer that names another URL, possibly in view of the one asked for.
-/

namespace FederationTrust

namespace Http

structure Target where
  host : Url.Host
  port : Nat
  resource : List Char
  deriving DecidableEq, Repr

/-- The target of a URL, if connections without encryption lead there. -/
def Target.ofUrl? (u : Url) : Option Target :=
  match u.authority with
  | none => none
  | some a =>
    if u.scheme = "http".toList then
      some ⟨a.host, a.port.getD 80, u.path.text ++ match u.query with
        | some q => '?' :: q
        | none => []⟩
    else none

/-- How a host is asked for: its text, and the port where that is not the usual one. -/
def Target.hostField (t : Target) : List Char :=
  t.host.text ++ if t.port = 80 then [] else ':' :: Nat.toDigits 10 t.port

def lineEnd : String := "\r\n"

def requestOctets (t : Target) (userAgent accept : String) : Bytes :=
  Bytes.ofText ("GET " ++ String.ofList t.resource ++ " HTTP/1.1" ++ lineEnd
    ++ "user-agent: " ++ userAgent ++ lineEnd ++ "accept: " ++ accept ++ lineEnd
    ++ "host: " ++ String.ofList t.hostField ++ lineEnd
    ++ "connection: close" ++ lineEnd ++ lineEnd)

/-- A line without the carriage return at its end; the line is given in reverse. -/
def lineOf : Bytes → Bytes
  | 13 :: line => line.reverse
  | line => line.reverse

/-- The first line and what follows it, behind octets of the line that are given in reverse. -/
def firstLine? (before : Bytes) : Bytes → Option (Bytes × Bytes)
  | [] => none
  | 10 :: rest => some (lineOf before, rest)
  | b :: rest => firstLine? (b :: before) rest

/-- The lines before the first empty one, and what follows that. -/
def splitHead? (before : Bytes) : Bytes → Option (List Bytes × Bytes)
  | [] => none
  | 10 :: rest =>
    match lineOf before with
    | [] => some ([], rest)
    | line => (splitHead? [] rest).map fun r => (line :: r.1, r.2)
  | b :: rest => splitHead? (b :: before) rest

/-- A field of a head: its name in lower case, and its value. -/
structure Field where
  name : List Char
  value : List Char
  deriving DecidableEq, Repr

/-- An octet for each character up to 255. -/
def characters (b : Bytes) : List Char :=
  b.map fun x => Char.ofNat x.toNat

def field? (line : Bytes) : Option Field :=
  let s := characters line
  let name := s.takeWhile (· ≠ ':')
  match s.drop name.length with
  | [] => none
  | _ :: value => some ⟨name.map Text.lowerAscii, Text.trim value⟩

def status? (line : Bytes) : Option Nat :=
  match Text.splitAt ' ' (characters line) with
  | version :: status :: _ =>
    if "HTTP/1.".toList.isPrefixOf version ∧ status.length = 3 then Text.digits? status else none
  | _ => none

structure Head where
  status : Nat
  fields : List Field
  deriving DecidableEq, Repr

def Head.value? (h : Head) (name : String) : Option (List Char) :=
  (h.fields.find? fun f => f.name == name.toList).map Field.value

def head? (octets : Bytes) : Option (Head × Bytes) :=
  match splitHead? [] octets with
  | some (first :: lines, rest) =>
    (status? first).bind fun status =>
      (lines.mapM field?).map fun fields => (⟨status, fields⟩, rest)
  | _ => none

/-- The length of a chunk from its line; what stands behind a semicolon does not count. -/
def chunkLength? (line : Bytes) : Option Nat :=
  let digits := Text.trim ((characters line).takeWhile (· ≠ ';'))
  if digits.isEmpty then none else Url.radixValue? 16 digits

/-- The content of at most so many chunks up to the empty one. -/
def chunks? : Nat → Bytes → Option Bytes
  | 0, _ => none
  | count + 1, octets => do
    let (line, rest) ← firstLine? [] octets
    let length ← chunkLength? line
    if length = 0 then some []
    else if rest.length < length then none
    else
      match firstLine? [] (rest.drop length) with
      | some ([], rest') => (chunks? count rest').map (rest.take length ++ ·)
      | _ => none

def isBodiless (status : Nat) : Bool :=
  status < 200 || status = 204 || status = 304

def incomplete : DownloadFault :=
  ⟨false, "connection closed before message completed"⟩

def body (h : Head) (rest : Bytes) : Except DownloadFault Bytes :=
  if isBodiless h.status then .ok []
  else
    match h.value? "transfer-encoding" with
    | some _ => ((chunks? rest.length rest).map Except.ok).getD (.error incomplete)
    | none =>
      match h.value? "content-length" with
      | none => .ok rest
      | some value =>
        match Text.digits? value with
        | none => .error ⟨false, "invalid content-length"⟩
        | some length => if rest.length < length then .error incomplete else .ok (rest.take length)

def redirection? (u : Url) (h : Head) : Option Url :=
  if [301, 302, 303, 307, 308].contains h.status then
    (h.value? "location").bind u.ofReference?
  else none

inductive Next where
  | done (response : DownloadResponse)
  | ask (url : Url)
  deriving Repr

def next (u : Url) (octets : Bytes) : Except DownloadFault Next :=
  match head? octets with
  | none => .error incomplete
  | some (h, rest) =>
    match redirection? u h with
    | some url => .ok (.ask url)
    | none => .ok (.done ⟨h.status, body h rest⟩)

def redirectionLimit : Nat := 10

end Http

end FederationTrust
