import FederationTrust.Calendar
import FederationTrust.CommandLine.Run
import FederationTrust.Http.Message
import Std.Async.DNS
import Std.Async.TCP
import Std.Async.Timer
import Std.Internal.UV.System
import Std.Time.DateTime.Timestamp

/-!
# The machine that the program runs on

Here the calls of a job are carried out: on the files, the clock, the network and the standard
streams of this machine. What is done, and in which order, is decided by the job.

Connections are not encrypted, so that documents whose URLs begin with `https` are out of
reach; verified copies of them can be listed and resolved.
-/

namespace FederationTrust

namespace Program

open Std.Async

def octets (b : ByteArray) : Bytes :=
  b.data.toList

def byteArray (b : Bytes) : ByteArray :=
  ⟨b.toArray⟩

/-- The result of an action, or the text of its error. -/
def attempt {α : Type} (action : IO α) : IO (Except String α) := do
  match ← action.toBaseIO with
  | .ok a => return .ok a
  | .error e => return .error (toString e)

def now : IO Instant := do
  let nanos := (← Std.Time.Timestamp.now).toNanosecondsSinceUnixEpoch.val
  return ⟨nanos.fdiv 1000000000, (nanos.fmod 1000000000).toNat⟩

def modified (path : Path) : IO Instant := do
  let time := (← (← IO.FS.realPath path.text).metadata).modified
  return ⟨time.sec, time.nsec.toNat⟩

def append (path : Path) (content : Bytes) : IO Unit := do
  let file ← IO.FS.Handle.mk path.text .append
  file.write (byteArray content)
  file.flush

def addresses (target : Http.Target) : Async (List Std.Net.SocketAddress) := do
  let port := UInt16.ofNat target.port
  let name := match target.host with
    | .ipv6 groups => Url.ipv6Text groups
    | host => host.text
  let found ← DNS.getAddrInfo (String.ofList name) (toString target.port)
  return found.toList.map fun
    | .v4 address => .v4 ⟨address, port⟩
    | .v6 address => .v6 ⟨address, port⟩

/-- A connection to the first of these addresses that accepts one. -/
def connect : List Std.Net.SocketAddress → Async TCP.Socket.Client
  | [] => throw (IO.userError "no address to connect to")
  | address :: rest => do
    let client ← TCP.Socket.Client.mk
    try
      client.connect address
      return client
    catch e =>
      if rest.isEmpty then throw e else connect rest

/-- What a server sends until it ends the connection, behind what it has sent before. -/
partial def receive (client : TCP.Socket.Client) (before : ByteArray) : Async ByteArray := do
  match ← client.recv? 65536 with
  | none => return before
  | some more => receive client (before ++ more)

/-- Asks a server once and takes all that it sends. -/
def exchange (target : Http.Target) (request : DownloadRequest) : Async Bytes := do
  let client ← connect (← addresses target)
  client.send (byteArray (Http.requestOctets target request.client.userAgent request.client.accept))
  return octets (← receive client .empty)

/-- Asks for a document, and for those that answers redirect to, a number of times. -/
def follow (request : DownloadRequest) : Nat → Url →
    Async (Except DownloadFault DownloadResponse)
  | 0, _ => return .error ⟨false, "too many redirections"⟩
  | count + 1, url => do
    match Http.Target.ofUrl? url with
    | none => return .error ⟨false, "no connection to this kind of URL"⟩
    | some target =>
      match Http.next url (← exchange target request) with
      | .error fault => return .error fault
      | .ok (.done response) => return .ok response
      | .ok (.ask url) => follow request count url

/-- The result of an action, if it has one within some seconds. -/
def within {α : Type} (seconds : Nat) (action : Async α) : Async (Option α) :=
  Async.race (some <$> action) do
    sleep (.ofNat (min seconds 1000000000 * 1000))
    return none

def download (request : DownloadRequest) : IO (Except DownloadFault DownloadResponse) := do
  match Url.parse request.url.toList with
  | .error _ => return .error ⟨false, "not a URL"⟩
  | .ok url =>
    let attempts := follow request (Http.redirectionLimit + 1) url
    match ← attempt (within request.client.timeoutSeconds.toNat attempts).block with
    | .ok (some answer) => return answer
    | .ok none => return .error ⟨true, "deadline has elapsed"⟩
    | .error reason => return .error ⟨false, reason⟩

/-- Prints a text and sees that it arrives. -/
def print (text : String) : IO Unit := do
  let out ← IO.getStdout
  out.putStr text
  out.flush

/-- Carries out a call; which log lines are shown is kept in a cell. -/
def obey (filter : IO.Ref LogFilter) : (c : SystemCall) → IO c.Answer
  | .read path => attempt do return octets (← IO.FS.readBinFile path.text)
  | .modified path => attempt (modified path)
  | .sameFile a b => do
    match ← attempt (IO.FS.realPath a.text), ← attempt (IO.FS.realPath b.text) with
    | .ok a, .ok b => return a.toString == b.toString
    | _, _ => return false
  | .truncate path => attempt (IO.FS.writeBinFile path.text .empty)
  | .append path content => attempt (append path content)
  | .rename source target => attempt (IO.FS.rename source.text target.text)
  | .remove path => do
    let _ ← attempt (IO.FS.removeFile path.text)
  | .now => now
  | .processId => return (← Std.Internal.UV.System.osGetPid).toNat
  -- A client without encryption is nothing that has to be set up.
  | .makeClient _ => return .ok ()
  | .download request => download request
  | .log line => do
    if (← filter.get).shows line then
      IO.eprintln (Calendar.text (← now).seconds ++ " " ++ line.text)
  | .showOnly shown => filter.set shown
  | .print text => attempt (print text)
  | .complain text => IO.eprint text

def perform {α : Type} (filter : IO.Ref LogFilter) : Job α → IO α
  | .done a => return a
  | .call c next => do perform filter (next (← obey filter c))

def environment : IO Environment := do
  let names := CommandLine.logVariable :: FetchConfig.variableNames
  let values ← names.mapM fun name => return (name, ← IO.getEnv name)
  return fun name => ((values.lookup name).join).map Bytes.ofText

end Program

end FederationTrust

def main (arguments : List String) : IO UInt32 := do
  let filter ← IO.mkRef (⟨[]⟩ : FederationTrust.LogFilter)
  let environment ← FederationTrust.Program.environment
  let code ← FederationTrust.Program.perform filter
    (FederationTrust.CommandLine.run environment arguments)
  return UInt32.ofNat code
