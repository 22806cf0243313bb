import FederationTrust.FileSystem.Basic
import FederationTrust.Job

/-!
# A modelled machine

A machine has a file system, a clock, a process identifier and a network, keeps the log and
what is printed, and may refuse file calls: which ones, and where a write stops, is given by
the number of file calls before. It may also refuse to make a client for the network. Running
a job on a machine gives its result and the machine afterwards.

Files can always be removed, a rename happens as a whole, and the clock stands still while a
job runs.
-/

namespace FederationTrust

/-- Whether a file call goes wrong: it is refused, or a write stops after some octets. -/
inductive FileFault where
  | none
  | refused
  | short (octets : Nat)
  deriving DecidableEq, Repr, Inhabited

structure Machine where
  files : FileSystem
  clock : Instant
  processId : Nat
  clients : HttpClient → Except String Unit
  network : DownloadRequest → Except DownloadFault DownloadResponse
  faults : Nat → FileFault
  fileCalls : Nat
  requests : List DownloadRequest
  filter : LogFilter
  log : List LogLine
  printed : Bytes
  acceptsPrint : Bool
  complaint : Option String

namespace Machine

/-- A machine on which everything works, which shows nothing of the log and has no network. -/
def quiet (files : FileSystem) (clock : Instant) (processId : Nat) : Machine where
  files := files
  clock := clock
  processId := processId
  clients := fun _ => .ok ()
  network := fun _ => .error ⟨false, "connection refused"⟩
  faults := fun _ => .none
  fileCalls := 0
  requests := []
  filter := ⟨[]⟩
  log := []
  printed := []
  acceptsPrint := true
  complaint := none

def nextFault (w : Machine) : FileFault :=
  w.faults w.fileCalls

def afterCall (w : Machine) (files : FileSystem) : Machine :=
  { w with files := files, fileCalls := w.fileCalls + 1 }

def look {α : Type} (w : Machine) (found : Option α) : Except String α × Machine :=
  let next := w.afterCall w.files
  match w.nextFault, found with
  | .refused, _ => (.error "permission denied", next)
  | _, some a => (.ok a, next)
  | _, none => (.error "no such file", next)

def change (w : Machine) (files : Option FileSystem) : Except String Unit × Machine :=
  match w.nextFault, files with
  | .refused, _ => (.error "permission denied", w.afterCall w.files)
  | _, some files => (.ok (), w.afterCall files)
  | _, none => (.error "no such file or directory", w.afterCall w.files)

/-- The answer to a call that puts octets behind a file, and may stop within them. -/
def appendTo (w : Machine) (path : Path) (content : Bytes) : Except String Unit × Machine :=
  match w.nextFault with
  | .short octets =>
    let kept := content.take octets
    (.error "no space left", w.afterCall ((w.files.append? path kept w.clock).getD w.files))
  | _ => w.change (w.files.append? path content w.clock)

def answer (w : Machine) : (c : SystemCall) → c.Answer × Machine
  | .read path => w.look (w.files.read? path)
  | .modified path => w.look (w.files.modified? path)
  | .sameFile a b =>
    match w.look (some (w.files.sameFile a b)) with
    | (.ok same, next) => (same, next)
    | (.error _, next) => (false, next)
  | .truncate path => w.change (w.files.truncate? path w.clock)
  | .append path content => w.appendTo path content
  | .rename source target => w.change (w.files.rename? source target)
  | .remove path => ((), { w with files := (w.files.remove? path).getD w.files })
  | .now => (w.clock, w)
  | .processId => (w.processId, w)
  | .makeClient client => (w.clients client, w)
  | .download request => (w.network request, { w with requests := w.requests ++ [request] })
  | .log line => ((), if w.filter.shows line then { w with log := w.log ++ [line] } else w)
  | .showOnly filter => ((), { w with filter := filter })
  | .print text =>
    if w.acceptsPrint then (.ok (), { w with printed := w.printed ++ Bytes.ofText text })
    else (.error "no space left", w)
  | .complain text => ((), { w with complaint := some text })

end Machine

namespace Job

def run {α : Type} : Job α → Machine → α × Machine
  | .done a, w => (a, w)
  | .call c next, w => (next (w.answer c).1).run (w.answer c).2

variable {α β : Type}

@[simp] theorem run_pure (a : α) (w : Machine) : (pure a : Job α).run w = (a, w) := rfl

@[simp] theorem run_done (a : α) (w : Machine) : (Job.done a).run w = (a, w) := rfl

@[simp] theorem run_ask (c : SystemCall) (w : Machine) : (ask c).run w = w.answer c := rfl

@[simp] theorem run_bind (job : Job α) (next : α → Job β) (w : Machine) :
    (job >>= next).run w = (next (job.run w).1).run (job.run w).2 := by
  induction job generalizing w with
  | done a => rfl
  | call c rest ih => exact ih (w.answer c).1 (w.answer c).2

end Job

end FederationTrust
