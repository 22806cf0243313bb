import FederationTrust.Download
import FederationTrust.FileSystem.Path
import FederationTrust.Instant
import FederationTrust.Logging

/-!
# Jobs

A job is work that needs a machine: it asks one thing of the machine at a time and goes on
with the answer. What a call does is not said here; a job can be run on a modelled machine or
on the one that the program itself runs on, and its calls can be interleaved with those of
others.
-/

namespace FederationTrust

inductive SystemCall where
  | read (path : Path)
  | modified (path : Path)
  | sameFile (a b : Path)
  | truncate (path : Path)
  | append (path : Path) (content : Bytes)
  | rename (source target : Path)
  | remove (path : Path)
  | now
  | processId
  | makeClient (client : HttpClient)
  | download (request : DownloadRequest)
  | log (line : LogLine)
  | showOnly (filter : LogFilter)
  | print (text : String)
  | complain (text : String)
  deriving DecidableEq, Repr

/-- What a machine answers: a file call that it refuses has a text for the reason. -/
@[reducible]
def SystemCall.Answer : SystemCall → Type
  | .read _ => Except String Bytes
  | .modified _ => Except String Instant
  | .sameFile _ _ => Bool
  | .truncate _ => Except String Unit
  | .append _ _ => Except String Unit
  | .rename _ _ => Except String Unit
  | .remove _ => Unit
  | .now => Instant
  | .processId => Nat
  | .makeClient _ => Except String Unit
  | .download _ => Except DownloadFault DownloadResponse
  | .log _ => Unit
  | .showOnly _ => Unit
  | .print _ => Except String Unit
  | .complain _ => Unit

inductive Job (α : Type) where
  | done (a : α)
  | call (c : SystemCall) (next : c.Answer → Job α)

namespace Job

def bind {α β : Type} (job : Job α) (next : α → Job β) : Job β :=
  match job with
  | .done a => next a
  | .call c rest => .call c fun answer => (rest answer).bind next

instance : Monad Job where
  pure := .done
  bind := bind

def ask (c : SystemCall) : Job c.Answer :=
  .call c .done

def read (path : Path) : Job (Except String Bytes) := ask (.read path)

def log (level : LogLevel) (source message : String) : Job Unit :=
  ask (.log ⟨level, source, message⟩)

variable {α β : Type}

theorem pure_eq (a : α) : (pure a : Job α) = .done a := rfl

theorem bind_eq (job : Job α) (next : α → Job β) : job >>= next = job.bind next := rfl

theorem bind_done (job : Job α) : job.bind .done = job := by
  induction job with
  | done a => rfl
  | call c next ih =>
    show Job.call c (fun answer => (next answer).bind .done) = .call c next
    exact congrArg _ (funext ih)

theorem bind_assoc {γ : Type} (job : Job α) (f : α → Job β) (g : β → Job γ) :
    (job.bind f).bind g = job.bind fun a => (f a).bind g := by
  induction job with
  | done a => rfl
  | call c next ih =>
    show Job.call c (fun answer => ((next answer).bind f).bind g) = _
    exact congrArg _ (funext ih)

instance : LawfulMonad Job :=
  LawfulMonad.mk' Job bind_done (fun _ _ => rfl) bind_assoc

end Job

end FederationTrust
