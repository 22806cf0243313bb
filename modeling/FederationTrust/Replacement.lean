import FederationTrust.Failure
import FederationTrust.Job

/-!
# Replacement of files

A file is replaced as a whole: the new content goes to a temporary file beside it, which
then takes its place. When either fails the temporary file is removed, so that the file
is as it was before.
-/

namespace FederationTrust

namespace Replacement

def source : String := "fedmeta_core::output"

/-- Gives a file this content, which arrives in pieces; stops at the first piece that is refused. -/
def writePieces (path : Path) : List Bytes → Job (Except String Unit)
  | [] => return .ok ()
  | piece :: rest => do
    match ← Job.ask (.append path piece) with
    | .error reason => return .error reason
    | .ok () => writePieces path rest

def writeFile (path : Path) (pieces : List Bytes) : Job (Except String Unit) := do
  match ← Job.ask (.truncate path) with
  | .error reason => return .error reason
  | .ok () => writePieces path pieces

def giveUp (path temporary : Path) (message : String) : Job (Except Failure Unit) := do
  Job.ask (.remove temporary)
  return .error (.output path.text message)

/-- Replaces a file by way of a temporary one; the content arrives in pieces. -/
def replaceVia (path temporary : Path) (pieces : List Bytes) : Job (Except Failure Unit) := do
  match ← writeFile temporary pieces with
  | .error reason => giveUp path temporary ("failed to write temp file: " ++ reason)
  | .ok () =>
    match ← Job.ask (.rename temporary path) with
    | .error reason => giveUp path temporary ("failed to rename temp file: " ++ reason)
    | .ok () =>
      Job.log .debug source "wrote file"
      return .ok ()

end Replacement

def replaceFile (path : Path) (content : Bytes) : Job (Except Failure Unit) := do
  let processId ← Job.ask .processId
  Replacement.replaceVia path (path.temporarySibling processId) [content]

end FederationTrust
