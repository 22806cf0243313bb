import FederationTrust.Instant
import FederationTrust.Json.Decode
import FederationTrust.Replacement

/-!
# Cached copies

Verified metadata may be reused while it is fresh: from the time at which its file was
modified on, for the seconds that it states itself or else for a standard time. What
cannot be read counts as stale. Of the document only the lifetime is looked at.

Reuse never changes the cached file: when the output is that same file nothing is written.
-/

namespace FederationTrust

structure CachedCopy where
  path : Path
  lifetime : Lifetime
  modified : Instant
  deriving DecidableEq, Repr

namespace CachedCopy

def source : String := "fedmeta_core::cache"

/-- The lifetime that a document states; or an error, if it is no document of this kind. -/
def statedTtl? (document : Bytes) : Option (Option UInt64) := do
  let j ← Json.parse? document
  match ← j.fields? [["cache_ttl"]] with
  | [ttl] => Json.optional? Json.word? ttl
  | _ => none

/-- The lifetime of a document, given the one for documents that do not state any. -/
def lifetime? (document : Bytes) (standard : UInt64) : Option Lifetime :=
  (statedTtl? document).map fun ttl => Lifetime.ofSeconds (ttl.getD standard)

def isValidAt (c : CachedCopy) (now : Instant) : Bool :=
  isFresh c.modified c.lifetime now

/-- Looks at a cached file; none, if it cannot be used at all. -/
def inspect (path : Path) (standard : UInt64) : Job (Option CachedCopy) := do
  match ← Job.read path with
  | .error _ =>
    Job.log .debug source "cached copy unreadable"
    return none
  | .ok document =>
    match lifetime? document standard with
    | none =>
      Job.log .debug source "cached copy unparseable"
      return none
    | some lifetime =>
      match ← Job.ask (.modified path) with
      | .error _ =>
        Job.log .debug source "cached copy has no mtime"
        return none
      | .ok modified => return some ⟨path, lifetime, modified⟩

end CachedCopy

def isCacheValidAt (path : Path) (standard : UInt64) (now : Instant) : Job Bool := do
  match ← CachedCopy.inspect path standard with
  | none => return false
  | some c =>
    Job.log .debug CachedCopy.source "checked cached copy"
    return c.isValidAt now

def isCacheValid (path : Path) (standard : UInt64) : Job Bool := do
  isCacheValidAt path standard (← Job.ask .now)

/-- Puts the content of the cached file at the output, unless that is the same file. -/
def copyCached (cached output : Path) : Job (Except Failure Bytes) := do
  match ← Job.read cached with
  | .error reason => return .error (.cacheCopy cached.text ("failed to read: " ++ reason))
  | .ok content =>
    if ← Job.ask (.sameFile cached output) then
      Job.log .debug CachedCopy.source "cached copy is the output, nothing to copy"
      return .ok content
    else
      match ← replaceFile output content with
      | .error f => return .error (.cacheCopy cached.text f.message)
      | .ok () => return .ok content

end FederationTrust
