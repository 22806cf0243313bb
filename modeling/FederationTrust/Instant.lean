/-!
# Instants and lifetimes

An instant is a number of seconds since the beginning of 1970, negative before it,
and nanoseconds on top. Adding a lifetime has a result only while the seconds fit 64
bits with sign.
-/

namespace FederationTrust

structure Instant where
  seconds : Int
  nanos : Nat
  deriving DecidableEq, Repr, Inhabited

structure Lifetime where
  seconds : Nat
  nanos : Nat
  deriving DecidableEq, Repr, Inhabited

namespace Lifetime

def ofSeconds (n : UInt64) : Lifetime :=
  ⟨n.toNat, 0⟩

/-- The span in nanoseconds. -/
def total (d : Lifetime) : Nat :=
  d.seconds * 1000000000 + d.nanos

end Lifetime

namespace Instant

/-- The instant in nanoseconds. -/
def total (t : Instant) : Int :=
  t.seconds * 1000000000 + t.nanos

def before (a b : Instant) : Bool :=
  a.seconds < b.seconds || (a.seconds = b.seconds && a.nanos < b.nanos)

/-- The instant at the end of a lifetime. -/
def add? (t : Instant) (d : Lifetime) : Option Instant :=
  let nanos := t.nanos + d.nanos
  let seconds := t.seconds + d.seconds + (nanos / 1000000000 : Nat)
  if seconds < (Nat.pow 2 63 : Nat) then some ⟨seconds, nanos % 1000000000⟩ else none

end Instant

/-- Whether something with a lifetime is still usable; without an end it always is. -/
def isFresh (modified : Instant) (lifetime : Lifetime) (now : Instant) : Bool :=
  match modified.add? lifetime with
  | some deadline => now.before deadline
  | none => true

end FederationTrust
