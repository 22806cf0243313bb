import FederationTrust.Metadata.Basic
import FederationTrust.Url.Normal

/-!
# Listings

A listing prints a line for each member of the federation that is asked for, and under
it, as asked for, its servers, its clients and the distinct sets of tags of its servers.
It is written line by line into any receiver of text, and ends as soon as that refuses
a line; a sink with limited room is such a receiver.
-/

namespace FederationTrust

structure ListOptions where
  entity : Option String
  entityMatch : EntityMatch
  servers : Bool
  baseUris : Bool
  clients : Bool
  serverTags : Bool
  deriving DecidableEq, Repr

instance : Inhabited ListOptions := ⟨⟨none, .exactly, false, false, false, false⟩⟩

/-- The elements of a list, each at its first place only. -/
def firstOccurrences {α : Type} [BEq α] (seen : List α) : List α → List α
  | [] => seen.reverse
  | a :: rest => firstOccurrences (if seen.contains a then seen else a :: seen) rest

/-- The canonical tag sets of the servers of an entity, each once, by first occurrence. -/
def Entity.distinctTagSets (e : Entity) : List (List String) :=
  firstOccurrences [] (e.servers.map Server.canonicalTags)

namespace ListOptions

def selects (o : ListOptions) (e : Entity) : Bool :=
  match o.entity with
  | none => true
  | some wanted => o.entityMatch.matches e.entityId wanted

/-- What a listing prints for a server: its name, its base URI or both, a dash if that is missing. -/
def serverLine? (o : ListOptions) (s : Server) : Option String :=
  match o.servers, o.baseUris with
  | true, true => some ("\t" ++ s.name ++ "\t" ++ s.baseUri.getD "-" ++ "\n")
  | true, false => some ("\t" ++ s.name ++ "\n")
  | false, true => s.baseUri.map fun uri => "\t" ++ uri ++ "\n"
  | false, false => none

def tagLine (tags : List String) : String :=
  "\t[" ++ ", ".intercalate tags ++ "]\n"

variable {m : Type → Type} [Monad m]

def writeEntity (emit : String → m Unit) (o : ListOptions) (e : Entity) : m Unit := do
  emit (e.entityId ++ "\n")
  e.servers.forM fun s =>
    match o.serverLine? s with
    | some line => emit line
    | none => pure ()
  if o.clients then
    e.clients.forM fun c => emit ("\t" ++ c.name ++ "\n")
  if o.serverTags then
    e.distinctTagSets.forM fun tags => emit (tagLine tags)

/-- Writes the members of a list that are asked for, and counts them on top of a number. -/
def writeEntities (emit : String → m Unit) (o : ListOptions) (count : Nat) : List Entity → m Nat
  | [] => pure count
  | e :: rest =>
    if o.selects e then do
      writeEntity emit o e
      writeEntities emit o (count + 1) rest
    else writeEntities emit o count rest

def write (emit : String → m Unit) (o : ListOptions) (metadata : Metadata) : m Nat :=
  writeEntities emit o 0 metadata.entities

end ListOptions

/-- A receiver of octets, with what it has taken and how much more it takes, if that is limited. -/
structure Sink where
  taken : Bytes
  room : Option Nat
  deriving DecidableEq, Repr

namespace Sink

def unlimited : Sink := ⟨[], none⟩

def limited (room : Nat) : Sink := ⟨[], some room⟩

/-- Puts octets into the sink; when they do not fit it takes what fits and fails. -/
def put (b : Bytes) : EStateM Unit Sink Unit := fun sink =>
  match sink.room with
  | none => .ok () ⟨sink.taken ++ b, none⟩
  | some room =>
    if b.length ≤ room then .ok () ⟨sink.taken ++ b, some (room - b.length)⟩
    else .error () ⟨sink.taken ++ b.take room, some 0⟩

end Sink

def listInto (sink : Sink) (o : ListOptions) (metadata : Metadata) :
    EStateM.Result Unit Sink Nat :=
  o.write (fun line => Sink.put (Bytes.ofText line)) metadata sink

end FederationTrust
