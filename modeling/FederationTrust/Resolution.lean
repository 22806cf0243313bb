import FederationTrust.Failure
import FederationTrust.Metadata.Basic
import FederationTrust.Url.Normal

/-!
# Resolution of servers

To connect to servers of a member one needs their base URIs, the public keys that they
are pinned to, and the certificates that authenticate them. A resolution has all of
that for every chosen server or fails as a whole.
-/

namespace FederationTrust

inductive ServerSelector where
  | name (wanted : Option String)
  | tags (wanted : List String)
  deriving DecidableEq, Repr

structure EndPoint where
  name : String
  url : String
  pins : List Pin
  deriving DecidableEq, Repr

/-- The chosen servers of a member, and the certificates that authenticate them. -/
structure ServerConnection where
  entityId : String
  endPoints : List EndPoint
  caCertificates : String
  deriving DecidableEq, Repr

inductive LookupError where
  | noEntity (wanted : String)
  | noServers (entityId : String)
  | ambiguous (entityId : String) (servers : Nat)
  | noNamed (name entityId : String)
  | noTagged (tags : List String) (entityId : String)
  | noBaseUri (server : String)
  | noPins (server : String)
  | noIssuers (entityId : String)
  deriving DecidableEq, Repr

def LookupError.message : LookupError → String
  | .noEntity wanted => "no entity matching " ++ wanted ++ " in metadata"
  | .noServers entityId => "entity " ++ entityId ++ " has no servers"
  | .ambiguous entityId servers =>
    "entity " ++ entityId ++ " has " ++ toString servers
      ++ " servers, more than one server matched; specify a server name"
  | .noNamed name entityId => "no server named " ++ name ++ " for entity " ++ entityId
  | .noTagged tags entityId =>
    "no server tagged [" ++ ", ".intercalate tags ++ "] for entity " ++ entityId
  | .noBaseUri server => "server " ++ server ++ " has no base_uri"
  | .noPins server => "server " ++ server ++ " has no pins"
  | .noIssuers entityId => "entity " ++ entityId ++ " has no issuer certificates"

def LookupError.failure (e : LookupError) : Failure :=
  .lookup e.message

/-- A pin as the name of its hash and its value with two slashes between. -/
def Pin.text (p : Pin) : String :=
  p.name ++ "//" ++ p.value

/-- Pins with semicolons between them. -/
def concatenatePins (pins : List Pin) : String :=
  ";".intercalate (pins.map Pin.text)

def EndPoint.pinnedPublicKeys (e : EndPoint) : String :=
  concatenatePins e.pins

def Server.endPoint (s : Server) : Except LookupError EndPoint :=
  match s.baseUri with
  | none => .error (.noBaseUri s.name)
  | some url => if s.pins = [] then .error (.noPins s.name) else .ok ⟨s.name, url, s.pins⟩

/-- The end points of servers, all of which are complete. -/
def endPoints : List Server → Except LookupError (List EndPoint)
  | [] => .ok []
  | s :: rest => do
    let e ← s.endPoint
    let es ← endPoints rest
    return e :: es

namespace Entity

/-- The certificates of a member, each with a line end behind it. -/
def caBundle (e : Entity) : String :=
  String.join (e.issuers.map fun i => i.certificate ++ "\n")

/-- The server of a name, the last one if there are several; without a name the only server. -/
def selectByName (e : Entity) : Option String → Except LookupError Server
  | none =>
    match e.servers with
    | [only] => .ok only
    | servers => .error (.ambiguous e.entityId servers.length)
  | some name =>
    match e.servers.reverse.find? (·.name == name) with
    | some s => .ok s
    | none => .error (.noNamed name e.entityId)

def selectByTags (e : Entity) (tags : List String) : Except LookupError (List Server) :=
  let wanted := canonicalTags tags
  match e.servers.filter (·.canonicalTags == wanted) with
  | [] => .error (.noTagged wanted e.entityId)
  | servers => .ok servers

def select (e : Entity) : ServerSelector → Except LookupError (List Server)
  | .name wanted => (e.selectByName wanted).map ([·])
  | .tags wanted => e.selectByTags wanted

def connect (e : Entity) (selector : ServerSelector) : Except LookupError ServerConnection := do
  if e.servers = [] then throw (.noServers e.entityId)
  let servers ← e.select selector
  let found ← endPoints servers
  if e.issuers = [] then throw (.noIssuers e.entityId)
  return ⟨e.entityId, found, e.caBundle⟩

end Entity

/-- The member of this identifier as a URL, the last one if there are several. -/
def Metadata.findEntity? (m : Metadata) (entityId : String) : Option Entity :=
  m.entities.reverse.find? fun e => urlEquals e.entityId entityId

def Metadata.resolve (m : Metadata) (entityId : String) (selector : ServerSelector) :
    Except LookupError ServerConnection :=
  match m.findEntity? entityId with
  | none => .error (.noEntity entityId)
  | some e => e.connect selector

end FederationTrust
