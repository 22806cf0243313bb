import FederationTrust.Json.Decode
import FederationTrust.Json.Printer
import FederationTrust.Text.Lowercase

/-!
# Federation metadata

The document that a federation publishes about its members: their certificates,
servers and clients, with the public keys that these are pinned to. The two members
of a pin have second names that mean the same.
-/

namespace FederationTrust

/-- A pinned public key: the name of a hash function and the hash. -/
structure Pin where
  name : String
  value : String
  deriving DecidableEq, Repr, Inhabited

/-- A certificate that a member's servers are authenticated with. -/
structure Issuer where
  certificate : String
  deriving DecidableEq, Repr, Inhabited

structure Server where
  name : String
  baseUri : Option String
  tags : List String
  pins : List Pin
  deriving DecidableEq, Repr, Inhabited

structure Client where
  name : String
  pins : List Pin
  deriving DecidableEq, Repr, Inhabited

structure Entity where
  entityId : String
  organization : Option String
  issuers : List Issuer
  servers : List Server
  clients : List Client
  deriving DecidableEq, Repr, Inhabited

/-- The document, with the seconds that a copy of it may be reused for. -/
structure Metadata where
  cacheTtl : Option UInt64
  entities : List Entity
  deriving DecidableEq, Repr, Inhabited

namespace Pin

def ofJson? (j : Json) : Option Pin := do
  match ← j.fields? [["name", "alg"], ["value", "digest"]] with
  | [name, value] =>
    let name ← Json.required? Json.text? name
    let value ← Json.required? Json.text? value
    some ⟨name, value⟩
  | _ => none

def toJson (p : Pin) : Json :=
  .record [("name", .text p.name), ("value", .text p.value)]

end Pin

namespace Issuer

def ofJson? (j : Json) : Option Issuer := do
  match ← j.fields? [["x509certificate"]] with
  | [certificate] =>
    let certificate ← Json.required? Json.text? certificate
    some ⟨certificate⟩
  | _ => none

def toJson (i : Issuer) : Json :=
  .record [("x509certificate", .text i.certificate)]

end Issuer

namespace Server

def ofJson? (j : Json) : Option Server := do
  match ← j.fields? [["name"], ["base_uri"], ["tags"], ["pins"]] with
  | [name, baseUri, tags, pins] =>
    let name ← Json.withDefault? "" Json.text? name
    let baseUri ← Json.optional? Json.text? baseUri
    let tags ← Json.withDefault? [] (Json.listOf? Json.text?) tags
    let pins ← Json.withDefault? [] (Json.listOf? Pin.ofJson?) pins
    some ⟨name, baseUri, tags, pins⟩
  | _ => none

def toJson (s : Server) : Json :=
  .record ([("name", .text s.name)] ++ Json.given "base_uri" .text s.baseUri
    ++ [("tags", .texts s.tags), ("pins", .array (s.pins.map Pin.toJson))])

end Server

namespace Client

def ofJson? (j : Json) : Option Client := do
  match ← j.fields? [["name"], ["pins"]] with
  | [name, pins] =>
    let name ← Json.withDefault? "" Json.text? name
    let pins ← Json.withDefault? [] (Json.listOf? Pin.ofJson?) pins
    some ⟨name, pins⟩
  | _ => none

def toJson (c : Client) : Json :=
  .record [("name", .text c.name), ("pins", .array (c.pins.map Pin.toJson))]

end Client

namespace Entity

def ofJson? (j : Json) : Option Entity := do
  match ← j.fields? [["entity_id"], ["organization"], ["issuers"], ["servers"], ["clients"]] with
  | [entityId, organization, issuers, servers, clients] =>
    let entityId ← Json.required? Json.text? entityId
    let organization ← Json.optional? Json.text? organization
    let issuers ← Json.withDefault? [] (Json.listOf? Issuer.ofJson?) issuers
    let servers ← Json.withDefault? [] (Json.listOf? Server.ofJson?) servers
    let clients ← Json.withDefault? [] (Json.listOf? Client.ofJson?) clients
    some ⟨entityId, organization, issuers, servers, clients⟩
  | _ => none

def toJson (e : Entity) : Json :=
  .record ([("entity_id", .text e.entityId)] ++ Json.given "organization" .text e.organization
    ++ [("issuers", .array (e.issuers.map Issuer.toJson)),
      ("servers", .array (e.servers.map Server.toJson)),
      ("clients", .array (e.clients.map Client.toJson))])

end Entity

namespace Metadata

def ofJson? (j : Json) : Option Metadata := do
  match ← j.fields? [["cache_ttl"], ["entities"]] with
  | [cacheTtl, entities] =>
    let cacheTtl ← Json.optional? Json.word? cacheTtl
    let entities ← Json.required? (Json.listOf? Entity.ofJson?) entities
    some ⟨cacheTtl, entities⟩
  | _ => none

def toJson (m : Metadata) : Json :=
  .record (Json.given "cache_ttl" Json.ofWord m.cacheTtl
    ++ [("entities", .array (m.entities.map Entity.toJson))])

def parse? (document : Bytes) : Option Metadata :=
  (Json.parse? document).bind ofJson?

def text (m : Metadata) : String :=
  m.toJson.render

end Metadata

/-- A text put at its place in a strictly increasing list, unless it is there already. -/
def insertTag (tag : String) : List String → List String
  | [] => [tag]
  | t :: rest =>
    if tag < t then tag :: t :: rest
    else if tag = t then t :: rest
    else t :: insertTag tag rest

/-- Tags in lower case, in the order of their characters, each once. -/
def canonicalTags (tags : List String) : List String :=
  (tags.map Text.lowercase).foldr insertTag []

def Server.canonicalTags (s : Server) : List String :=
  FederationTrust.canonicalTags s.tags

end FederationTrust
