import FederationTrust.Config
import FederationTrust.Metadata.Basic
import FederationTrust.Proofs.Json.RoundTrip
import FederationTrust.Verification

/-!
# Documents read back

Metadata, envelopes, configurations and policies are written as records whose fields are found
again under their names: an optional field that is left out reads as absent, one that is written
as null too, and lists read element by element. So whatever is written is read back, and a
document that was accepted in some other form stands for the same value as the compact document
that is written in its place.
-/

namespace FederationTrust

namespace Json

def ReadsBack {α : Type} (read? : Json → Option α) (write : α → Json) : Prop :=
  ∀ a, read? (write a) = some a

theorem readsBack_text : ReadsBack text? text :=
  fun _ => rfl

theorem readsBack_word : ReadsBack word? ofWord := by
  intro w
  have small : w.toNat < wordLimit := w.toNat_lt
  simp [ofWord, word?, Numeral.word?, Numeral.ofNat, Numeral.nat?, small]

theorem ReadsBack.listOf? {α : Type} {read? : Json → Option α} {write : α → Json}
    (back : ReadsBack read? write) : ReadsBack (listOf? read?) fun l => .array (l.map write) := by
  intro l
  rw [Json.listOf?, mapM_eq_some_iff, List.map_map]
  exact List.map_congr_left fun a _ => back a

theorem ReadsBack.optional? {α : Type} {read? : Json → Option α} {write : α → Json}
    (back : ReadsBack read? write) (value : ∀ a, write a ≠ .null) (o : Option α) :
    Json.optional? read? (o.map write) = some o := by
  cases o with
  | none => rfl
  | some a =>
    rw [Option.map_some, Json.optional?.eq_3 _ _ (value a), back, Option.map_some]

/-- A value is read back from the compact text of what it is written as. -/
theorem ReadsBack.parse? {α : Type} {read? : Json → Option α} {write : α → Json}
    (back : ReadsBack read? write) (a : α) :
    (Json.parse? (Bytes.ofText (write a).render)).bind read? = some a := by
  rw [parse?_render, Option.bind_some, back]

/-- A document in place of another that reads as the same value reads as that value. -/
theorem ReadsBack.reparse? {α : Type} {read? : Json → Option α} {write : α → Json}
    (back : ReadsBack read? write) (document : Bytes) :
    ((Json.parse? document).bind read?).bind (fun a =>
      (Json.parse? (Bytes.ofText (write a).render)).bind read?) =
        (Json.parse? document).bind read? := by
  simp only [back.parse?, Option.bind_fun_some]

end Json

section Records

/-! Each record is read by its fields, which are those that it was written with. -/

open Json

theorem Pin.readsBack : ReadsBack Pin.ofJson? Pin.toJson :=
  fun _ => rfl

theorem Issuer.readsBack : ReadsBack Issuer.ofJson? Issuer.toJson :=
  fun _ => rfl

theorem Server.readsBack : ReadsBack Server.ofJson? Server.toJson := by
  intro s
  have fields : s.toJson.fields? [["name"], ["base_uri"], ["tags"], ["pins"]] =
      some [some (.text s.name), s.baseUri.map .text, some (.texts s.tags),
        some (.array (s.pins.map Pin.toJson))] := by
    obtain ⟨name, _ | uri, tags, pins⟩ := s <;> rfl
  have uri := readsBack_text.optional? nofun s.baseUri
  have tags := readsBack_text.listOf? s.tags
  have pins := Pin.readsBack.listOf? s.pins
  simp only [ofJson?, fields, Option.bind_eq_bind, Option.bind_some, withDefault?, text?, texts,
    uri, tags, pins]

theorem Client.readsBack : ReadsBack Client.ofJson? Client.toJson := by
  intro c
  have fields : c.toJson.fields? [["name"], ["pins"]] =
      some [some (.text c.name), some (.array (c.pins.map Pin.toJson))] := rfl
  have pins := Pin.readsBack.listOf? c.pins
  simp only [ofJson?, fields, Option.bind_eq_bind, Option.bind_some, withDefault?, text?, pins]

theorem Entity.readsBack : ReadsBack Entity.ofJson? Entity.toJson := by
  intro e
  have fields : e.toJson.fields?
      [["entity_id"], ["organization"], ["issuers"], ["servers"], ["clients"]] =
      some [some (.text e.entityId), e.organization.map .text,
        some (.array (e.issuers.map Issuer.toJson)), some (.array (e.servers.map Server.toJson)),
        some (.array (e.clients.map Client.toJson))] := by
    obtain ⟨entityId, _ | organization, issuers, servers, clients⟩ := e <;> rfl
  have organization := readsBack_text.optional? nofun e.organization
  have issuers := Issuer.readsBack.listOf? e.issuers
  have servers := Server.readsBack.listOf? e.servers
  have clients := Client.readsBack.listOf? e.clients
  simp only [ofJson?, fields, Option.bind_eq_bind, Option.bind_some, required?, withDefault?,
    text?, organization, issuers, servers, clients]

theorem Metadata.readsBack : ReadsBack Metadata.ofJson? Metadata.toJson := by
  intro m
  have fields : m.toJson.fields? [["cache_ttl"], ["entities"]] =
      some [m.cacheTtl.map .ofWord, some (.array (m.entities.map Entity.toJson))] := by
    obtain ⟨_ | ttl, entities⟩ := m <;> rfl
  have ttl := readsBack_word.optional? nofun m.cacheTtl
  have entities := Entity.readsBack.listOf? m.entities
  simp only [ofJson?, fields, Option.bind_eq_bind, Option.bind_some, required?, ttl, entities]

theorem SignatureEntry.readsBack : ReadsBack SignatureEntry.ofJson? SignatureEntry.toJson := by
  rintro ⟨_ | header, _ | signature⟩ <;> rfl

theorem Envelope.readsBack : ReadsBack Envelope.ofJson? Envelope.toJson := by
  intro e
  have fields : e.toJson.fields? [["payload"], ["signatures"]] =
      some [some (.text e.payload), some (.array (e.signatures.map SignatureEntry.toJson))] := rfl
  have signatures := SignatureEntry.readsBack.listOf? e.signatures
  simp only [ofJson?, fields, Option.bind_eq_bind, Option.bind_some, required?, text?, signatures]

theorem AlgorithmPolicy.readsBack_algorithm :
    ReadsBack algorithmOfJson? fun a => .text a.name := by
  intro a
  rw [algorithmOfJson?, show bareCase? (.text a.name) = some a.name from rfl, Option.bind_some,
    Algorithm.ofName?_name]

theorem AlgorithmPolicy.readsBack : ReadsBack AlgorithmPolicy.ofJson? AlgorithmPolicy.toJson := by
  rintro (_ | allowed)
  · rfl
  · have named : case? (AlgorithmPolicy.pinned allowed).toJson =
        some ("pinned", some (.array (allowed.map fun a => .text a.name))) := by
      rw [toJson, texts, List.map_map]
      rfl
    have each := readsBack_algorithm.listOf? allowed
    simp only [ofJson?, named, each, Option.map_some]

theorem FetchConfig.readsBack : ReadsBack FetchConfig.ofJson? FetchConfig.toJson := by
  intro c
  have fields : c.toJson.fields?
      [["url"], ["timeout_secs"], ["default_cache_ttl_secs"], ["algorithms"]] =
      some [some (.text c.url), some (.ofWord c.timeoutSeconds), some (.ofWord c.defaultCacheTtl),
        some c.algorithms.toJson] := rfl
  have timeout := readsBack_word c.timeoutSeconds
  have ttl := readsBack_word c.defaultCacheTtl
  have algorithms := AlgorithmPolicy.readsBack c.algorithms
  simp only [ofJson?, fields, Option.bind_eq_bind, Option.bind_some, withDefault?, text?, timeout,
    ttl, algorithms]

end Records

/-- Whatever is written is read back as the same value. Hence a document may be replaced by the
compact one of the value that it reads as: it reads as that value again, and an envelope in
compact form is verified with the same answer. -/
theorem documents_read_back :
    (∀ m : Metadata, Metadata.parse? (Bytes.ofText m.text) = some m) ∧
    (∀ e : Envelope, Envelope.parse? (Bytes.ofText e.toJson.render) = some e) ∧
    (∀ c : FetchConfig, FetchConfig.parse? (Bytes.ofText c.toJson.render) = some c) ∧
    (∀ p : AlgorithmPolicy,
      (Json.parse? (Bytes.ofText p.toJson.render)).bind AlgorithmPolicy.ofJson? = some p) ∧
    (∀ document : Bytes,
      (Metadata.parse? document).bind (fun m => Metadata.parse? (Bytes.ofText m.text)) =
        Metadata.parse? document ∧
      (Envelope.parse? document).bind (fun e => Envelope.parse? (Bytes.ofText e.toJson.render)) =
        Envelope.parse? document ∧
      (FetchConfig.parse? document).bind
          (fun c => FetchConfig.parse? (Bytes.ofText c.toJson.render)) =
        FetchConfig.parse? document ∧
      ((Json.parse? document).bind AlgorithmPolicy.ofJson?).bind (fun p =>
          (Json.parse? (Bytes.ofText p.toJson.render)).bind AlgorithmPolicy.ofJson?) =
        (Json.parse? document).bind AlgorithmPolicy.ofJson?) ∧
    ∀ document e keys policy now, Envelope.parse? document = some e →
      verifyEnvelopeAt (Bytes.ofText e.toJson.render) keys policy now =
        verifyEnvelopeAt document keys policy now := by
  refine ⟨Metadata.readsBack.parse?, Envelope.readsBack.parse?, FetchConfig.readsBack.parse?,
    AlgorithmPolicy.readsBack.parse?, fun document => ?_, ?_⟩
  · exact ⟨Metadata.readsBack.reparse? document, Envelope.readsBack.reparse? document,
      FetchConfig.readsBack.reparse? document, AlgorithmPolicy.readsBack.reparse? document⟩
  · intro document e keys policy now read
    have again : Envelope.parse? (Bytes.ofText e.toJson.render) = some e :=
      Envelope.readsBack.parse? e
    rw [verifyEnvelopeAt, verifyEnvelopeAt, read, again]

end FederationTrust
