import FederationTrust.Proofs.KeyFiles
import FederationTrust.Proofs.SignedDocuments
import FederationTrust.Proofs.WellFormedKeys

/-!
# Families of keys

Whoever writes an envelope chooses the algorithm, but not the key: an entry is verified only
by a key of the algorithm's own family, and the family of a key is settled when its file is
read. A file of public keys yields no shared secret, so nothing is accepted that is signed
with one, not even when the octets of a public key are taken for a secret.
-/

namespace FederationTrust

/-- A key of another family than the algorithm's is not tried. -/
theorem Signature.family_of_verify {a : Algorithm} {key : KeyMaterial} {message : Bytes}
    {signature : String} {answer : Bool} (h : verify a key message signature = .ok answer) :
    key.family = a.family := by
  by_cases same : a.family = key.family
  · exact same.symm
  · unfold verify at h
    rw [if_pos same] at h
    cases h

theorem TrustedKey.family_of_verifies {key : TrustedKey} {a : Algorithm}
    {message signature : String} (h : key.verifies a message signature = true) :
    key.material.family = a.family := by
  rw [TrustedKey.verifies] at h
  cases answer : Signature.verify a key.material (Bytes.ofText message) signature with
  | error f =>
    rw [answer] at h
    cases h
  | ok yes => exact Signature.family_of_verify answer

namespace Jwk

def familyOfKind? : String → Option KeyFamily
  | "EC" => some .ec
  | "RSA" => some .rsa
  | "oct" => some .hmac
  | "OKP" => some .ed
  | _ => none

def numbersFamily : JwkNumbers → KeyFamily
  | .ec _ _ => .ec
  | .rsa _ _ => .rsa
  | .oct _ => .hmac
  | .okp _ => .ed

/-- The kind that a key states settles the family of its numbers. -/
theorem States.family {j : Json} {numbers : JwkNumbers} (h : States j numbers) :
    ∃ kind, j.HasCase "kty" kind ∧ familyOfKind? kind = some (numbersFamily numbers) := by
  cases h with
  | ec kind | rsa kind | oct kind | okp kind => exact ⟨_, kind, rfl⟩

/-- Decoding the numbers of a key keeps their family. -/
theorem Decodes.family {numbers : JwkNumbers} {m : KeyMaterial} (h : Decodes numbers m) :
    m.family = numbersFamily numbers := by
  cases h <;> rfl

theorem family_of_material? {k : Jwk} {m : KeyMaterial} (h : k.material? = some m) :
    m.family = numbersFamily k.numbers :=
  ((material?_eq_some_iff k m).mp h).family

/-- A key that is read from a value is of the family of the kind that the value states. -/
theorem family_of_key? {j : Json} {k : Jwk} {key : TrustedKey} (read : ofJson? j = some k)
    (usable : k.key? = some key) :
    ∃ kind, j.HasCase "kty" kind ∧ familyOfKind? kind = some key.material.family := by
  obtain ⟨m, decoded, rfl⟩ := Option.map_eq_some_iff.mp usable
  obtain ⟨-, -, states⟩ := (ofJson?_eq_some_iff k).mp read
  rw [family_of_material? decoded]
  exact states.family

/-- Whether a value states, in either spelling, that it is a shared secret. -/
def IsSecret (j : Json) : Prop :=
  j.HasCase "kty" "oct"

instance : DecidablePred IsSecret :=
  fun _ => decidable_of_iff _ (case?_eq_some_iff "kty" "oct")

theorem isSecret_of_hmac {j : Json} {k : Jwk} {key : TrustedKey} (read : ofJson? j = some k)
    (usable : k.key? = some key) (hmac : key.material.family = .hmac) : IsSecret j := by
  obtain ⟨kind, stated, family⟩ := family_of_key? read usable
  rw [hmac] at family
  unfold familyOfKind? at family
  split at family
  · cases family
  · cases family
  · exact stated
  · cases family
  · cases family

end Jwk

namespace KeySet

/-- The key files without shared secrets: a key in armour, a set of keys of which none is of
that kind, or a single key of another kind. -/
inductive Public (file : Bytes) : Prop where
  | armour {text : String} (holds : fileText? file = some text)
    (begins : (Pem.after? "-----BEGIN".toList text.toList).isSome = true)
  | set {text : String} {j : Json} {items : List Json} (holds : fileText? file = some text)
    (read : Json.parsePlain? (Bytes.ofText text) = some j)
    (listed : j.get? "keys" = some (.array items)) (others : ∀ item ∈ items, ¬ Jwk.IsSecret item)
  | single {text : String} {j : Json} (holds : fileText? file = some text)
    (read : Json.parsePlain? (Bytes.ofText text) = some j) (alone : j.get? "keys" = none)
    (other : ¬ Jwk.IsSecret j)

/-- A key in armour is of one of the three families of public keys. -/
theorem family_of_armoured? {block : Pem.Block} {m : KeyMaterial}
    (h : armoured? block = some m) : m.family ≠ .hmac := by
  simp only [armoured?, Option.bind_eq_bind, Option.bind_eq_some_iff] at h
  obtain ⟨elements, _, h⟩ := h
  split at h
  · cases h
    exact nofun
  · split at h
    · simp only [Option.bind_eq_some_iff] at h
      obtain ⟨family, _, content, _, h⟩ := h
      cases family with
      | hmac => cases h
      | rsa =>
        cases h
        exact nofun
      | ec | ed =>
        dsimp only at h
        split at h
        · cases h
        · cases h
          exact nofun
    · cases h

theorem family_of_ofArmour {text : String} {keys : KeySet} (h : ofArmour text = .ok keys) :
    ∀ key ∈ keys.keys, key.material.family ≠ .hmac := by
  rw [ofArmour] at h
  cases read : (Pem.parse? text).bind armoured? with
  | none =>
    rw [read] at h
    cases h
  | some m =>
    rw [read] at h
    cases h
    obtain ⟨block, _, opened⟩ := Option.bind_eq_some_iff.mp read
    intro key member
    rw [List.mem_singleton.mp member]
    exact family_of_armoured? opened

/-- Each key of a set stands in its list as a value that reads as a key. -/
theorem mem_of_ofJwks {items : List Json} {jwks : List Jwk} {key : TrustedKey}
    (read : items.mapM Jwk.ofJson? = some jwks) (member : key ∈ (ofJwks jwks).keys) :
    ∃ item ∈ items, ∃ k, Jwk.ofJson? item = some k ∧ k.key? = some key := by
  obtain ⟨k, among, usable⟩ := List.mem_filterMap.mp member
  have each : some k ∈ items.map Jwk.ofJson? := by
    rw [(Json.mapM_eq_some_iff _ items jwks).mp read]
    exact List.mem_map_of_mem among
  obtain ⟨item, there, same⟩ := List.mem_map.mp each
  exact ⟨item, there, k, same, usable⟩

theorem family_of_ofJson {j : Json} {keys : KeySet} (h : ofJson j = .ok keys)
    (set : ∀ items, j.get? "keys" = some (.array items) → ∀ item ∈ items, ¬ Jwk.IsSecret item)
    (single : j.get? "keys" = none → ¬ Jwk.IsSecret j) :
    ∀ key ∈ keys.keys, key.material.family ≠ .hmac := by
  intro key member hmac
  rw [ofJson] at h
  cases listed : j.get? "keys" with
  | some members =>
    simp only [listed] at h
    cases read : Json.listOf? Jwk.ofJson? members with
    | none =>
      rw [read] at h
      cases h
    | some jwks =>
      rw [read] at h
      cases h
      cases members with
      | array items =>
        obtain ⟨item, there, k, reads, usable⟩ := mem_of_ofJwks read member
        exact set items listed item there (Jwk.isSecret_of_hmac reads usable hmac)
      | null | bool | number | string | object => cases read
  | none =>
    simp only [listed] at h
    cases read : Jwk.ofJson? j with
    | none =>
      rw [read] at h
      cases h
    | some jwk =>
      simp only [read] at h
      cases usable : jwk.key? with
      | none =>
        rw [usable] at h
        cases h
      | some only =>
        rw [usable] at h
        cases h
        rw [List.mem_singleton.mp member] at hmac
        exact single listed (Jwk.isSecret_of_hmac read usable hmac)

/-- A file without shared secrets yields none. -/
theorem family_of_parse {file : Bytes} {keys : KeySet} (parsed : parse file = .ok keys)
    (h : Public file) : ∀ key ∈ keys.keys, key.material.family ≠ .hmac := by
  have plain {text : String} {j : Json} (holds : fileText? file = some text)
      (read : Json.parsePlain? (Bytes.ofText text) = some j)
      (set : ∀ items, j.get? "keys" = some (.array items) → ∀ item ∈ items, ¬ Jwk.IsSecret item)
      (single : j.get? "keys" = none → ¬ Jwk.IsSecret j) :
      ∀ key ∈ keys.keys, key.material.family ≠ .hmac := by
    rw [parse_of_holds ⟨text, holds, read⟩] at parsed
    exact family_of_ofJson parsed set single
  cases h with
  | armour holds begins =>
    rw [parse_of_armour holds begins] at parsed
    exact family_of_ofArmour parsed
  | set holds read listed others =>
    refine plain holds read ?_ ?_
    · intro items found
      obtain rfl := Json.array.inj (Option.some.inj (listed.symm.trans found))
      exact others
    · intro alone
      rw [alone] at listed
      cases listed
  | single holds read alone other =>
    refine plain holds read ?_ ?_
    · intro items found
      rw [alone] at found
      cases found
    · intro _
      exact other

end KeySet

/-- What is accepted was verified by a key of the set that is of the algorithm's own family,
over the entry that the answer tells of. Where the keys come from a file without shared
secrets, nothing is accepted that is signed with one. -/
theorem verifyEnvelopeAt_by_key_of_family (document : Bytes) (keys : KeySet)
    (policy : AlgorithmPolicy) (now : Instant) (v : VerifiedPayload)
    (accepted : verifyEnvelopeAt document keys policy now = .ok v) :
    (∃ e header signature h, ∃ key ∈ keys.keys, Envelope.parse? document = some e ∧
      e.signatures[v.entryIndex]? = some ⟨some header, some signature⟩ ∧
      ProtectedHeader.ofText? header = some h ∧ h.alg = some v.algorithm.name ∧
      key.material.family = v.algorithm.family ∧
      key.verifies v.algorithm (e.signedText header) signature = true ∧ v.kid = key.kid) ∧
    ∀ file all, KeySet.parse file = .ok all → (∀ key ∈ keys.keys, key ∈ all.keys) →
      KeySet.Public file → v.algorithm ∉ [.hs256, .hs384, .hs512] := by
  obtain ⟨e, parsed, verified⟩ := (verifyEnvelopeAt_eq_ok_iff_parsed _ _ _ _ v).mp accepted
  obtain ⟨entry, key, here, acceptable, found, kid⟩ :=
    ((e.verifyAt_eq_ok_iff keys policy now v).mp verified).entry
  obtain @⟨header, signature, h, _, reads, _, _, named, _, _, _⟩ := acceptable
  have verifies := List.find?_some found
  have member := List.mem_of_find?_eq_some found
  have family := TrustedKey.family_of_verifies verifies
  refine ⟨⟨e, header, signature, h, key, member, parsed, here, reads, named, family, verifies,
    kid⟩, ?_⟩
  intro file all read sub free hmac
  apply KeySet.family_of_parse read free key (sub key member)
  rw [family]
  simp only [List.mem_cons, List.not_mem_nil, or_false] at hmac
  rcases hmac with a | a | a <;> rw [a] <;> rfl

namespace Sample

def modulus : String :=
  "tAsDaQrfPqfan8esUfzY_r-mZV60I4SHqQf1LBh5N1kDad8-UVt_Zp9p1LYzESmcEySHFK3f6hUxyDdElMAv8Q"

def publicKey : Json :=
  .record [("kty", .text "RSA"), ("kid", .text "r"), ("e", .text "Aw"), ("n", .text modulus)]

def publicKeySet : Json :=
  .record [("keys", .array [publicKey])]

def publicKeys : KeySet :=
  .ofKeys [⟨some "r", .rsaNumbers ((Jwk.decode? modulus).getD []) [3]⟩]

/-- An empty object, signed with the private key. -/
def privatelySigned : Envelope :=
  ⟨"e30", [⟨some "eyJleHAiOjksImFsZyI6IlJTMjU2In0",
    some "H6a5kl3_Lurv2Xm5XbBodt_TARULrPoivNIBZ9Ocj-2T01a5sYpYe8oOsDc3a5UGusIWTXLBU5Bc01A7hOF_eQ"⟩]⟩

def accepted : VerifiedPayload :=
  ⟨[0x7B, 0x7D], 0, some "r", .rs256, payloadDigest [0x7B, 0x7D]⟩

theorem holds_publicKeySet :
    KeySet.Holds (Bytes.ofText publicKeySet.render) publicKeySet :=
  KeySet.holds_render rfl

theorem parse_publicKeySet : KeySet.parse (Bytes.ofText publicKeySet.render) = .ok publicKeys := by
  rw [KeySet.parse_of_holds holds_publicKeySet]
  rfl

theorem public_publicKeySet : KeySet.Public (Bytes.ofText publicKeySet.render) := by
  obtain ⟨text, spelled, read⟩ := holds_publicKeySet
  have listed : publicKeySet.get? "keys" = some (.array [publicKey]) := rfl
  exact .set spelled read listed (by decide +kernel)

theorem verifyEnvelopeAt_privatelySigned :
    verifyEnvelopeAt (Bytes.ofText privatelySigned.toJson.render) publicKeys .any ⟨5, 0⟩ =
      .ok accepted := by
  have verified : (privatelySigned.verifyAt publicKeys .any ⟨5, 0⟩).toOption = some accepted := by
    decide +kernel
  refine (verifyEnvelopeAt_eq_ok_iff_parsed _ _ _ _ _).mpr
    ⟨_, Envelope.readsBack.parse? privatelySigned, ?_⟩
  cases answer : privatelySigned.verifyAt publicKeys .any ⟨5, 0⟩ with
  | error f =>
    rw [answer] at verified
    cases verified
  | ok v =>
    rw [answer] at verified
    exact congrArg Except.ok (Option.some.inj verified)

end Sample

theorem privately_signed_object_by_public_key :
    verifyEnvelopeAt (Bytes.ofText Sample.privatelySigned.toJson.render) Sample.publicKeys .any
        ⟨5, 0⟩ = .ok Sample.accepted ∧
      KeySet.parse (Bytes.ofText Sample.publicKeySet.render) = .ok Sample.publicKeys ∧
      KeySet.Public (Bytes.ofText Sample.publicKeySet.render) ∧
      (∃ key ∈ Sample.publicKeys.keys, key.material.family = .rsa ∧ key.kid = some "r") ∧
      Sample.accepted.algorithm ∉ [.hs256, .hs384, .hs512] := by
  have told := verifyEnvelopeAt_by_key_of_family _ Sample.publicKeys .any ⟨5, 0⟩ Sample.accepted
    Sample.verifyEnvelopeAt_privatelySigned
  obtain ⟨⟨_, _, _, _, key, member, _, _, _, _, family, _, kid⟩, noSecret⟩ := told
  exact ⟨Sample.verifyEnvelopeAt_privatelySigned, Sample.parse_publicKeySet,
    Sample.public_publicKeySet, ⟨key, member, family, kid.symm⟩,
    noSecret _ _ Sample.parse_publicKeySet (fun _ member => member) Sample.public_publicKeySet⟩

end FederationTrust
