import FederationTrust.Proofs.Acceptance
import FederationTrust.Proofs.Base64
import FederationTrust.Proofs.WrittenDocuments

/-!
# Documents that were signed

Whoever signs encodes a header and a payload, signs the two texts, and writes a document with the
signature among other entries. Read back, the document is the envelope that was written, the
header is the one that was encoded, and the message that is verified is the one that was signed.
So the payload is accepted, whatever its octets and whatever the entries around the signature.
-/

namespace FederationTrust

/-- A header is read back from the text that its octets are encoded in. -/
theorem ProtectedHeader.ofText?_encodeUrlSafe (header : Bytes) :
    ofText? (encodeUrlSafe header) = (Json.parse? header).bind ofJson? := by
  rw [ofText?, decodeTolerant?_encodeUrlSafe, Option.bind_some]

/-- A payload that was signed with a trusted key under a header that still holds is accepted from
the document it was written in, whatever entries stand before and after the signature. -/
theorem verifyEnvelopeAt_of_signed (payload header : Bytes) (signature : String)
    (h : ProtectedHeader) (a : Algorithm) (key : TrustedKey) (keys : KeySet)
    (policy : AlgorithmPolicy) (now : Instant) (before after : List SignatureEntry)
    (reads : (Json.parse? header).bind ProtectedHeader.ofJson? = some h)
    (representable : ProtectedHeader.earliest ≤ h.exp ∧ h.exp ≤ ProtectedHeader.latest)
    (unexpired : now.seconds < h.exp ∨ now.seconds = h.exp ∧ now.nanos = 0)
    (named : h.alg = some a.name) (permitted : policy.permits a = true)
    (trusted : key ∈ keys.keys)
    (verified : key.verifies a (encodeUrlSafe header ++ "." ++ encodeUrlSafe payload) signature =
      true) :
    ∃ v, verifyEnvelopeAt (Bytes.ofText (Envelope.toJson ⟨encodeUrlSafe payload,
        before ++ ⟨some (encodeUrlSafe header), some signature⟩ :: after⟩).render) keys policy now =
        .ok v ∧
      v.payload = payload ∧ v.digest = payloadDigest payload ∧ v.entryIndex ≤ before.length := by
  let entry : SignatureEntry := ⟨some (encodeUrlSafe header), some signature⟩
  let e : Envelope := ⟨encodeUrlSafe payload, before ++ entry :: after⟩
  have decoded : decodeTolerant? e.payload = some payload := decodeTolerant?_encodeUrlSafe payload
  have here : e.signatures[before.length]? = some entry := by simp [e]
  have acceptable : e.Acceptable keys policy now entry a := by
    refine .intro (h := h) ?_ representable unexpired named permitted ⟨key, trusted, verified⟩ ?_
    · rw [ProtectedHeader.ofText?_encodeUrlSafe, reads]
    · rw [decoded]
      rfl
  obtain ⟨v, accepted, payload', digest, index⟩ := Envelope.verifyAt_of_acceptable here acceptable
  obtain rfl : payload = v.payload := Option.some.inj (decoded.symm.trans payload')
  refine ⟨v, ?_, rfl, digest, index⟩
  exact (verifyEnvelopeAt_eq_ok_iff_parsed _ _ _ _ v).mpr ⟨e, Envelope.readsBack.parse? e, accepted⟩

namespace Sample

/-- A header that holds up to the ninth second. -/
def header : Bytes :=
  Bytes.ofAscii "\x7b\"exp\":9,\"alg\":\"HS256\"\x7d"

/-- An empty object, signed with the shared secret under that header, after an entry that lacks
its signature. -/
def signedObject : Envelope :=
  ⟨encodeUrlSafe [0x7B, 0x7D], [⟨some "e30", none⟩] ++ ⟨some (encodeUrlSafe header),
    some "W-Tv-dsKPShJy-WXZU9txdARnLibLXwHJx7gUPrsfg8"⟩ :: []⟩

end Sample

set_option maxRecDepth 20000 in
theorem signed_object_accepted :
    ∃ v, verifyEnvelopeAt (Bytes.ofText Sample.signedObject.toJson.render) Sample.keys .any ⟨5, 0⟩ =
        .ok v ∧
      v.payload = [0x7B, 0x7D] ∧ v.digest = payloadDigest [0x7B, 0x7D] ∧ v.entryIndex ≤ 1 :=
  verifyEnvelopeAt_of_signed [0x7B, 0x7D] Sample.header
    "W-Tv-dsKPShJy-WXZU9txdARnLibLXwHJx7gUPrsfg8" ⟨9, some "HS256", none⟩ .hs256
    ⟨some "k", .secret [0x6B]⟩ Sample.keys .any ⟨5, 0⟩ [⟨some "e30", none⟩] []
    rfl (by decide) (by decide) rfl rfl List.mem_cons_self rfl

end FederationTrust
