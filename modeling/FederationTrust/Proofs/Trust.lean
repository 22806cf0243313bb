import FederationTrust.Proofs.Acceptance

/-!
# More trust and less

An envelope is verified under trust: keys, a policy and a time. More keys, a policy that
permits more and an earlier time let through what less trust lets through, perhaps by an
earlier entry. What is let through does not depend on the trust at all, as the payload is
that of the document.

Keys count by their material. In which order they are given, and how often, decides only
which of them is named.
-/

namespace FederationTrust

/-- The material of each key of the one set is that of some key of the other. -/
def KeySet.Within (keys more : KeySet) : Prop :=
  ∀ key ∈ keys.keys, ∃ other ∈ more.keys, other.material = key.material

def AlgorithmPolicy.Within (policy wider : AlgorithmPolicy) : Prop :=
  ∀ a, policy.permits a = true → wider.permits a = true

def VerifiedPayload.withoutKid (v : VerifiedPayload) : VerifiedPayload :=
  { v with kid := none }

/-- An outcome without what the order of the keys decides: the name of the key that verified
the entry, or the reason for which the last key did not. -/
def EntryOutcome.withoutKeys : EntryOutcome → EntryOutcome
  | .verified payload _ a => .verified payload none a
  | .expired t => .expired t
  | .rejected _ => .rejected .mismatch

section

variable {keys more : KeySet} {policy wider : AlgorithmPolicy} {now sooner : Instant}

/-- A key verifies by its material alone. -/
theorem TrustedKey.verifies_congr {key other : TrustedKey} (same : other.material = key.material)
    (a : Algorithm) (message signature : String) :
    other.verifies a message signature = key.verifies a message signature := by
  rw [TrustedKey.verifies, TrustedKey.verifies, same]

/-- What is not past at a time was not past at any time before. -/
theorem Instant.unexpired_of_sooner {exp : Int} (early : now.before sooner = false)
    (unexpired : now.seconds < exp ∨ now.seconds = exp ∧ now.nanos = 0) :
    sooner.seconds < exp ∨ sooner.seconds = exp ∧ sooner.nanos = 0 := by
  simp only [Instant.before, Bool.or_eq_false_iff, Bool.and_eq_false_iff,
    decide_eq_false_iff_not] at early
  omega

/-- More trust keeps an entry acceptable, with the same algorithm. -/
theorem Envelope.Acceptable.mono {e : Envelope} {entry : SignatureEntry} {a : Algorithm}
    (among : keys.Within more) (permits : policy.Within wider)
    (early : now.before sooner = false) (h : e.Acceptable keys policy now entry a) :
    e.Acceptable more wider sooner entry a := by
  obtain ⟨reads, representable, unexpired, named, permitted, ⟨key, member, verified⟩, decodes⟩ := h
  obtain ⟨other, there, same⟩ := among key member
  refine .intro reads representable (Instant.unexpired_of_sooner early unexpired) named
    (permits a permitted) ⟨other, there, ?_⟩ decodes
  rw [TrustedKey.verifies_congr same]
  exact verified

/-- Under any two kinds of trust a document that is accepted has one payload. -/
theorem verifyEnvelopeAt_payload_unique {document : Bytes} {v w : VerifiedPayload}
    (one : verifyEnvelopeAt document keys policy now = .ok v)
    (two : verifyEnvelopeAt document more wider sooner = .ok w) :
    w.payload = v.payload ∧ w.digest = v.digest := by
  obtain ⟨e, parsed, first⟩ := (verifyEnvelopeAt_eq_ok_iff_parsed _ _ _ _ v).mp one
  obtain ⟨e', parsed', second⟩ := (verifyEnvelopeAt_eq_ok_iff_parsed _ _ _ _ w).mp two
  obtain rfl : e = e' := Option.some.inj (parsed.symm.trans parsed')
  have first := (e.verifyAt_eq_ok_iff keys policy now v).mp first
  have second := (e.verifyAt_eq_ok_iff more wider sooner w).mp second
  have payload : w.payload = v.payload := Option.some.inj (second.payload.symm.trans first.payload)
  refine ⟨payload, ?_⟩
  rw [second.digest, first.digest, payload]

/-- More trust accepts what less trust accepts, by the same entry or one before it. -/
theorem verifyEnvelopeAt_of_more_trust {document : Bytes} {v : VerifiedPayload}
    (among : keys.Within more) (permits : policy.Within wider)
    (early : now.before sooner = false)
    (accepted : verifyEnvelopeAt document keys policy now = .ok v) :
    ∃ w, verifyEnvelopeAt document more wider sooner = .ok w ∧ w.entryIndex ≤ v.entryIndex := by
  obtain ⟨e, parsed, verified⟩ := (verifyEnvelopeAt_eq_ok_iff_parsed _ _ _ _ v).mp accepted
  obtain ⟨entry, key, here, acceptable, _, _⟩ :=
    ((e.verifyAt_eq_ok_iff keys policy now v).mp verified).entry
  obtain ⟨w, answer, _, _, index⟩ :=
    Envelope.verifyAt_of_acceptable here (acceptable.mono among permits early)
  exact ⟨w, (verifyEnvelopeAt_eq_ok_iff_parsed _ _ _ _ w).mpr ⟨e, parsed, answer⟩, index⟩

namespace Verification

/-- Whether an entry is expired depends on nothing but its header and the time. -/
theorem tryEntry_eq_expired_iff (e : Envelope) (keys : KeySet) (policy : AlgorithmPolicy)
    (now : Instant) (entry : SignatureEntry) (t : Int) :
    tryEntry e keys policy now entry = .expired t ↔
      ∃ h, entry.unverifiedHeader = .ok h ∧ h.expiresAt? = some t ∧
        Instant.before ⟨t, 0⟩ now = true := by
  cases read : entry.unverifiedHeader with
  | error f => simp [tryEntry, read]
  | ok h =>
    simp only [Except.ok.injEq, exists_eq_left']
    cases expiry : h.expiresAt? with
    | none => simp [tryEntry, read, expiry]
    | some u =>
      cases past : Instant.before ⟨u, 0⟩ now with
      | true =>
        simp only [tryEntry, read, expiry, past, if_true, EntryOutcome.expired.injEq,
          Option.some.injEq]
        constructor
        · rintro rfl
          exact ⟨rfl, past⟩
        · exact And.left
      | false =>
        have alive : ¬ (some u = some t ∧ Instant.before ⟨t, 0⟩ now = true) := by
          rintro ⟨same, ended⟩
          rw [← Option.some.inj same, past] at ended
          cases ended
        simp only [tryEntry, read, expiry, past, Bool.false_eq_true, if_false, alive, iff_false]
        cases check : checkEntry e keys policy entry h with
        | error reason =>
          intro told
          cases told
        | ok outcome =>
          have passes := (checkEntry_eq_ok_iff e keys policy entry h _).mp check
          obtain ⟨_, _, _, _, _, _, _, rfl⟩ := passes
          intro told
          cases told

/-- An entry that one of two sets of the same material verifies, the other verifies too. -/
theorem tryEntry_verified_of_same_material {e : Envelope} {entry : SignatureEntry}
    {payload : Bytes} {kid : Option String} {a : Algorithm} (among : keys.Within more)
    (verified : tryEntry e keys policy now entry = .verified payload kid a) :
    ∃ other, tryEntry e more policy now entry = .verified payload other a := by
  obtain ⟨acceptable, _, decoded⟩ := (tryEntry_eq_verified_iff e keys policy now entry _ _ _).mp
    verified
  have still := acceptable.mono among (fun _ permitted => permitted)
    (show now.before now = false by simp [Instant.before])
  obtain ⟨payload', other, verified'⟩ := tryEntry_of_acceptable still
  obtain ⟨_, _, decoded'⟩ := (tryEntry_eq_verified_iff e more policy now entry _ _ _).mp verified'
  obtain rfl : payload = payload' := Option.some.inj (decoded.symm.trans decoded')
  exact ⟨other, verified'⟩

/-- Sets of the same material tell the same of an entry, but for what names a key. -/
theorem tryEntry_withoutKeys (e : Envelope) (entry : SignatureEntry) (among : keys.Within more)
    (back : more.Within keys) :
    (tryEntry e keys policy now entry).withoutKeys =
      (tryEntry e more policy now entry).withoutKeys := by
  cases one : tryEntry e keys policy now entry with
  | verified payload kid a =>
    obtain ⟨other, two⟩ := tryEntry_verified_of_same_material among one
    rw [two]
    rfl
  | expired t =>
    have two : tryEntry e more policy now entry = .expired t :=
      (tryEntry_eq_expired_iff e more policy now entry t).mpr
        ((tryEntry_eq_expired_iff e keys policy now entry t).mp one)
    rw [two]
  | rejected reason =>
    cases two : tryEntry e more policy now entry with
    | verified payload kid a =>
      obtain ⟨other, again⟩ := tryEntry_verified_of_same_material back two
      rw [one] at again
      cases again
    | expired t =>
      have again := (tryEntry_eq_expired_iff e keys policy now entry t).mpr
        ((tryEntry_eq_expired_iff e more policy now entry t).mp two)
      rw [one] at again
      cases again
    | rejected other => rfl

/-- A search forgets keys at its end or at each entry. -/
theorem map_withoutKeys_search (judge : SignatureEntry → EntryOutcome)
    (entries : List SignatureEntry) :
    (search judge entries).map EntryOutcome.withoutKeys =
      search (fun entry => (judge entry).withoutKeys) entries := by
  induction entries with
  | nil => rfl
  | cons entry rest ih =>
    cases outcome : judge entry with
    | verified payload kid a => simp [search, outcome, EntryOutcome.withoutKeys]
    | expired t => simp [search, outcome, EntryOutcome.withoutKeys, ih]
    | rejected reason => simp [search, outcome, EntryOutcome.withoutKeys, ih]

/-- What a search concludes counts expired and rejected entries, whatever the reasons. -/
theorem conclude_map_withoutKeys (outcomes : List EntryOutcome) :
    conclude (outcomes.map EntryOutcome.withoutKeys) =
      (conclude outcomes).map VerifiedPayload.withoutKid := by
  have expired : expiredCount (outcomes.map EntryOutcome.withoutKeys) = expiredCount outcomes := by
    unfold expiredCount
    rw [List.countP_map]
    congr 1
    funext outcome
    cases outcome <;> rfl
  have rejected :
      rejectedCount (outcomes.map EntryOutcome.withoutKeys) = rejectedCount outcomes := by
    unfold rejectedCount
    rw [List.countP_map]
    congr 1
    funext outcome
    cases outcome <;> rfl
  unfold conclude
  rw [List.getLast?_map, expired, rejected, List.length_map]
  cases outcomes.getLast? with
  | none => rfl
  | some outcome => cases outcome <;> rfl

end Verification

/-- Sets of the same material accept the same documents for the same entries, and refuse the
others with the same error; they may name different keys. -/
theorem verifyEnvelopeAt_withoutKid (document : Bytes) (policy : AlgorithmPolicy) (now : Instant)
    (among : keys.Within more) (back : more.Within keys) :
    (verifyEnvelopeAt document keys policy now).map VerifiedPayload.withoutKid =
      (verifyEnvelopeAt document more policy now).map VerifiedPayload.withoutKid := by
  unfold verifyEnvelopeAt
  cases Envelope.parse? document with
  | none => rfl
  | some e =>
    show (e.verifyAt keys policy now).map _ = (e.verifyAt more policy now).map _
    unfold Envelope.verifyAt Envelope.outcomesAt
    rw [← Verification.conclude_map_withoutKeys, ← Verification.conclude_map_withoutKeys,
      Verification.map_withoutKeys_search, Verification.map_withoutKeys_search]
    congr 2
    funext entry
    exact Verification.tryEntry_withoutKeys e entry among back

end

/-- More keys, a wider policy and an earlier time accept what was accepted, by the same entry
or an earlier one, with the same payload. The payload and its digest are the same under any
trust that accepts the document. When keys merely change places or are repeated, the answer
stays as it is, index, algorithm and error included, but for the name of the key. -/
theorem verifyEnvelopeAt_monotone_in_trust (document : Bytes) (keys : KeySet)
    (policy : AlgorithmPolicy) (now : Instant) :
    (∀ more wider sooner v, keys.Within more → policy.Within wider → now.before sooner = false →
      verifyEnvelopeAt document keys policy now = .ok v →
      ∃ w, verifyEnvelopeAt document more wider sooner = .ok w ∧ w.entryIndex ≤ v.entryIndex ∧
        w.payload = v.payload ∧ w.digest = v.digest) ∧
    (∀ others another time v w, verifyEnvelopeAt document keys policy now = .ok v →
      verifyEnvelopeAt document others another time = .ok w →
      w.payload = v.payload ∧ w.digest = v.digest) ∧
    ∀ more, keys.Within more → more.Within keys →
      (verifyEnvelopeAt document keys policy now).map VerifiedPayload.withoutKid =
        (verifyEnvelopeAt document more policy now).map VerifiedPayload.withoutKid := by
  refine ⟨?_, ?_, ?_⟩
  · intro more wider sooner v among permits early accepted
    obtain ⟨w, answer, index⟩ := verifyEnvelopeAt_of_more_trust among permits early accepted
    obtain ⟨payload, digest⟩ := verifyEnvelopeAt_payload_unique accepted answer
    exact ⟨w, answer, index, payload, digest⟩
  · intro others another time v w one two
    exact verifyEnvelopeAt_payload_unique one two
  · intro more among back
    exact verifyEnvelopeAt_withoutKid document policy now among back

namespace Sample

/-- The shared secret under two names, behind a key of another family. -/
def renamedKeys : KeySet :=
  .ofKeys [⟨none, .ecPoint [0x04]⟩, ⟨some "j", .secret [0x6B]⟩, ⟨some "k", .secret [0x6B]⟩]

def turnedKeys : KeySet :=
  .ofKeys renamedKeys.keys.reverse

end Sample

set_option maxRecDepth 20000 in
/-- More keys, a wider policy and an earlier time let a document through as before, though the
secret now goes by another name; in another order of the keys it has its old name again. -/
theorem signed_document_under_more_trust :
    let signed := Sample.document [Sample.signedEntry]
    Sample.keys.Within Sample.renamedKeys ∧
    (AlgorithmPolicy.pinned [.hs256]).Within (.pinned [.es256, .hs256]) ∧
    Instant.before ⟨5, 0⟩ ⟨4, 7⟩ = false ∧
    (∃ w, verifyEnvelopeAt signed Sample.renamedKeys (.pinned [.es256, .hs256]) ⟨4, 7⟩ = .ok w ∧
      w.entryIndex ≤ 0 ∧ w.payload = [0x7B, 0x7D] ∧ w.digest = payloadDigest [0x7B, 0x7D]) ∧
    Sample.renamedKeys.Within Sample.turnedKeys ∧ Sample.turnedKeys.Within Sample.renamedKeys ∧
    (verifyEnvelopeAt signed Sample.renamedKeys .any ⟨5, 0⟩).map VerifiedPayload.withoutKid =
      (verifyEnvelopeAt signed Sample.turnedKeys .any ⟨5, 0⟩).map VerifiedPayload.withoutKid ∧
    (verifyEnvelopeAt signed Sample.renamedKeys .any ⟨5, 0⟩).toOption.map (·.kid) =
      some (some "j") ∧
    (verifyEnvelopeAt signed Sample.turnedKeys .any ⟨5, 0⟩).toOption.map (·.kid) =
      some (some "k") := by
  intro signed
  have among : Sample.keys.Within Sample.renamedKeys := by
    unfold KeySet.Within
    decide
  have permits : (AlgorithmPolicy.pinned [.hs256]).Within (.pinned [.es256, .hs256]) := by
    intro a
    cases a <;> decide
  have accepted : verifyEnvelopeAt signed Sample.keys (.pinned [.hs256]) ⟨5, 0⟩ =
      .ok ⟨[0x7B, 0x7D], 0, some "k", .hs256, payloadDigest [0x7B, 0x7D]⟩ := rfl
  have turned : Sample.renamedKeys.Within Sample.turnedKeys := by
    unfold KeySet.Within
    decide
  have back : Sample.turnedKeys.Within Sample.renamedKeys := by
    unfold KeySet.Within
    decide
  obtain ⟨grows, -, -⟩ := verifyEnvelopeAt_monotone_in_trust signed Sample.keys
    (.pinned [.hs256]) ⟨5, 0⟩
  obtain ⟨-, -, turns⟩ := verifyEnvelopeAt_monotone_in_trust signed Sample.renamedKeys .any ⟨5, 0⟩
  exact ⟨among, permits, rfl, grows _ _ _ _ among permits rfl accepted, turned, back,
    turns _ turned back, rfl, rfl⟩

end FederationTrust
