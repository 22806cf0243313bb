import FederationTrust.Proofs.Trust

/-!
# Why a document is refused

A refused document does not parse, has no entries, or has entries none of which is verified.
Then each entry is counted once. Those whose header tells that they are past are the expired
ones, whatever else is wrong with them, and all others are rejected; so trust has no part in
the numbers, though it decides whether the document is refused.
-/

namespace FederationTrust

/-- Whether the protected header of an entry reads and has an expiry that dates are kept for and
that is strictly before a time. -/
def SignatureEntry.isPast (now : Instant) (entry : SignatureEntry) : Bool :=
  match entry.protectedHeader.bind ProtectedHeader.ofText? with
  | none => false
  | some h => decide (ProtectedHeader.earliest ≤ h.exp ∧ h.exp ≤ ProtectedHeader.latest) &&
    Instant.before ⟨h.exp, 0⟩ now

theorem SignatureEntry.isPast_iff (now : Instant) (entry : SignatureEntry) :
    entry.isPast now = true ↔ ∃ h, entry.unverifiedHeader = .ok h ∧
      (ProtectedHeader.earliest ≤ h.exp ∧ h.exp ≤ ProtectedHeader.latest) ∧
      Instant.before ⟨h.exp, 0⟩ now = true := by
  obtain ⟨_ | header, signature⟩ := entry
  · exact iff_of_false nofun nofun
  · simp only [unverifiedHeader_eq_ok_iff, Option.some.injEq, exists_eq_left', isPast,
      Option.bind_some]
    cases ProtectedHeader.ofText? header with
    | none => exact iff_of_false nofun nofun
    | some h =>
      simp only [Bool.and_eq_true, decide_eq_true_eq, Option.some.injEq, exists_eq_left']

namespace Verification

variable (e : Envelope) (keys : KeySet) (policy : AlgorithmPolicy) (now : Instant)

/-- The entries that are past are the expired ones, under any trust. -/
theorem tryEntry_expired_iff_isPast (entry : SignatureEntry) :
    (∃ t, tryEntry e keys policy now entry = .expired t) ↔ entry.isPast now = true := by
  simp only [tryEntry_eq_expired_iff, SignatureEntry.isPast_iff,
    ProtectedHeader.expiresAt?_eq_some_iff]
  constructor
  · rintro ⟨_, h, read, ⟨range, rfl⟩, past⟩
    exact ⟨h, read, range, past⟩
  · rintro ⟨h, read, range, past⟩
    exact ⟨_, h, read, ⟨range, rfl⟩, past⟩

theorem expiredCount_map_tryEntry (entries : List SignatureEntry) :
    expiredCount (entries.map (tryEntry e keys policy now)) =
      entries.countP (·.isPast now) := by
  rw [expiredCount, List.countP_map]
  refine List.countP_congr fun entry _ => ?_
  rw [← tryEntry_expired_iff_isPast e keys policy now, Function.comp_apply]
  cases tryEntry e keys policy now entry <;> simp

/-- What is not verified is expired or rejected. -/
theorem expiredCount_add_rejectedCount (outcomes : List EntryOutcome)
    (none : ∀ outcome ∈ outcomes, outcome.isVerified = false) :
    expiredCount outcomes + rejectedCount outcomes = outcomes.length := by
  induction outcomes with
  | nil => rfl
  | cons outcome rest ih =>
    obtain ⟨first, others⟩ := List.forall_mem_cons.mp none
    have total := ih others
    rw [expiredCount, rejectedCount] at total ⊢
    rw [List.countP_cons, List.countP_cons, List.length_cons]
    cases outcome with
    | verified payload kid a => cases first
    | expired t => simp; omega
    | rejected reason => simp; omega

end Verification

namespace Envelope

/-- Why an envelope is refused, with the numbers that are told. -/
inductive Refused (e : Envelope) (keys : KeySet) (policy : AlgorithmPolicy) (now : Instant) :
    VerificationError → Prop
  | noSignatures (none : e.signatures = []) : Refused e keys policy now .noSignatures
  | noneVerified {expired rejected : Nat} (some : e.signatures ≠ [])
    (hopeless : ∀ entry ∈ e.signatures, ∀ a, ¬ e.Acceptable keys policy now entry a)
    (past : expired = e.signatures.countP (·.isPast now))
    (total : expired + rejected = e.signatures.length) :
    Refused e keys policy now (.noneVerified expired rejected)

theorem verifyAt_of_hopeless {e : Envelope} {keys : KeySet} {policy : AlgorithmPolicy}
    {now : Instant} (some : e.signatures ≠ [])
    (hopeless : ∀ entry ∈ e.signatures, ∀ a, ¬ e.Acceptable keys policy now entry a) :
    ∃ rejected, e.signatures.countP (·.isPast now) + rejected = e.signatures.length ∧
      e.verifyAt keys policy now =
        .error (.noneVerified (e.signatures.countP (·.isPast now)) rejected) := by
  have none : ∀ entry ∈ e.signatures,
      (Verification.tryEntry e keys policy now entry).isVerified = false := by
    intro entry member
    rw [← Bool.not_eq_true, Verification.isVerified_tryEntry_iff, not_exists]
    exact hopeless entry member
  have total := Verification.expiredCount_add_rejectedCount
    (e.signatures.map (Verification.tryEntry e keys policy now)) (by simpa using none)
  rw [Verification.expiredCount_map_tryEntry, List.length_map] at total
  refine ⟨_, total, ?_⟩
  rw [verifyAt, outcomesAt, Verification.conclude_search_of_none_verified _ _ none, if_neg some,
    Verification.expiredCount_map_tryEntry]

theorem verifyAt_eq_error_iff (e : Envelope) (keys : KeySet) (policy : AlgorithmPolicy)
    (now : Instant) (error : VerificationError) :
    e.verifyAt keys policy now = .error error ↔ e.Refused keys policy now error := by
  constructor
  · intro failed
    have hopeless : ∀ entry ∈ e.signatures, ∀ a, ¬ e.Acceptable keys policy now entry a := by
      intro entry member a acceptable
      obtain ⟨v, accepted⟩ := (e.verifyAt_succeeds_iff keys policy now).mpr
        ⟨entry, member, a, acceptable⟩
      rw [accepted] at failed
      cases failed
    by_cases empty : e.signatures = []
    · rw [verifyAt, outcomesAt, empty] at failed
      cases failed
      exact .noSignatures empty
    · obtain ⟨rejected, total, told⟩ := verifyAt_of_hopeless empty hopeless
      rw [told] at failed
      cases failed
      exact .noneVerified empty hopeless rfl total
  · rintro (empty | @⟨_, rejected, some, hopeless, rfl, total⟩)
    · rw [verifyAt, outcomesAt, empty]
      rfl
    · obtain ⟨rejected', total', told⟩ := verifyAt_of_hopeless some hopeless
      rw [told, Nat.add_left_cancel (total.trans total'.symm)]

/-- The numbers that are told do not depend on the trust that they are told under. -/
theorem Refused.unique {e : Envelope} {keys others : KeySet} {policy another : AlgorithmPolicy}
    {now : Instant} {error other : VerificationError} (one : e.Refused keys policy now error)
    (two : e.Refused others another now other) : error = other := by
  cases one with
  | noSignatures empty =>
    cases two with
    | noSignatures _ => rfl
    | noneVerified some _ _ _ => exact absurd empty some
  | noneVerified some _ past total =>
    cases two with
    | noSignatures empty => exact absurd empty some
    | noneVerified _ _ past' total' =>
      subst past past'
      rw [Nat.add_left_cancel (total.trans total'.symm)]

end Envelope

theorem verifyEnvelopeAt_eq_error_iff (document : Bytes) (keys : KeySet)
    (policy : AlgorithmPolicy) (now : Instant) (error : VerificationError) :
    verifyEnvelopeAt document keys policy now = .error error ↔
      Envelope.parse? document = none ∧ error = .malformed ∨
      ∃ e, Envelope.parse? document = some e ∧ e.Refused keys policy now error := by
  cases parsed : Envelope.parse? document with
  | none => simp [verifyEnvelopeAt, parsed, eq_comm]
  | some e => simp [verifyEnvelopeAt, parsed, Envelope.verifyAt_eq_error_iff]

/-- A document is refused because it does not parse, because it has no entries, or because none
of its entries is acceptable. Then the failure tells how many entries are past, and all others are
rejected. Whatever the keys and the policy are, all refusals of a document at a time are the same. -/
theorem verifyEnvelopeAt_refusal_counts_entries (document : Bytes) (now : Instant) :
    (∀ keys policy failure,
      (verifyEnvelopeAt document keys policy now).mapError VerificationError.failure =
          .error failure ↔
        Envelope.parse? document = none ∧
          failure = .verification "invalid signed envelope: malformed document" ∨
        ∃ e, Envelope.parse? document = some e ∧
          (e.signatures = [] ∧ failure = .verification "no signatures in envelope" ∨
          e.signatures ≠ [] ∧
            (∀ entry ∈ e.signatures, ∀ a, ¬ e.Acceptable keys policy now entry a) ∧
            ∃ expired rejected, expired = e.signatures.countP (·.isPast now) ∧
              expired + rejected = e.signatures.length ∧
              failure = .verification ("no signature entry verified (" ++ toString expired ++
                " expired, " ++ toString rejected ++ " rejected)"))) ∧
    ∀ keys policy others another error other,
      verifyEnvelopeAt document keys policy now = .error error →
      verifyEnvelopeAt document others another now = .error other → error = other := by
  constructor
  · intro keys policy failure
    simp only [mapError_eq_error_iff, verifyEnvelopeAt_eq_error_iff]
    constructor
    · rintro ⟨_, ⟨unread, rfl⟩ | ⟨e, read, none | ⟨some, hopeless, past, total⟩⟩, rfl⟩
      · exact .inl ⟨unread, rfl⟩
      · exact .inr ⟨e, read, .inl ⟨none, rfl⟩⟩
      · exact .inr ⟨e, read, .inr ⟨some, hopeless, _, _, past, total, rfl⟩⟩
    · rintro (⟨unread, rfl⟩ | ⟨e, read, ⟨none, rfl⟩ | ⟨some, hopeless, _, _, past, total, rfl⟩⟩)
      · exact ⟨.malformed, .inl ⟨unread, rfl⟩, rfl⟩
      · exact ⟨.noSignatures, .inr ⟨e, read, .noSignatures none⟩, rfl⟩
      · exact ⟨.noneVerified _ _, .inr ⟨e, read, .noneVerified some hopeless past total⟩, rfl⟩
  · intro keys policy others another error other one two
    rw [verifyEnvelopeAt_eq_error_iff] at one two
    obtain ⟨unread, rfl⟩ | ⟨e, read, refused⟩ := one
    · obtain ⟨_, rfl⟩ | ⟨e, read, _⟩ := two
      · rfl
      · rw [unread] at read
        cases read
    · obtain ⟨unread, _⟩ | ⟨e', read', refused'⟩ := two
      · rw [unread] at read
        cases read
      · obtain rfl : e = e' := Option.some.inj (read.symm.trans read')
        exact refused.unique refused'

set_option maxRecDepth 20000 in
/-- A signed entry that is past counts as expired also where its algorithm is not permitted. -/
example : verifyEnvelopeAt (Sample.document [Sample.signedEntry, .record []]) Sample.keys
    (.pinned [.es256]) ⟨9, 1⟩ = .error (.noneVerified 1 1) := rfl

end FederationTrust
