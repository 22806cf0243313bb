import FederationTrust.Proofs.Attempts
import FederationTrust.Verification

/-!
# Acceptable entries

An entry of an envelope is acceptable when its protected header reads, has a representable
expiry that is not past and names an algorithm that the policy permits, when header and
signature are both there, when some trusted key verifies the signature over the header and
the payload as the document writes them, and when the payload decodes.

Verification succeeds exactly on documents with an acceptable entry and tells of the first
one. How one key checks one signature plays no part here.
-/

namespace FederationTrust

def TrustedKey.verifies (key : TrustedKey) (a : Algorithm) (message signature : String) : Bool :=
  match Signature.verify a key.material (Bytes.ofText message) signature with
  | .ok answer => answer
  | .error _ => false

def EntryOutcome.isVerified : EntryOutcome → Bool
  | .verified _ _ _ => true
  | _ => false

def ProtectedHeader.ofText? (s : String) : Option ProtectedHeader :=
  (decodeTolerant? s).bind fun b => (Json.parse? b).bind ofJson?

namespace Envelope

/-- What is signed together with a header: both texts as the document writes them. -/
def signedText (e : Envelope) (header : String) : String :=
  header ++ "." ++ e.payload

/-- The first key in the order of the key file that verifies an entry. -/
def firstKey? (e : Envelope) (keys : KeySet) (a : Algorithm) : SignatureEntry → Option TrustedKey
  | ⟨some header, some signature⟩ =>
    keys.keys.find? fun key => key.verifies a (e.signedText header) signature
  | _ => none

/-- The entries that may decide, each with the algorithm that its header names. -/
inductive Acceptable (e : Envelope) (keys : KeySet) (policy : AlgorithmPolicy) (now : Instant) :
    SignatureEntry → Algorithm → Prop
  | intro {header signature : String} {h : ProtectedHeader} {a : Algorithm}
      (reads : ProtectedHeader.ofText? header = some h)
      (representable : ProtectedHeader.earliest ≤ h.exp ∧ h.exp ≤ ProtectedHeader.latest)
      (unexpired : now.seconds < h.exp ∨ now.seconds = h.exp ∧ now.nanos = 0)
      (named : h.alg = some a.name)
      (permitted : policy.permits a = true)
      (verified : ∃ key ∈ keys.keys, key.verifies a (e.signedText header) signature = true)
      (decodes : (decodeTolerant? e.payload).isSome = true) :
      Acceptable e keys policy now ⟨some header, some signature⟩ a

/-- What a verified payload tells of the first acceptable entry. -/
structure FirstAccepted (e : Envelope) (keys : KeySet) (policy : AlgorithmPolicy) (now : Instant)
    (v : VerifiedPayload) : Prop where
  entry : ∃ entry key, e.signatures[v.entryIndex]? = some entry ∧
    e.Acceptable keys policy now entry v.algorithm ∧
    e.firstKey? keys v.algorithm entry = some key ∧ v.kid = key.kid
  least : ∀ i, i < v.entryIndex → ∀ other, e.signatures[i]? = some other →
    ∀ a, ¬ e.Acceptable keys policy now other a
  payload : decodeTolerant? e.payload = some v.payload
  digest : v.digest = payloadDigest v.payload

end Envelope

theorem EntryOutcome.isVerified_iff {outcome : EntryOutcome} :
    outcome.isVerified = true ↔ ∃ payload kid a, outcome = .verified payload kid a := by
  cases outcome <;> simp [isVerified]

theorem SignatureEntry.unverifiedHeader_eq_ok_iff (entry : SignatureEntry) (h : ProtectedHeader) :
    entry.unverifiedHeader = .ok h ↔
      ∃ header, entry.protectedHeader = some header ∧ ProtectedHeader.ofText? header = some h := by
  obtain ⟨header, signature⟩ := entry
  cases header with
  | none => simp [unverifiedHeader]
  | some header =>
    cases decoded : decodeTolerant? header with
    | none => simp [unverifiedHeader, ProtectedHeader.ofText?, decoded]
    | some b =>
      cases read : (Json.parse? b).bind ProtectedHeader.ofJson? <;>
        simp [unverifiedHeader, ProtectedHeader.ofText?, decoded, read]

theorem ProtectedHeader.expiresAt?_eq_some_iff (h : ProtectedHeader) (t : Int) :
    h.expiresAt? = some t ↔ (earliest ≤ h.exp ∧ h.exp ≤ latest) ∧ h.exp = t := by
  by_cases range : earliest ≤ h.exp ∧ h.exp ≤ latest
  · simp [expiresAt?, range]
  · simp [expiresAt?, range]

theorem Instant.before_wholeSecond (t : Int) (now : Instant) :
    Instant.before ⟨t, 0⟩ now = false ↔ now.seconds < t ∨ now.seconds = t ∧ now.nanos = 0 := by
  simp only [before, Bool.or_eq_false_iff, Bool.and_eq_false_iff, decide_eq_false_iff_not]
  omega

theorem Envelope.signingInput_eq_ok_iff (e : Envelope) (entry : SignatureEntry)
    (message signature : String) :
    e.signingInput entry = .ok (message, signature) ↔
      ∃ header, entry = ⟨some header, some signature⟩ ∧ e.signedText header = message := by
  obtain ⟨header, s⟩ := entry
  cases header with
  | none => simp [signingInput]
  | some header =>
    cases s with
    | none => simp [signingInput]
    | some s =>
      simp only [signingInput, signedText, Except.ok.injEq, Prod.mk.injEq,
        SignatureEntry.mk.injEq, Option.some.injEq]
      constructor
      · rintro ⟨text, same⟩
        exact ⟨header, ⟨rfl, same⟩, text⟩
      · rintro ⟨other, ⟨rfl, same⟩, text⟩
        exact ⟨text, same⟩

theorem Envelope.firstKey?_isSome_iff (e : Envelope) (keys : KeySet) (a : Algorithm)
    (header signature : String) :
    (e.firstKey? keys a ⟨some header, some signature⟩).isSome = true ↔
      ∃ key ∈ keys.keys, key.verifies a (e.signedText header) signature = true := by
  simp [firstKey?]

namespace Verification

theorem chooseAlgorithm_eq_ok_iff (policy : AlgorithmPolicy) (h : ProtectedHeader)
    (a : Algorithm) :
    chooseAlgorithm policy h = .ok a ↔ h.alg = some a.name ∧ policy.permits a = true := by
  obtain ⟨exp, alg, kid⟩ := h
  cases alg with
  | none => simp [chooseAlgorithm]
  | some name =>
    cases known : Algorithm.ofName? name with
    | none =>
      have unnamed : name ≠ a.name := by
        rintro rfl
        simp [Algorithm.ofName?_name] at known
      simp [chooseAlgorithm, known, unnamed]
    | some b =>
      have named := Algorithm.name_of_ofName? known
      subst named
      by_cases permitted : policy.permits b
      · simp only [chooseAlgorithm, known, permitted, if_true, Except.ok.injEq, Option.some.injEq]
        constructor
        · rintro rfl
          exact ⟨rfl, permitted⟩
        · exact fun h => Algorithm.name_injective h.1
      · simp only [chooseAlgorithm, known, if_neg permitted, reduceCtorEq, Option.some.injEq,
          false_iff]
        rintro ⟨same, other⟩
        exact permitted (Algorithm.name_injective same ▸ other)

/-- Neither a key that says no nor one that faults ends the search for a key. -/
theorem tryKeys_eq_ok_iff (a : Algorithm) (message signature : String) (keys : List TrustedKey)
    (last : Rejection) (kid : Option String) :
    tryKeys (fun m => Signature.verify a m (Bytes.ofText message) signature) last keys = .ok kid ↔
      ∃ key, keys.find? (fun key => key.verifies a message signature) = some key ∧
        key.kid = kid := by
  induction keys generalizing last with
  | nil => simp [tryKeys]
  | cons key rest ih =>
    cases answer : Signature.verify a key.material (Bytes.ofText message) signature with
    | error f =>
      have no : key.verifies a message signature = false := by
        simp [TrustedKey.verifies, answer]
      simp only [tryKeys, answer, List.find?_cons, no]
      exact ih _
    | ok yes =>
      have same : key.verifies a message signature = yes := by
        simp [TrustedKey.verifies, answer]
      cases yes with
      | true => simp [tryKeys, answer, same]
      | false =>
        simp only [tryKeys, answer, List.find?_cons, same]
        exact ih _

/-- The key that verifies an entry is looked for only when both parts of the entry are there. -/
theorem verifySignature_eq_ok_iff (e : Envelope) (keys : KeySet) (a : Algorithm)
    (entry : SignatureEntry) (kid : Option String) :
    (∃ message signature, e.signingInput entry = .ok (message, signature) ∧
        verifySignature keys a message signature = .ok kid) ↔
      ∃ key, e.firstKey? keys a entry = some key ∧ key.kid = kid := by
  constructor
  · rintro ⟨message, signature, input, found⟩
    obtain ⟨header, rfl, rfl⟩ := (e.signingInput_eq_ok_iff entry message signature).mp input
    exact (tryKeys_eq_ok_iff a _ signature keys.keys .noKeys kid).mp found
  · rintro ⟨key, found, same⟩
    obtain ⟨_ | header, _ | signature⟩ := entry
    · cases found
    · cases found
    · cases found
    · refine ⟨e.signedText header, signature, ?_, ?_⟩
      · exact (e.signingInput_eq_ok_iff _ _ _).mpr ⟨header, rfl, rfl⟩
      · exact (tryKeys_eq_ok_iff a _ signature keys.keys .noKeys kid).mpr ⟨key, found, same⟩

/-- What stands between a header that is not expired and a verified entry. -/
theorem checkEntry_eq_ok_iff (e : Envelope) (keys : KeySet) (policy : AlgorithmPolicy)
    (entry : SignatureEntry) (h : ProtectedHeader) (outcome : EntryOutcome) :
    checkEntry e keys policy entry h = .ok outcome ↔
      ∃ a key payload, h.alg = some a.name ∧ policy.permits a = true ∧
        e.firstKey? keys a entry = some key ∧ decodeTolerant? e.payload = some payload ∧
        outcome = .verified payload key.kid a := by
  simp only [checkEntry, Envelope.payloadBytes?, exceptBind_eq_ok_iff, chooseAlgorithm_eq_ok_iff,
    mapError_eq_ok_iff]
  constructor
  · rintro ⟨a, ⟨named, permitted⟩, ⟨message, signature⟩, input, kid, found, last⟩
    obtain ⟨key, first, rfl⟩ :=
      (verifySignature_eq_ok_iff e keys a entry kid).mp ⟨message, signature, input, found⟩
    cases decoded : decodeTolerant? e.payload with
    | none => simp [decoded, throw, throwThe, MonadExceptOf.throw] at last
    | some payload =>
      simp only [decoded, pure, Except.pure, Except.ok.injEq] at last
      exact ⟨a, key, payload, named, permitted, first, rfl, last.symm⟩
  · rintro ⟨a, key, payload, named, permitted, first, decoded, rfl⟩
    obtain ⟨message, signature, input, found⟩ :=
      (verifySignature_eq_ok_iff e keys a entry key.kid).mpr ⟨key, first, rfl⟩
    refine ⟨a, ⟨named, permitted⟩, ⟨message, signature⟩, input, key.kid, found, ?_⟩
    simp [decoded, pure, Except.pure]

/-- The stages of an entry before its algorithm is looked at. -/
theorem tryEntry_eq_verified_iff_check (e : Envelope) (keys : KeySet) (policy : AlgorithmPolicy)
    (now : Instant) (entry : SignatureEntry) (payload : Bytes) (kid : Option String)
    (a : Algorithm) :
    tryEntry e keys policy now entry = .verified payload kid a ↔
      ∃ h, entry.unverifiedHeader = .ok h ∧
        (ProtectedHeader.earliest ≤ h.exp ∧ h.exp ≤ ProtectedHeader.latest) ∧
        (now.seconds < h.exp ∨ now.seconds = h.exp ∧ now.nanos = 0) ∧
        checkEntry e keys policy entry h = .ok (.verified payload kid a) := by
  cases read : entry.unverifiedHeader with
  | error f => simp [tryEntry, read]
  | ok h =>
    simp only [Except.ok.injEq, exists_eq_left']
    cases expiry : h.expiresAt? with
    | none =>
      have range : ¬ (ProtectedHeader.earliest ≤ h.exp ∧ h.exp ≤ ProtectedHeader.latest) := by
        intro range
        rw [(h.expiresAt?_eq_some_iff h.exp).mpr ⟨range, rfl⟩] at expiry
        cases expiry
      simp [tryEntry, read, expiry, range]
    | some t =>
      obtain ⟨range, rfl⟩ := (h.expiresAt?_eq_some_iff t).mp expiry
      rw [← Instant.before_wholeSecond]
      cases past : Instant.before ⟨h.exp, 0⟩ now with
      | true => simp [tryEntry, read, expiry, past]
      | false =>
        cases check : checkEntry e keys policy entry h with
        | error reason => simp [tryEntry, read, expiry, past, check]
        | ok outcome => simp [tryEntry, read, expiry, past, check, range]

/-- An entry is verified when it is acceptable, by the first key that verifies it. -/
theorem tryEntry_eq_verified_iff (e : Envelope) (keys : KeySet) (policy : AlgorithmPolicy)
    (now : Instant) (entry : SignatureEntry) (payload : Bytes) (kid : Option String)
    (a : Algorithm) :
    tryEntry e keys policy now entry = .verified payload kid a ↔
      e.Acceptable keys policy now entry a ∧
      (∃ key, e.firstKey? keys a entry = some key ∧ kid = key.kid) ∧
      decodeTolerant? e.payload = some payload := by
  rw [tryEntry_eq_verified_iff_check]
  constructor
  · rintro ⟨h, read, range, unexpired, check⟩
    obtain ⟨b, key, octets, named, permitted, first, decoded, same⟩ :=
      (checkEntry_eq_ok_iff e keys policy entry h _).mp check
    obtain ⟨rfl, rfl, rfl⟩ := EntryOutcome.verified.inj same
    obtain ⟨_ | header, _ | signature⟩ := entry
    · cases first
    · cases first
    · cases first
    · obtain ⟨text, same, spelled⟩ := (SignatureEntry.unverifiedHeader_eq_ok_iff _ h).mp read
      obtain rfl : header = text := Option.some.inj same
      refine ⟨.intro spelled range unexpired named permitted ?_ ?_, ⟨key, first, rfl⟩, decoded⟩
      · exact (e.firstKey?_isSome_iff keys a header signature).mp (by rw [first]; rfl)
      · rw [decoded]
        rfl
  · rintro ⟨@⟨header, signature, h, _, spelled, range, unexpired, named, permitted, _, _⟩,
      ⟨key, first, rfl⟩, decoded⟩
    refine ⟨h, ?_, range, unexpired, ?_⟩
    · exact (SignatureEntry.unverifiedHeader_eq_ok_iff _ h).mpr ⟨header, rfl, spelled⟩
    · exact (checkEntry_eq_ok_iff e keys policy _ h _).mpr
        ⟨a, key, payload, named, permitted, first, decoded, rfl⟩

/-- Every acceptable entry is verified by some key, with some payload. -/
theorem tryEntry_of_acceptable {e : Envelope} {keys : KeySet} {policy : AlgorithmPolicy}
    {now : Instant} {entry : SignatureEntry} {a : Algorithm}
    (h : e.Acceptable keys policy now entry a) :
    ∃ payload kid, tryEntry e keys policy now entry = .verified payload kid a := by
  have acceptable := h
  obtain @⟨header, signature, _, _, _, _, _, _, _, verified, decodes⟩ := h
  obtain ⟨payload, decoded⟩ := Option.isSome_iff_exists.mp decodes
  obtain ⟨first, found⟩ := Option.isSome_iff_exists.mp
    ((e.firstKey?_isSome_iff keys a header signature).mpr verified)
  exact ⟨payload, first.kid, (tryEntry_eq_verified_iff e keys policy now _ payload _ a).mpr
    ⟨acceptable, ⟨first, found, rfl⟩, decoded⟩⟩

theorem isVerified_tryEntry_iff (e : Envelope) (keys : KeySet) (policy : AlgorithmPolicy)
    (now : Instant) (entry : SignatureEntry) :
    (tryEntry e keys policy now entry).isVerified = true ↔
      ∃ a, e.Acceptable keys policy now entry a := by
  rw [EntryOutcome.isVerified_iff]
  constructor
  · rintro ⟨payload, kid, a, verified⟩
    exact ⟨a, ((tryEntry_eq_verified_iff e keys policy now entry payload kid a).mp verified).1⟩
  · rintro ⟨a, acceptable⟩
    obtain ⟨payload, kid, verified⟩ := tryEntry_of_acceptable acceptable
    exact ⟨payload, kid, a, verified⟩

variable (judge : SignatureEntry → EntryOutcome)

/-- Entries that are not verified leave the search to those behind them. -/
theorem search_append_of_none_verified (front back : List SignatureEntry)
    (none : ∀ entry ∈ front, (judge entry).isVerified = false) :
    search judge (front ++ back) = front.map judge ++ search judge back := by
  induction front with
  | nil => rfl
  | cons entry rest ih =>
    have first := none entry List.mem_cons_self
    have tail := ih fun other member => none other (List.mem_cons_of_mem entry member)
    cases outcome : judge entry with
    | verified payload kid a => simp [outcome, EntryOutcome.isVerified] at first
    | expired t => simp [search, outcome, tail]
    | rejected reason => simp [search, outcome, tail]

theorem search_of_none_verified (entries : List SignatureEntry)
    (none : ∀ entry ∈ entries, (judge entry).isVerified = false) :
    search judge entries = entries.map judge := by
  have whole := search_append_of_none_verified judge entries [] none
  rw [List.append_nil] at whole
  rw [whole, search, List.append_nil]

theorem search_of_first_verified (before after : List SignatureEntry) {entry : SignatureEntry}
    {payload : Bytes} {kid : Option String} {a : Algorithm}
    (none : ∀ other ∈ before, (judge other).isVerified = false)
    (decides : judge entry = .verified payload kid a) :
    search judge (before ++ entry :: after) = before.map judge ++ [.verified payload kid a] := by
  rw [search_append_of_none_verified judge before (entry :: after) none, search, decides]

theorem exists_first_verified {entries : List SignatureEntry}
    (some : ¬ ∀ entry ∈ entries, (judge entry).isVerified = false) :
    ∃ entry before after, entries = before ++ entry :: after ∧
      (∀ other ∈ before, (judge other).isVerified = false) ∧
      (judge entry).isVerified = true := by
  have found : (entries.find? fun entry => (judge entry).isVerified).isSome = true := by
    simpa using some
  obtain ⟨entry, first⟩ := Option.isSome_iff_exists.mp found
  obtain ⟨verified, before, after, rfl, none⟩ := List.find?_eq_some_iff_append.mp first
  exact ⟨entry, before, after, rfl, by simpa using none, verified⟩

/-- Without a verified entry every outcome is counted. -/
theorem conclude_search_of_none_verified (entries : List SignatureEntry)
    (none : ∀ entry ∈ entries, (judge entry).isVerified = false) :
    conclude (search judge entries) =
      if entries = [] then .error .noSignatures
      else .error (.noneVerified (expiredCount (entries.map judge))
        (rejectedCount (entries.map judge))) := by
  rw [search_of_none_verified judge entries none, conclude]
  cases last : (entries.map judge).getLast? with
  | none => rw [if_pos (List.map_eq_nil_iff.mp (List.getLast?_eq_none_iff.mp last))]
  | some outcome =>
    obtain ⟨entry, member, rfl⟩ := List.mem_map.mp (List.mem_of_getLast? last)
    have unverified := none entry member
    rw [if_neg (List.ne_nil_of_mem member)]
    cases outcome : judge entry with
    | verified payload kid a => simp [outcome, EntryOutcome.isVerified] at unverified
    | expired t => rfl
    | rejected reason => rfl

theorem conclude_search_ne_ok {entries : List SignatureEntry}
    (none : ∀ entry ∈ entries, (judge entry).isVerified = false) (v : VerifiedPayload) :
    conclude (search judge entries) ≠ .ok v := by
  rw [conclude_search_of_none_verified judge entries none]
  split <;> exact nofun

theorem conclude_search_of_first_verified (before after : List SignatureEntry)
    {entry : SignatureEntry} {payload : Bytes} {kid : Option String} {a : Algorithm}
    (none : ∀ other ∈ before, (judge other).isVerified = false)
    (decides : judge entry = .verified payload kid a) :
    conclude (search judge (before ++ entry :: after)) =
      .ok ⟨payload, before.length, kid, a, payloadDigest payload⟩ := by
  rw [search_of_first_verified judge before after none decides]
  simp only [conclude, List.getLast?_append, List.getLast?_singleton, Option.some_or,
    List.length_append, List.length_map, List.length_singleton, Nat.add_sub_cancel]

/-- Only one index is the first at which an entry is verified. -/
theorem first_verified_index_unique {entries : List SignatureEntry} {i j : Nat}
    {first second : SignatureEntry} (here : entries[i]? = some first)
    (there : entries[j]? = some second) (decides : (judge first).isVerified = true)
    (decides' : (judge second).isVerified = true)
    (least : ∀ k, k < i → ∀ other, entries[k]? = some other → (judge other).isVerified = false)
    (least' : ∀ k, k < j → ∀ other, entries[k]? = some other →
      (judge other).isVerified = false) : i = j := by
  rcases Nat.lt_trichotomy i j with lower | same | higher
  · have unverified := least' i lower first here
    rw [decides] at unverified
    cases unverified
  · exact same
  · have unverified := least j higher second there
    rw [decides'] at unverified
    cases unverified

/-- A search ends well exactly at the first entry that is verified. -/
theorem conclude_search_eq_ok_iff (entries : List SignatureEntry) (v : VerifiedPayload) :
    conclude (search judge entries) = .ok v ↔
      (∃ entry, entries[v.entryIndex]? = some entry ∧
        judge entry = .verified v.payload v.kid v.algorithm) ∧
      (∀ i, i < v.entryIndex → ∀ other, entries[i]? = some other →
        (judge other).isVerified = false) ∧
      v.digest = payloadDigest v.payload := by
  by_cases none : ∀ entry ∈ entries, (judge entry).isVerified = false
  · constructor
    · intro h
      exact absurd h (conclude_search_ne_ok judge none v)
    · rintro ⟨⟨entry, here, decides⟩, _, _⟩
      have unverified := none entry (List.mem_of_getElem? here)
      rw [decides] at unverified
      cases unverified
  · obtain ⟨entry, before, after, rfl, unverified, verified⟩ := exists_first_verified judge none
    obtain ⟨payload, kid, a, decides⟩ := EntryOutcome.isVerified_iff.mp verified
    have there : (before ++ entry :: after)[before.length]? = some entry := by simp
    have least : ∀ i, i < before.length → ∀ other,
        (before ++ entry :: after)[i]? = some other → (judge other).isVerified = false := by
      intro i lower other here
      rw [List.getElem?_append_left lower] at here
      exact unverified other (List.mem_of_getElem? here)
    rw [conclude_search_of_first_verified judge before after unverified decides, Except.ok.injEq]
    constructor
    · rintro rfl
      exact ⟨⟨entry, there, decides⟩, least, rfl⟩
    · rintro ⟨⟨other, here, decides'⟩, least', digest⟩
      have index := first_verified_index_unique judge here there
        (EntryOutcome.isVerified_iff.mpr ⟨_, _, _, decides'⟩) verified least' least
      rw [index] at here
      obtain rfl : entry = other := Option.some.inj (there.symm.trans here)
      obtain ⟨rfl, rfl, rfl⟩ := EntryOutcome.verified.inj (decides.symm.trans decides')
      rw [← index, ← digest]

end Verification

namespace Envelope

variable (e : Envelope) (keys : KeySet) (policy : AlgorithmPolicy) (now : Instant)

/-- Verification tells of the first acceptable entry, and of nothing else. -/
theorem verifyAt_eq_ok_iff (v : VerifiedPayload) :
    e.verifyAt keys policy now = .ok v ↔ e.FirstAccepted keys policy now v := by
  have hopeless : ∀ other, (Verification.tryEntry e keys policy now other).isVerified = false ↔
      ∀ a, ¬ e.Acceptable keys policy now other a := by
    intro other
    rw [← Bool.not_eq_true, Verification.isVerified_tryEntry_iff, not_exists]
  rw [verifyAt, outcomesAt, Verification.conclude_search_eq_ok_iff]
  constructor
  · rintro ⟨⟨entry, here, verified⟩, least, digest⟩
    obtain ⟨acceptable, ⟨key, first, kid⟩, decoded⟩ :=
      (Verification.tryEntry_eq_verified_iff e keys policy now entry _ _ _).mp verified
    refine ⟨⟨entry, key, here, acceptable, first, kid⟩, ?_, decoded, digest⟩
    intro i lower other there
    exact (hopeless other).mp (least i lower other there)
  · rintro ⟨⟨entry, key, here, acceptable, first, kid⟩, least, decoded, digest⟩
    refine ⟨⟨entry, here, ?_⟩, ?_, digest⟩
    · exact (Verification.tryEntry_eq_verified_iff e keys policy now entry _ _ _).mpr
        ⟨acceptable, ⟨key, first, kid⟩, decoded⟩
    · intro i lower other there
      exact (hopeless other).mpr (least i lower other there)

theorem verifyAt_succeeds_iff :
    (∃ v, e.verifyAt keys policy now = .ok v) ↔
      ∃ entry ∈ e.signatures, ∃ a, e.Acceptable keys policy now entry a := by
  constructor
  · rintro ⟨v, verified⟩
    obtain ⟨entry, key, here, acceptable, _, _⟩ :=
      ((verifyAt_eq_ok_iff e keys policy now v).mp verified).entry
    exact ⟨entry, List.mem_of_getElem? here, v.algorithm, acceptable⟩
  · rintro ⟨entry, member, acceptable⟩
    let judge := Verification.tryEntry e keys policy now
    have some : ¬ ∀ entry ∈ e.signatures, (judge entry).isVerified = false := by
      intro none
      have verified := (Verification.isVerified_tryEntry_iff e keys policy now entry).mpr acceptable
      exact Bool.noConfusion ((none entry member).symm.trans verified)
    obtain ⟨first, before, after, split, unverified, decides⟩ :=
      Verification.exists_first_verified judge some
    obtain ⟨payload, kid, a, decides⟩ := EntryOutcome.isVerified_iff.mp decides
    rw [verifyAt, outcomesAt, split]
    exact ⟨_, Verification.conclude_search_of_first_verified judge before after unverified decides⟩

/-- An acceptable entry is enough, and decides unless one before it does. -/
theorem verifyAt_of_acceptable {e : Envelope} {keys : KeySet} {policy : AlgorithmPolicy}
    {now : Instant} {entry : SignatureEntry} {i : Nat} {a : Algorithm}
    (here : e.signatures[i]? = some entry) (acceptable : e.Acceptable keys policy now entry a) :
    ∃ v, e.verifyAt keys policy now = .ok v ∧ decodeTolerant? e.payload = some v.payload ∧
      v.digest = payloadDigest v.payload ∧ v.entryIndex ≤ i := by
  obtain ⟨v, verified⟩ := (e.verifyAt_succeeds_iff keys policy now).mpr
    ⟨entry, List.mem_of_getElem? here, a, acceptable⟩
  have accepted := (e.verifyAt_eq_ok_iff keys policy now v).mp verified
  refine ⟨v, verified, accepted.payload, accepted.digest, ?_⟩
  by_cases late : i < v.entryIndex
  · exact absurd acceptable (accepted.least i late entry here a)
  · omega

/-- Of an envelope with other entries only the payload matters to an entry. -/
theorem acceptable_of_same_payload {e other : Envelope} (same : e.payload = other.payload)
    {keys : KeySet} {policy : AlgorithmPolicy} {now : Instant} {entry : SignatureEntry}
    {a : Algorithm} (h : e.Acceptable keys policy now entry a) :
    other.Acceptable keys policy now entry a := by
  obtain ⟨reads, representable, unexpired, named, permitted, verified, decodes⟩ := h
  rw [same] at decodes
  simp only [signedText, same] at verified
  exact .intro reads representable unexpired named permitted verified decodes

/-- No entry is acceptable without a trusted key. -/
theorem not_acceptable_of_no_keys {keys : KeySet} (none : keys.keys = [])
    (entry : SignatureEntry) (a : Algorithm) : ¬ e.Acceptable keys policy now entry a := by
  rintro ⟨_, _, _, _, _, ⟨key, member, _⟩, _⟩
  rw [none] at member
  cases member

end Envelope

theorem verifyEnvelopeAt_eq_ok_iff_parsed (document : Bytes) (keys : KeySet)
    (policy : AlgorithmPolicy) (now : Instant) (v : VerifiedPayload) :
    verifyEnvelopeAt document keys policy now = .ok v ↔
      ∃ e, Envelope.parse? document = some e ∧ e.verifyAt keys policy now = .ok v := by
  cases parsed : Envelope.parse? document with
  | none => simp [verifyEnvelopeAt, parsed]
  | some e => simp [verifyEnvelopeAt, parsed]

/-- A document is accepted exactly when it parses and has an acceptable entry, and what is
returned is the payload of the first such entry with the first key that verifies it. Without
keys or without entries nothing is returned. -/
theorem verifyEnvelopeAt_decided_by_first_acceptable (document : Bytes) (keys : KeySet)
    (policy : AlgorithmPolicy) (now : Instant) :
    ((∃ v, verifyEnvelopeAt document keys policy now = .ok v) ↔
      ∃ e, Envelope.parse? document = some e ∧
        ∃ entry ∈ e.signatures, ∃ a, e.Acceptable keys policy now entry a) ∧
    (∀ v, verifyEnvelopeAt document keys policy now = .ok v ↔
      ∃ e, Envelope.parse? document = some e ∧ e.FirstAccepted keys policy now v) ∧
    ((keys.keys = [] ∨ ∀ e, Envelope.parse? document = some e → e.signatures = []) →
      ∀ v, verifyEnvelopeAt document keys policy now ≠ .ok v) := by
  have accepts : ∀ v, verifyEnvelopeAt document keys policy now = .ok v ↔
      ∃ e, Envelope.parse? document = some e ∧ e.FirstAccepted keys policy now v := by
    intro v
    simp only [verifyEnvelopeAt_eq_ok_iff_parsed, Envelope.verifyAt_eq_ok_iff]
  refine ⟨?_, accepts, ?_⟩
  · simp only [verifyEnvelopeAt_eq_ok_iff_parsed, ← Envelope.verifyAt_succeeds_iff]
    constructor
    · rintro ⟨v, e, parsed, verified⟩
      exact ⟨e, parsed, v, verified⟩
    · rintro ⟨e, parsed, v, verified⟩
      exact ⟨v, e, parsed, verified⟩
  · intro nothing v verified
    obtain ⟨e, parsed, ⟨entry, key, here, acceptable, _, _⟩, _, _, _⟩ := (accepts v).mp verified
    rcases nothing with no_keys | no_entries
    · exact e.not_acceptable_of_no_keys policy now no_keys entry v.algorithm acceptable
    · rw [no_entries e parsed] at here
      cases here

namespace Sample

/-- An element of a document, signed with a secret of one octet. -/
def signedEntry : Json :=
  .record [("protected", .text "eyJleHAiOjksImFsZyI6IkhTMjU2In0"),
    ("signature", .text "W-Tv-dsKPShJy-WXZU9txdARnLibLXwHJx7gUPrsfg8")]

def members (items : List Json) : List (Option String × Json) :=
  [(some "payload", .text "e30"), (some "signatures", .array items)]

def document (items : List Json) : Bytes :=
  Bytes.ofText (Json.object (members items)).render

/-- The keys of someone who shares the secret. -/
def keys : KeySet :=
  .ofKeys [⟨some "k", .secret [0x6B]⟩]

set_option maxRecDepth 20000 in
/-- The payload that the signed element carries, four seconds before it expires. -/
theorem verifyEnvelopeAt_document :
    verifyEnvelopeAt (document [signedEntry]) keys .any ⟨5, 0⟩ =
      .ok ⟨[0x7B, 0x7D], 0, some "k", .hs256, payloadDigest [0x7B, 0x7D]⟩ := by
  rfl

end Sample

end FederationTrust
