import FederationTrust.Proofs.Refusals

/-!
# Entries on their own

Each entry is judged by the payload and by itself, whatever entries stand around it. So an
envelope that verifies goes on verifying with the same answer when entries are put behind its
own, and an entry that does not verify alone can be put anywhere among others: it only moves the
entries behind it by one, or is counted once more where nothing verifies.
-/

namespace FederationTrust

/-- What is told of a verified payload when one more entry stands at an index before or after the
entry that verified. -/
def VerifiedPayload.withEntryAt (index : Nat) (v : VerifiedPayload) : VerifiedPayload :=
  { v with entryIndex := if index ≤ v.entryIndex then v.entryIndex + 1 else v.entryIndex }

namespace Verification

/-- Of an envelope only the payload has a say in what becomes of an entry. -/
theorem tryEntry_of_any_entries (payload : String) (entries others : List SignatureEntry)
    (keys : KeySet) (policy : AlgorithmPolicy) (now : Instant) :
    tryEntry ⟨payload, entries⟩ keys policy now = tryEntry ⟨payload, others⟩ keys policy now :=
  rfl

variable {judge : SignatureEntry → EntryOutcome}

/-- A search that ends well is not prolonged by entries behind. -/
theorem conclude_search_append {front : List SignatureEntry} {v : VerifiedPayload}
    (ends : conclude (search judge front) = .ok v) (back : List SignatureEntry) :
    conclude (search judge (front ++ back)) = .ok v := by
  obtain ⟨⟨entry, here, decides⟩, least, digest⟩ :=
    (conclude_search_eq_ok_iff judge front v).mp ends
  have inside : v.entryIndex < front.length := (List.getElem?_eq_some_iff.mp here).1
  have front_eq (i : Nat) (lower : i < front.length) : (front ++ back)[i]? = front[i]? :=
    List.getElem?_append_left lower
  refine (conclude_search_eq_ok_iff judge (front ++ back) v).mpr ⟨⟨entry, ?_, decides⟩, ?_, digest⟩
  · rw [front_eq v.entryIndex inside]
    exact here
  · intro i lower other there
    have within : i < front.length := by omega
    rw [front_eq i within] at there
    exact least i lower other there

/-- An entry that is passed over moves those behind it by one. -/
theorem conclude_search_insert {front back : List SignatureEntry} {entry : SignatureEntry}
    (passed : (judge entry).isVerified = false)
    (found : ¬ ∀ other ∈ front ++ back, (judge other).isVerified = false) :
    conclude (search judge (front ++ entry :: back)) =
      (conclude (search judge (front ++ back))).map (·.withEntryAt front.length) := by
  by_cases none : ∀ other ∈ front, (judge other).isVerified = false
  · -- The first verified entry stands behind.
    have behind : ¬ ∀ other ∈ back, (judge other).isVerified = false := by
      intro rest
      exact found (List.forall_mem_append.mpr ⟨none, rest⟩)
    obtain ⟨first, before, after, rfl, unverified, verified⟩ := exists_first_verified judge behind
    obtain ⟨payload, kid, a, decides⟩ := EntryOutcome.isVerified_iff.mp verified
    have without := conclude_search_of_first_verified judge (front ++ before) after
      (List.forall_mem_append.mpr ⟨none, unverified⟩) decides
    have within := conclude_search_of_first_verified judge (front ++ entry :: before) after
      (List.forall_mem_append.mpr ⟨none, List.forall_mem_cons.mpr ⟨passed, unverified⟩⟩) decides
    have later : front.length ≤ (front ++ before).length := by simp
    have moved : (front ++ entry :: before).length = (front ++ before).length + 1 := by
      simp only [List.length_append, List.length_cons]
      omega
    rw [List.append_assoc] at without within
    rw [List.cons_append] at within
    rw [without, within, Except.map, VerifiedPayload.withEntryAt, moved, if_pos later]
  · -- It stands in front, and the other entry is not even tried.
    obtain ⟨first, before, after, rfl, unverified, verified⟩ := exists_first_verified judge none
    obtain ⟨payload, kid, a, decides⟩ := EntryOutcome.isVerified_iff.mp verified
    have without := conclude_search_of_first_verified judge before (after ++ back) unverified decides
    have within := conclude_search_of_first_verified judge before (after ++ entry :: back)
      unverified decides
    have earlier : ¬ (before ++ first :: after).length ≤ before.length := by
      simp only [List.length_append, List.length_cons]
      omega
    rw [List.append_assoc, List.append_assoc, List.cons_append, List.cons_append, without, within,
      Except.map, VerifiedPayload.withEntryAt, if_neg earlier]

/-- An entry that is passed over lets exactly those verify that verify without it. -/
theorem conclude_search_insert_eq_ok_iff {entry : SignatureEntry}
    (passed : (judge entry).isVerified = false) (front back : List SignatureEntry)
    (w : VerifiedPayload) :
    conclude (search judge (front ++ entry :: back)) = .ok w ↔
      ∃ v, conclude (search judge (front ++ back)) = .ok v ∧ w = v.withEntryAt front.length := by
  by_cases none : ∀ other ∈ front ++ back, (judge other).isVerified = false
  · obtain ⟨before, after⟩ := List.forall_mem_append.mp none
    have all : ∀ other ∈ front ++ entry :: back, (judge other).isVerified = false :=
      List.forall_mem_append.mpr ⟨before, List.forall_mem_cons.mpr ⟨passed, after⟩⟩
    constructor
    · intro ends
      exact absurd ends (conclude_search_ne_ok judge all w)
    · rintro ⟨v, ends, _⟩
      exact absurd ends (conclude_search_ne_ok judge none v)
  · rw [conclude_search_insert passed none]
    cases conclude (search judge (front ++ back)) with
    | error error => simp [Except.map]
    | ok v => simp [Except.map, eq_comm]

end Verification

namespace Envelope

variable {payload : String} {front back : List SignatureEntry} {entry : SignatureEntry}
variable {keys : KeySet} {policy : AlgorithmPolicy} {now : Instant}

theorem Acceptable.among {entries : List SignatureEntry} {a : Algorithm}
    (h : Acceptable ⟨payload, entries⟩ keys policy now entry a) (others : List SignatureEntry) :
    Acceptable ⟨payload, others⟩ keys policy now entry a := by
  refine acceptable_of_same_payload ?_ h
  rfl

/-- An entry that does not verify alone is not acceptable among any entries. -/
theorem not_acceptable_of_fails_alone
    (fails : ∀ v, verifyAt ⟨payload, [entry]⟩ keys policy now ≠ .ok v)
    (entries : List SignatureEntry) (a : Algorithm) :
    ¬ Acceptable ⟨payload, entries⟩ keys policy now entry a := by
  intro acceptable
  obtain ⟨v, verified⟩ := (verifyAt_succeeds_iff ⟨payload, [entry]⟩ keys policy now).mpr
    ⟨entry, List.mem_singleton_self entry, a, acceptable.among [entry]⟩
  exact fails v verified

/-- One more entry that is not acceptable is one more that a refusal counts. -/
theorem Refused.insert {error : VerificationError}
    (hopeless : ∀ entries a, ¬ Acceptable ⟨payload, entries⟩ keys policy now entry a)
    (some : front ++ back ≠ [])
    (refused : Refused ⟨payload, front ++ back⟩ keys policy now error) :
    ∃ expired rejected, error = .noneVerified expired rejected ∧
      Refused ⟨payload, front ++ entry :: back⟩ keys policy now
        (if entry.isPast now then .noneVerified (expired + 1) rejected
          else .noneVerified expired (rejected + 1)) := by
  cases refused with
  | noSignatures none => exact absurd none some
  | @noneVerified expired rejected _ others past total =>
    refine ⟨expired, rejected, rfl, ?_⟩
    have more : front ++ entry :: back ≠ [] := by simp
    have length : (front ++ entry :: back).length = (front ++ back).length + 1 := by
      simp only [List.length_append, List.length_cons]
      omega
    have counted : (front ++ entry :: back).countP (·.isPast now) =
        (front ++ back).countP (·.isPast now) + if entry.isPast now then 1 else 0 := by
      simp only [List.countP_append, List.countP_cons]
      omega
    have none : ∀ other ∈ front ++ entry :: back, ∀ a,
        ¬ Acceptable ⟨payload, front ++ entry :: back⟩ keys policy now other a := by
      intro other member a acceptable
      have without := acceptable.among (front ++ back)
      rcases List.mem_append.mp member with before | behind
      · exact others other (List.mem_append_left back before) a without
      · rcases List.mem_cons.mp behind with rfl | after
        · exact hopeless _ a without
        · exact others other (List.mem_append_right front after) a without
    dsimp only at past total
    split at counted
    · rw [if_pos ‹_›]
      exact .noneVerified more none (by dsimp only; omega) (by dsimp only; omega)
    · rw [if_neg ‹_›]
      exact .noneVerified more none (by dsimp only; omega) (by dsimp only; omega)

end Envelope

/-- Entries have no say in what becomes of each other. An envelope that verifies gives the same
answer with entries behind its own. One more entry that does not verify alone, wherever it is put,
lets the envelope verify exactly when it verified before, with the same answer but for the index
of an entry behind it; a refusal counts it once more, as expired if it is past and else as
rejected. -/
theorem verifyAt_entries_apart (payload : String) (front back : List SignatureEntry)
    (entry : SignatureEntry) (keys : KeySet) (policy : AlgorithmPolicy) (now : Instant) :
    (∀ v, Envelope.verifyAt ⟨payload, front⟩ keys policy now = .ok v →
      Envelope.verifyAt ⟨payload, front ++ back⟩ keys policy now = .ok v) ∧
    ((∀ v, Envelope.verifyAt ⟨payload, [entry]⟩ keys policy now ≠ .ok v) →
      (∀ w, Envelope.verifyAt ⟨payload, front ++ [entry] ++ back⟩ keys policy now = .ok w ↔
        ∃ v, Envelope.verifyAt ⟨payload, front ++ back⟩ keys policy now = .ok v ∧
          w = v.withEntryAt front.length) ∧
      ∀ error, front ++ back ≠ [] →
        Envelope.verifyAt ⟨payload, front ++ back⟩ keys policy now = .error error →
        ∃ expired rejected, error = .noneVerified expired rejected ∧
          Envelope.verifyAt ⟨payload, front ++ [entry] ++ back⟩ keys policy now =
            .error (if entry.isPast now then .noneVerified (expired + 1) rejected
              else .noneVerified expired (rejected + 1))) := by
  -- All three envelopes have one payload, so one judge decides on the entries of each.
  let judge := Verification.tryEntry ⟨payload, []⟩ keys policy now
  have search (entries : List SignatureEntry) :
      Envelope.verifyAt ⟨payload, entries⟩ keys policy now =
        Verification.conclude (Verification.search judge entries) := by
    rw [Envelope.verifyAt, Envelope.outcomesAt,
      Verification.tryEntry_of_any_entries payload entries []]
  have inserted : front ++ [entry] ++ back = front ++ entry :: back := by simp
  rw [inserted]
  constructor
  · intro v verified
    rw [search] at verified ⊢
    exact Verification.conclude_search_append verified back
  · intro fails
    have hopeless := Envelope.not_acceptable_of_fails_alone fails
    constructor
    · intro w
      have passed : (judge entry).isVerified = false := by
        rw [← Bool.not_eq_true, Verification.isVerified_tryEntry_iff, not_exists]
        exact hopeless []
      rw [search, search]
      exact Verification.conclude_search_insert_eq_ok_iff passed front back w
    · intro error some failed
      have refused := (Envelope.verifyAt_eq_error_iff _ keys policy now error).mp failed
      obtain ⟨expired, rejected, told, more⟩ := refused.insert hopeless some
      exact ⟨expired, rejected, told, (Envelope.verifyAt_eq_error_iff _ keys policy now _).mpr more⟩

namespace Sample

/-- The entry of the shared secret, before which an entry without signature stands. -/
def entries : List SignatureEntry :=
  [⟨some "e30", none⟩, ⟨some "eyJleHAiOjksImFsZyI6IkhTMjU2In0",
    some "W-Tv-dsKPShJy-WXZU9txdARnLibLXwHJx7gUPrsfg8"⟩]

def pastEntry : SignatureEntry :=
  ⟨some "eyJleHAiOjN9", none⟩

def verifiedAt (index : Nat) : VerifiedPayload :=
  ⟨[0x7B, 0x7D], index, some "k", .hs256, payloadDigest [0x7B, 0x7D]⟩

end Sample

set_option maxRecDepth 20000 in
/-- A past entry leaves the signed one in force, behind it and before it, while that one holds; later
it is counted as one more that is past. -/
theorem signed_entry_beside_past_entry :
    let verify := fun entries now =>
      Envelope.verifyAt ⟨"e30", entries⟩ Sample.keys .any now
    verify (Sample.entries ++ [Sample.pastEntry]) ⟨5, 0⟩ = .ok (Sample.verifiedAt 1) ∧
    (∀ v, verify [Sample.pastEntry] ⟨5, 0⟩ ≠ .ok v) ∧
    verify ([] ++ [Sample.pastEntry] ++ Sample.entries) ⟨5, 0⟩ = .ok (Sample.verifiedAt 2) ∧
    (∀ v, verify [Sample.pastEntry] ⟨9, 1⟩ ≠ .ok v) ∧
    verify Sample.entries ⟨9, 1⟩ = .error (.noneVerified 1 1) ∧
    verify ([] ++ [Sample.pastEntry] ++ Sample.entries) ⟨9, 1⟩ = .error (.noneVerified 2 1) := by
  intro verify
  have verified : verify Sample.entries ⟨5, 0⟩ = .ok (Sample.verifiedAt 1) := rfl
  have counted : verify Sample.entries ⟨9, 1⟩ = .error (.noneVerified 1 1) := rfl
  have fails : ∀ v, verify [Sample.pastEntry] ⟨5, 0⟩ ≠ .ok v := nofun
  have failsLater : ∀ v, verify [Sample.pastEntry] ⟨9, 1⟩ ≠ .ok v := nofun
  obtain ⟨append, -⟩ := verifyAt_entries_apart "e30" Sample.entries [Sample.pastEntry]
    Sample.pastEntry Sample.keys .any ⟨5, 0⟩
  obtain ⟨-, insert⟩ := verifyAt_entries_apart "e30" [] Sample.entries Sample.pastEntry
    Sample.keys .any ⟨5, 0⟩
  obtain ⟨-, count⟩ := verifyAt_entries_apart "e30" [] Sample.entries Sample.pastEntry
    Sample.keys .any ⟨9, 1⟩
  have more := (count failsLater).2 _ (List.cons_ne_nil _ _) counted
  obtain ⟨expired, rejected, told, more⟩ := more
  obtain ⟨rfl, rfl⟩ := VerificationError.noneVerified.inj told
  exact ⟨append _ verified, fails, ((insert fails).1 _).mpr ⟨_, verified, rfl⟩, failsLater, counted,
    more⟩

end FederationTrust
