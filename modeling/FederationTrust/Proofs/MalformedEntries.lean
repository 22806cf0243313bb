import FederationTrust.Proofs.Acceptance
import FederationTrust.Proofs.Json.Members

/-!
# Malformed entries

The parts of an entry may be missing or null, and an entry whose header or signature cannot
be used is passed over. An element of the list that is no entry at all, because a part of it
is neither a text nor null, because a part is given twice or because it is no record, is
another matter: it makes the whole document malformed, whatever the other elements are.

Hence an element that verifies alone verifies among others exactly when all of these have
the shape of an entry.
-/

namespace FederationTrust

namespace SignatureEntry

def IsPart : Json → Prop
  | .null => True
  | .string s => s.isSome = true
  | _ => False

/-- The values that stand for an entry. -/
def WellShaped : Json → Prop
  | .object members => (∀ m ∈ members, m.1.isSome = true) ∧
    ∀ name ∈ ["protected", "signature"], (Json.membersNamed name members).length ≤ 1 ∧
      ∀ m ∈ members, m.1 = some name → IsPart m.2
  | .array items => items.length ≤ 2 ∧ ∀ item ∈ items, IsPart item
  | _ => False

theorem isSome_part_iff (j : Json) :
    (Json.optional? Json.text? (some j)).isSome = true ↔ IsPart j := by
  cases j <;> simp [Json.optional?, Json.text?, IsPart]

def ofFields? (header signature : Option Json) : Option SignatureEntry := do
  let header ← Json.optional? Json.text? header
  let signature ← Json.optional? Json.text? signature
  some ⟨header, signature⟩

theorem isSome_ofFields?_iff (header signature : Option Json) :
    (ofFields? header signature).isSome = true ↔
      (Json.optional? Json.text? header).isSome = true ∧
      (Json.optional? Json.text? signature).isSome = true := by
  unfold ofFields?
  cases Json.optional? Json.text? header <;> cases Json.optional? Json.text? signature <;> simp

theorem ofJson?_object {members : List (Option String × Json)}
    (named : ∀ m ∈ members, m.1.isSome = true) :
    ofJson? (.object members) = (Json.member? ["protected"] members).bind fun header =>
      (Json.member? ["signature"] members).bind fun signature => ofFields? header signature := by
  rw [ofJson?, Json.fields?_pair named]
  cases Json.member? ["protected"] members with
  | none => rfl
  | some header => cases Json.member? ["signature"] members <;> rfl

theorem isSome_ofJson?_object_iff (members : List (Option String × Json)) :
    (ofJson? (.object members)).isSome = true ↔ WellShaped (.object members) := by
  by_cases named : ∀ m ∈ members, m.1.isSome = true
  · have part : ∀ name,
        ((Json.member? [name] members).bind (Json.optional? Json.text?)).isSome = true ↔
          (Json.membersNamed name members).length ≤ 1 ∧
          ∀ m ∈ members, m.1 = some name → IsPart m.2 := by
      intro name
      rw [Json.optional_member_isSome_iff _ name members rfl]
      simp only [isSome_part_iff]
    have shape : WellShaped (.object members) ↔
        ((Json.member? ["protected"] members).bind (Json.optional? Json.text?)).isSome = true ∧
        ((Json.member? ["signature"] members).bind (Json.optional? Json.text?)).isSome = true := by
      rw [part, part]
      constructor
      · intro h
        exact ⟨h.2 "protected" (by simp), h.2 "signature" (by simp)⟩
      · rintro ⟨header, signature⟩
        refine ⟨named, ?_⟩
        intro name known
        simp only [List.mem_cons, List.not_mem_nil, or_false] at known
        rcases known with rfl | rfl
        · exact header
        · exact signature
    rw [shape, ofJson?_object named]
    cases Json.member? ["protected"] members with
    | none => simp
    | some header =>
      cases Json.member? ["signature"] members with
      | none => simp
      | some signature => exact isSome_ofFields?_iff header signature
  · rw [ofJson?, Json.fields?_of_unnamed named]
    constructor
    · intro h
      cases h
    · intro h
      exact absurd h.1 named

theorem isSome_ofJson?_array_iff (items : List Json) :
    (ofJson? (.array items)).isSome = true ↔ WellShaped (.array items) := by
  have absent : (Json.optional? Json.text? none).isSome = true := rfl
  rcases items with _ | ⟨header, _ | ⟨signature, _ | ⟨more, rest⟩⟩⟩
  · exact (isSome_ofFields?_iff none none).trans (by simp [absent, WellShaped])
  · exact (isSome_ofFields?_iff (some header) none).trans
      (by simp [isSome_part_iff, absent, WellShaped])
  · exact (isSome_ofFields?_iff (some header) (some signature)).trans
      (by simp [isSome_part_iff, WellShaped])
  · simp [ofJson?, Json.fields?, WellShaped]

/-- The values that read as an entry are those of its shape. -/
theorem isSome_ofJson?_iff (j : Json) : (ofJson? j).isSome = true ↔ WellShaped j := by
  cases j with
  | object members => exact isSome_ofJson?_object_iff members
  | array items => exact isSome_ofJson?_array_iff items
  | null => simp [ofJson?, Json.fields?, WellShaped]
  | bool b => simp [ofJson?, Json.fields?, WellShaped]
  | number n => simp [ofJson?, Json.fields?, WellShaped]
  | string s => simp [ofJson?, Json.fields?, WellShaped]

instance : DecidablePred WellShaped :=
  fun j => decidable_of_iff _ (isSome_ofJson?_iff j)

end SignatureEntry

namespace Envelope

theorem ofJson?_object {members : List (Option String × Json)}
    (named : ∀ m ∈ members, m.1.isSome = true) :
    ofJson? (.object members) = (Json.member? ["payload"] members).bind fun payload =>
      (Json.member? ["signatures"] members).bind fun signatures =>
        (Json.required? Json.text? payload).bind fun payload =>
          (Json.required? (Json.listOf? SignatureEntry.ofJson?) signatures).bind fun signatures =>
            some ⟨payload, signatures⟩ := by
  rw [ofJson?, Json.fields?_pair named]
  cases Json.member? ["payload"] members with
  | none => rfl
  | some payload => cases Json.member? ["signatures"] members <;> rfl

/-- An object is an envelope when it names a text as payload and a list of entries, each once. -/
theorem ofJson?_object_eq_some_iff (members : List (Option String × Json)) (e : Envelope) :
    ofJson? (.object members) = some e ↔
      (∀ m ∈ members, m.1.isSome = true) ∧
      Json.membersNamed "payload" members = [(some "payload", .text e.payload)] ∧
      ∃ items, Json.membersNamed "signatures" members = [(some "signatures", .array items)] ∧
        items.map SignatureEntry.ofJson? = e.signatures.map some := by
  simp only [← Json.member?_one_name_eq_some_iff]
  by_cases named : ∀ m ∈ members, m.1.isSome = true
  · rw [ofJson?_object named]
    simp only [Option.bind_eq_some_iff]
    constructor
    · rintro ⟨_ | payload, given, _ | signatures, listed, text, isText, entries, isList, same⟩
      · cases isText
      · cases isText
      · cases isList
      · obtain rfl := Option.some.inj same
        obtain rfl := (Json.text?_eq_some_iff payload text).mp isText
        obtain ⟨items, rfl, read⟩ := (Json.listOf?_eq_some_iff _ signatures entries).mp isList
        exact ⟨named, given, items, listed, read⟩
    · rintro ⟨_, given, items, listed, read⟩
      refine ⟨_, given, _, listed, e.payload, ?_, e.signatures, ?_, rfl⟩
      · exact (Json.text?_eq_some_iff _ _).mpr rfl
      · exact (Json.listOf?_eq_some_iff _ _ _).mpr ⟨items, rfl, read⟩
  · rw [ofJson?, Json.fields?_of_unnamed named]
    constructor
    · intro h
      cases h
    · intro h
      exact absurd h.1 named

def keepOnly (item : Json) (members : List (Option String × Json)) :
    List (Option String × Json) :=
  members.map fun m => if m.1 = some "signatures" then (m.1, .array [item]) else m

theorem named_of_keepOnly {item : Json} {members : List (Option String × Json)}
    (named : ∀ m ∈ keepOnly item members, m.1.isSome = true) :
    ∀ m ∈ members, m.1.isSome = true := by
  intro m member
  have kept := named _ (List.mem_map_of_mem member)
  by_cases h : m.1 = some "signatures"
  · simp [h]
  · simpa [h] using kept

theorem membersNamed_keepOnly (item : Json) (name : String)
    (members : List (Option String × Json)) :
    Json.membersNamed name (keepOnly item members) =
      keepOnly item (Json.membersNamed name members) := by
  unfold Json.membersNamed keepOnly
  rw [List.filter_map]
  congr 2
  funext m
  by_cases h : m.1 = some "signatures" <;> simp [h]

theorem membersNamed_keepOnly_of_ne (item : Json) {name : String} (other : name ≠ "signatures")
    (members : List (Option String × Json)) :
    Json.membersNamed name (keepOnly item members) = Json.membersNamed name members := by
  have untouched : ∀ m ∈ Json.membersNamed name members,
      (if m.1 = some "signatures" then (m.1, .array [item]) else m) = m := by
    intro m member
    have named : m.1 = some name := by simpa using (List.mem_filter.mp member).2
    rw [if_neg]
    rw [named]
    exact fun same => other (Option.some.inj same)
  rw [membersNamed_keepOnly, keepOnly, List.map_congr_left untouched, List.map_id']

/-- Where one list stood, and only there, the list of the one element stands. -/
theorem membersNamed_signatures_keepOnly {item j : Json} {members : List (Option String × Json)}
    (kept : Json.membersNamed "signatures" (keepOnly item members) = [(some "signatures", j)]) :
    j = .array [item] ∧
      ∃ listed, Json.membersNamed "signatures" members = [(some "signatures", listed)] := by
  rw [membersNamed_keepOnly] at kept
  rcases h : Json.membersNamed "signatures" members with _ | ⟨m, _ | ⟨_, _⟩⟩
  · simp [h, keepOnly] at kept
  · have named := Json.membersNamed_eq_singleton h
    rw [h, named] at kept
    have same : Json.array [item] = j := by simpa [keepOnly] using kept
    exact ⟨same.symm, m.2, by rw [← named]⟩
  · simp [h, keepOnly] at kept

/-- The envelope of a document and the one of the same document with only one element. -/
theorem ofJson?_keepOnly {item : Json} {members : List (Option String × Json)} {alone : Envelope}
    (read : ofJson? (.object (keepOnly item members)) = some alone) :
    ∃ entry, alone.signatures = [entry] ∧ SignatureEntry.ofJson? item = some entry ∧
      ∀ items, (some "signatures", .array items) ∈ members → ∀ e,
        ofJson? (.object members) = some e ↔
          e.payload = alone.payload ∧ items.map SignatureEntry.ofJson? = e.signatures.map some := by
  obtain ⟨named, payload, shown, kept, same⟩ := (ofJson?_object_eq_some_iff _ alone).mp read
  have named := named_of_keepOnly named
  rw [membersNamed_keepOnly_of_ne item (by decide)] at payload
  obtain ⟨one, listed, once⟩ := membersNamed_signatures_keepOnly kept
  obtain rfl := Json.array.inj one
  obtain ⟨entry, only, reads⟩ : ∃ entry, alone.signatures = [entry] ∧
      SignatureEntry.ofJson? item = some entry := by
    rcases h : alone.signatures with _ | ⟨entry, _ | ⟨_, _⟩⟩
    · simp [h] at same
    · exact ⟨entry, rfl, by simpa [h] using same⟩
    · simp [h] at same
  refine ⟨entry, only, reads, ?_⟩
  intro items member e
  have theList : listed = .array items := by
    have among : (some "signatures", .array items) ∈ Json.membersNamed "signatures" members := by
      simpa [Json.membersNamed] using member
    rw [once] at among
    simpa using (List.mem_singleton.mp among).symm
  rw [ofJson?_object_eq_some_iff, once, payload, theList]
  constructor
  · rintro ⟨_, text, others, list, reads⟩
    simp only [List.cons.injEq, Prod.mk.injEq, Json.array.injEq, and_true, true_and] at list
    simp only [List.cons.injEq, Prod.mk.injEq, Json.string.injEq, Option.some.injEq, and_true,
      true_and] at text
    subst list
    exact ⟨text.symm, reads⟩
  · rintro ⟨text, reads⟩
    exact ⟨named, by rw [text], items, rfl, reads⟩

end Envelope

section Among

/-! A document, and the same document with only one of its elements, which verifies. -/

variable {document single : Bytes} {members : List (Option String × Json)} {items : List Json}
  {item : Json} {i : Nat} {keys : KeySet} {policy : AlgorithmPolicy} {now : Instant}
  {v : VerifiedPayload}

/-- An element without the shape of an entry makes the document malformed. -/
theorem verifyEnvelopeAt_of_misshapen
    (whole : Json.parse? document = some (.object members))
    (listed : (some "signatures", .array items) ∈ members)
    {alone : Envelope}
    (parsed : Envelope.ofJson? (.object (Envelope.keepOnly item members)) = some alone)
    {other : Json} (member : other ∈ items) (shape : ¬ SignatureEntry.WellShaped other) :
    verifyEnvelopeAt document keys policy now = .error .malformed := by
  obtain ⟨_, _, _, envelope⟩ := Envelope.ofJson?_keepOnly parsed
  have unread : Envelope.parse? document = none := by
    rw [Envelope.parse?, whole, Option.bind_some, Option.eq_none_iff_forall_ne_some]
    intro e read
    have each := ((envelope items listed e).mp read).2
    have among : SignatureEntry.ofJson? other ∈ e.signatures.map some :=
      each ▸ List.mem_map_of_mem member
    obtain ⟨entry, _, same⟩ := List.mem_map.mp among
    exact shape ((SignatureEntry.isSome_ofJson?_iff other).mp (by rw [← same]; rfl))
  simp [verifyEnvelopeAt, unread]

/-- Elements that have the shape of an entry leave the one that verifies in force. -/
theorem verifyEnvelopeAt_of_well_shaped
    (whole : Json.parse? document = some (.object members))
    (listed : (some "signatures", .array items) ∈ members) (here : items[i]? = some item)
    {alone : Envelope}
    (parsed : Envelope.ofJson? (.object (Envelope.keepOnly item members)) = some alone)
    (accepted : alone.verifyAt keys policy now = .ok v)
    (shapes : ∀ other ∈ items, SignatureEntry.WellShaped other) :
    ∃ w, verifyEnvelopeAt document keys policy now = .ok w ∧ w.payload = v.payload ∧
      w.digest = v.digest ∧ w.entryIndex ≤ i := by
  obtain ⟨entry, only, reads, envelope⟩ := Envelope.ofJson?_keepOnly parsed
  have readable : (items.mapM SignatureEntry.ofJson?).isSome = true :=
    (Json.mapM_isSome_iff _ items).mpr fun other member =>
      (SignatureEntry.isSome_ofJson?_iff other).mpr (shapes other member)
  obtain ⟨entries, read⟩ := Option.isSome_iff_exists.mp readable
  have each := (Json.mapM_eq_some_iff _ items entries).mp read
  have there : entries[i]? = some entry := Json.getElem?_of_map_eq each here reads
  have first := (alone.verifyAt_eq_ok_iff keys policy now v).mp accepted
  obtain ⟨other, key, alone_here, acceptable, _, _⟩ := first.entry
  rw [only] at alone_here
  obtain rfl := List.mem_singleton.mp (List.mem_of_getElem? alone_here)
  let e : Envelope := ⟨alone.payload, entries⟩
  have still : e.Acceptable keys policy now other v.algorithm :=
    Envelope.acceptable_of_same_payload (show alone.payload = e.payload from rfl) acceptable
  obtain ⟨w, answer, payload, digest, index⟩ := e.verifyAt_of_acceptable there still
  have payloads : w.payload = v.payload := Option.some.inj (payload.symm.trans first.payload)
  have parses : Envelope.parse? document = some e := by
    rw [Envelope.parse?, whole, Option.bind_some]
    exact (envelope items listed e).mpr ⟨rfl, each⟩
  refine ⟨w, ?_, payloads, ?_, index⟩
  · exact (verifyEnvelopeAt_eq_ok_iff_parsed document keys policy now w).mpr ⟨e, parses, answer⟩
  · rw [digest, first.digest, payloads]

/-- The elements around an entry that verifies alone leave it in force exactly when each of
them has the shape of an entry, however little of an entry it may have beyond that. An element
of any other shape makes the document malformed. -/
theorem verifyEnvelopeAt_among_entries_iff
    (whole : Json.parse? document = some (.object members))
    (listed : (some "signatures", .array items) ∈ members) (here : items[i]? = some item)
    (kept : Json.parse? single = some (.object (Envelope.keepOnly item members)))
    (verified : verifyEnvelopeAt single keys policy now = .ok v) :
    ((∃ w, verifyEnvelopeAt document keys policy now = .ok w ∧ w.payload = v.payload ∧
        w.digest = v.digest ∧ w.entryIndex ≤ i) ↔
      ∀ other ∈ items, SignatureEntry.WellShaped other) ∧
    ((∃ other ∈ items, ¬ SignatureEntry.WellShaped other) →
      verifyEnvelopeAt document keys policy now = .error .malformed) := by
  obtain ⟨alone, parsed, accepted⟩ :=
    (verifyEnvelopeAt_eq_ok_iff_parsed single keys policy now v).mp verified
  rw [Envelope.parse?, kept, Option.bind_some] at parsed
  refine ⟨⟨?_, ?_⟩, ?_⟩
  · rintro ⟨w, answer, _⟩ other member
    by_cases shape : SignatureEntry.WellShaped other
    · exact shape
    · rw [verifyEnvelopeAt_of_misshapen whole listed parsed member shape] at answer
      cases answer
  · exact verifyEnvelopeAt_of_well_shaped whole listed here parsed accepted
  · rintro ⟨other, member, shape⟩
    exact verifyEnvelopeAt_of_misshapen whole listed parsed member shape

end Among

set_option maxRecDepth 20000 in
/-- An element with a number for its header leaves nothing of a document that verifies without
that element. -/
theorem misshapen_element_spoils_signed_entry :
    let number : Json := .record [("protected", .number (.ofNat 5))]
    let items := [Sample.signedEntry, number]
    Json.parse? (Sample.document items) = some (.object (Sample.members items)) ∧
    Json.parse? (Sample.document [Sample.signedEntry]) =
      some (.object (Envelope.keepOnly Sample.signedEntry (Sample.members items))) ∧
    (∃ v, verifyEnvelopeAt (Sample.document [Sample.signedEntry]) Sample.keys .any ⟨5, 0⟩ =
      .ok v) ∧
    verifyEnvelopeAt (Sample.document items) Sample.keys .any ⟨5, 0⟩ = .error .malformed :=
  ⟨rfl, rfl, ⟨_, Sample.verifyEnvelopeAt_document⟩, rfl⟩

set_option maxRecDepth 20000 in
/-- Elements that are empty, incomplete or no code of a header are passed over. -/
theorem signed_entry_among_incomplete_entries :
    let items := [.record [], Sample.signedEntry, .array [.text "!", .null]]
    ∃ w, verifyEnvelopeAt (Sample.document items) Sample.keys .any ⟨5, 0⟩ = .ok w ∧
      w.payload = [0x7B, 0x7D] ∧ w.digest = payloadDigest [0x7B, 0x7D] ∧ w.entryIndex ≤ 1 := by
  intro items
  have whole : Json.parse? (Sample.document items) = some (.object (Sample.members items)) := rfl
  have kept : Json.parse? (Sample.document [Sample.signedEntry]) =
      some (.object (Envelope.keepOnly Sample.signedEntry (Sample.members items))) := rfl
  have shapes : ∀ other ∈ items, SignatureEntry.WellShaped other := by
    decide
  exact (verifyEnvelopeAt_among_entries_iff whole (List.mem_cons_of_mem _ List.mem_cons_self)
    rfl kept Sample.verifyEnvelopeAt_document).1.mpr shapes

end FederationTrust
