import FederationTrust.Proofs.DecimalTexts
import FederationTrust.Proofs.Json.Members
import FederationTrust.Proofs.Json.RoundTrip
import FederationTrust.Proofs.Rounding
import FederationTrust.Proofs.Refusals

/-!
# Expiries of every spelling

The expiry of a protected header may be written as a number or as a text, and a whole number means
the same in both. Wherever dates are kept for it, it is the expiry exactly, and elsewhere the header
has no expiry, so that its entry is rejected under any trust and at any time.

The two spellings agree for different reasons. A text is read in 64 bits or not at all. A number
beyond 64 bits is rounded and then held within 64 bits, and what rounding keeps of its size is still
far beyond the dates.
-/

namespace FederationTrust

namespace Numeral

def ofInt (n : Int) : Numeral :=
  ⟨decide (n < 0), n.natAbs, [], none⟩

theorem printNumber_ofInt (n : Int) : Json.printNumber (ofInt n) = (toString n).toList := by
  rw [Text.toList_toString, Json.printNumber, ofInt]
  simp

/-- A document with nothing but the canonical form of a number holds its numeral. -/
theorem parse?_toString (n : Int) :
    Json.parse? (Bytes.ofText (toString n)) = some (.number (ofInt n)) := by
  have written : (Json.number (ofInt n)).render = toString n := by
    rw [Json.render, Json.print, printNumber_ofInt, String.ofList_toList]
  rw [← written, Json.parse?_render]

/-- The numeral is read in 64 bits if these hold the number, and otherwise it is not. -/
theorem int64?_ofInt_eq_some_iff {n v : Int} :
    (ofInt n).int64? = some v ↔ Text.FitsInt64 n ∧ v = n := by
  rw [int64?, if_pos ⟨rfl, rfl⟩, Text.FitsInt64]
  by_cases negative : n < 0
  · rw [ofInt, if_pos (decide_eq_true negative)]
    simp only [Option.ite_none_right_eq_some, Option.some.injEq]
    change (_ ∧ _ ≤ 2 ^ 63) ∧ _ ↔ _
    omega
  · rw [ofInt, if_neg (by simpa using negative)]
    simp only [Option.ite_none_right_eq_some, Option.some.injEq]
    change _ < 2 ^ 63 ∧ _ ↔ _
    omega

/-- The size of a number beyond 64 bits is rounded to a size that is beyond 58 bits. -/
theorem two_pow_le_floor_of_magnitude? {n : Int} {x : Binary64} (beyond : ¬ Text.FitsInt64 n)
    (rounds : (ofInt n).magnitude? = some x) : 2 ^ 58 ≤ x.floor := by
  have large : 2 ^ 60 ≤ n.natAbs := by
    rw [Text.FitsInt64] at beyond
    omega
  have kept := two_pow_le_leading large n.natAbs
  change scale? (leading n.natAbs n.natAbs).1 ((leading n.natAbs n.natAbs).2 - (0 : Nat)) = _
    at rounds
  have quarter := le_four_mul_floor_of_scale? (by omega) (by omega) rounds
  omega

theorem truncated?_ofInt {n v : Int} (beyond : ¬ Text.FitsInt64 n)
    (reads : (ofInt n).truncated? = some v) : v ≤ -2 ^ 58 ∨ 2 ^ 58 ≤ v := by
  obtain ⟨x, rounds, rfl⟩ := Option.map_eq_some_iff.mp reads
  have large := two_pow_le_floor_of_magnitude? beyond rounds
  have limit : ((Nat.pow 2 63 : Nat) : Int) = 2 ^ 63 := by decide
  rw [limit]
  split <;> omega

end Numeral

namespace ProtectedHeader

def Dated (n : Int) : Prop :=
  earliest ≤ n ∧ n ≤ latest

/-- The ways to write a whole number as the expiry of a header: the canonical numeral, or a text
that writes the number with white space around it. -/
inductive Spells (n : Int) : Json → Prop
  | number : Spells n (.number (.ofInt n))
  | text {before cs after : List Char} (blank : ∀ c ∈ before ++ after, Text.isBlank c = true)
    (writes : Text.Writes n cs) : Spells n (.text (String.ofList (before ++ cs ++ after)))

theorem Spells.expiry?_of_fits {n : Int} {e : Json} (spells : Spells n e)
    (fits : Text.FitsInt64 n) : expiry? e = some n := by
  cases spells with
  | number => rw [expiry?, Numeral.int64?_ofInt_eq_some_iff.mpr ⟨fits, rfl⟩]
  | text blank writes =>
    rw [expiry?, String.toList_ofList, Text.trim_append_append blank,
      Text.trim_eq_self writes.isBlank]
    exact writes.int64?_eq_some_iff.mpr ⟨fits, rfl⟩

theorem Spells.not_dated_of_not_fits {n v : Int} {e : Json} (spells : Spells n e)
    (beyond : ¬ Text.FitsInt64 n) (reads : expiry? e = some v) : ¬ Dated v := by
  cases spells with
  | number =>
    have unread : (Numeral.ofInt n).int64? = none :=
      Option.eq_none_iff_forall_ne_some.mpr fun v read =>
        beyond (Numeral.int64?_ofInt_eq_some_iff.mp read).1
    rw [expiry?, unread] at reads
    have far := Numeral.truncated?_ofInt beyond reads
    rw [Dated, earliest, latest]
    omega
  | text blank writes =>
    rw [expiry?, String.toList_ofList, Text.trim_append_append blank,
      Text.trim_eq_self writes.isBlank] at reads
    exact absurd (writes.int64?_eq_some_iff.mp reads).1 beyond

theorem Dated.fits {n : Int} (dated : Dated n) : Text.FitsInt64 n := by
  rw [Dated, earliest, latest] at dated
  rw [Text.FitsInt64]
  omega

/-- Every spelling is read as the number if dates are kept for it, and otherwise as no date. -/
theorem Spells.expiry?_dated_iff {n v : Int} {e : Json} (spells : Spells n e) :
    expiry? e = some v ∧ Dated v ↔ v = n ∧ Dated n := by
  constructor
  · rintro ⟨reads, dated⟩
    by_cases fits : Text.FitsInt64 n
    · obtain rfl := Option.some.inj ((spells.expiry?_of_fits fits).symm.trans reads)
      exact ⟨rfl, dated⟩
    · exact absurd dated (spells.not_dated_of_not_fits fits reads)
  · rintro ⟨rfl, dated⟩
    exact ⟨spells.expiry?_of_fits dated.fits, dated⟩

def others? (alg kid : Option Json) : Option (Option String × Option String) := do
  let alg ← Json.optional? Json.text? alg
  let kid ← Json.optional? Json.text? kid
  some (alg, kid)

theorem ofJson?_of_fields? {j : Json} {exp alg kid : Option Json}
    (fields : j.fields? [["exp"], ["alg"], ["kid"]] = some [exp, alg, kid]) :
    ofJson? j = (Json.required? expiry? exp).bind fun v =>
      (others? alg kid).map fun o => ⟨v, o.1, o.2⟩ := by
  rw [ofJson?, fields]
  simp [others?, Option.map_bind]

theorem ofJson?_of_no_fields {j : Json} (fields : j.fields? [["exp"], ["alg"], ["kid"]] = none) :
    ofJson? j = none := by
  rw [ofJson?, fields]
  rfl

/-- A header without its expiry: the members before and after the expiry, or the fields after it. -/
inductive Frame where
  | object (front back : List (Option String × Json))
  | array (rest : List Json)

namespace Frame

def fill (e : Json) : Frame → Json
  | object front back => .object (front ++ (some "exp", e) :: back)
  | array rest => .array (e :: rest)

/-- The algorithm and the key identifier, unless something about the header other than its expiry
keeps it from being read. -/
def rest? : Frame → Option (Option String × Option String)
  | object front back =>
    if ∀ m ∈ front ++ back, m.1.isSome = true ∧ m.1 ≠ some "exp" then do
      let alg ← Json.member? ["alg"] (front ++ back)
      let kid ← Json.member? ["kid"] (front ++ back)
      others? alg kid
    else none
  | array rest => if rest.length ≤ 2 then others? rest[0]? rest[1]? else none

variable {front back : List (Option String × Json)} {e : Json}

theorem membersNamed_fill (name : String) :
    Json.membersNamed name (front ++ (some "exp", e) :: back) =
      Json.membersNamed name front ++
        ((if name = "exp" then [(some "exp", e)] else []) ++ Json.membersNamed name back) := by
  rw [Json.membersNamed, List.filter_append, List.filter_cons]
  congr 1
  by_cases same : name = "exp"
  · rw [if_pos (decide_eq_true (congrArg some same.symm)), if_pos same]
    rfl
  · rw [if_neg (by simpa using Ne.symm same), if_neg same]
    rfl

/-- The member of the expiry does not matter for other names. -/
theorem member?_fill_of_ne {name : String} (other : name ≠ "exp") :
    Json.member? [name] (front ++ (some "exp", e) :: back) =
      Json.member? [name] (front ++ back) := by
  have same : Json.membersNamed name (front ++ (some "exp", e) :: back) =
      Json.membersNamed name (front ++ back) := by
    rw [membersNamed_fill, if_neg other, List.nil_append]
    exact (List.filter_append ..).symm
  rw [Json.member?_one_name, same, ← Json.member?_one_name]

theorem member?_fill (only : ∀ m ∈ front ++ back, m.1 ≠ some "exp") :
    Json.member? ["exp"] (front ++ (some "exp", e) :: back) = some (some e) := by
  rw [List.forall_mem_append] at only
  have before : Json.membersNamed "exp" front = [] :=
    List.filter_eq_nil_iff.mpr fun m member => by simpa using only.1 m member
  have after : Json.membersNamed "exp" back = [] :=
    List.filter_eq_nil_iff.mpr fun m member => by simpa using only.2 m member
  rw [Json.member?_one_name_eq_some_iff, membersNamed_fill, if_pos rfl, before, after]
  rfl

theorem member?_fill_of_again (again : ¬ ∀ m ∈ front ++ back, m.1 ≠ some "exp") :
    Json.member? ["exp"] (front ++ (some "exp", e) :: back) = none := by
  have more : Json.membersNamed "exp" front ++ Json.membersNamed "exp" back ≠ [] := by
    rw [Json.membersNamed, Json.membersNamed, ← List.filter_append]
    exact fun none => again fun m member => by simpa using List.filter_eq_nil_iff.mp none m member
  rw [Json.member?_one_name, membersNamed_fill, if_pos rfl]
  cases before : Json.membersNamed "exp" front with
  | nil =>
    rw [before] at more
    obtain ⟨second, rest, after⟩ := List.exists_cons_of_ne_nil more
    rw [List.nil_append] at after
    rw [after]
    rfl
  | cons first rest => cases rest <;> rfl

theorem ofJson?_fill_object (only : ∀ m ∈ front ++ back, m.1.isSome = true ∧ m.1 ≠ some "exp") :
    ofJson? (fill e (object front back)) = (expiry? e).bind fun v =>
      (rest? (object front back)).map fun o => ⟨v, o.1, o.2⟩ := by
  have named : ∀ m ∈ front ++ (some "exp", e) :: back, m.1.isSome = true := by
    rw [List.forall_mem_append] at only
    rw [List.forall_mem_append, List.forall_mem_cons]
    exact ⟨fun m member => (only.1 m member).1, rfl, fun m member => (only.2 m member).1⟩
  have fields := Json.fields?_of_named named [["exp"], ["alg"], ["kid"]]
  simp only [List.mapM_cons, List.mapM_nil, member?_fill fun m member => (only m member).2,
    member?_fill_of_ne (by decide : "alg" ≠ "exp"),
    member?_fill_of_ne (by decide : "kid" ≠ "exp")] at fields
  rw [rest?, if_pos only]
  cases alg : Json.member? ["alg"] (front ++ back) with
  | none =>
    rw [alg] at fields
    rw [fill, ofJson?_of_no_fields fields]
    exact (Option.bind_fun_none _).symm
  | some algValue =>
    cases kid : Json.member? ["kid"] (front ++ back) with
    | none =>
      rw [alg, kid] at fields
      rw [fill, ofJson?_of_no_fields fields]
      exact (Option.bind_fun_none _).symm
    | some kidValue =>
      rw [alg, kid] at fields
      exact ofJson?_of_fields? fields

theorem ofJson?_fill_of_spoilt
    (spoilt : ¬ ∀ m ∈ front ++ back, m.1.isSome = true ∧ m.1 ≠ some "exp") :
    ofJson? (fill e (object front back)) = none := by
  by_cases named : ∀ m ∈ front ++ (some "exp", e) :: back, m.1.isSome = true
  · refine ofJson?_of_no_fields ((Json.fields?_of_named named _).trans ?_)
    have again : ¬ ∀ m ∈ front ++ back, m.1 ≠ some "exp" := by
      intro only
      rw [List.forall_mem_append, List.forall_mem_cons] at named
      refine spoilt fun m member => ⟨?_, only m member⟩
      exact (List.mem_append.mp member).elim (named.1 m) (named.2.2 m)
    rw [List.mapM_cons, member?_fill_of_again again]
    rfl
  · exact ofJson?_of_no_fields (Json.fields?_of_unnamed named _)

/-- The expiry is read apart from the rest of the header. -/
theorem ofJson?_fill (frame : Frame) (e : Json) : ofJson? (frame.fill e) =
    (expiry? e).bind fun v => frame.rest?.map fun o => ⟨v, o.1, o.2⟩ := by
  cases frame with
  | object front back =>
    by_cases only : ∀ m ∈ front ++ back, m.1.isSome = true ∧ m.1 ≠ some "exp"
    · exact ofJson?_fill_object only
    · rw [ofJson?_fill_of_spoilt only, rest?, if_neg only]
      exact (Option.bind_fun_none _).symm
  | array rest =>
    by_cases short : rest.length ≤ 2
    · have fields : (Json.array (e :: rest)).fields? [["exp"], ["alg"], ["kid"]] =
          some [some e, rest[0]?, rest[1]?] := by
        match rest, short with
        | [], _ | [_], _ | [_, _], _ => rfl
      rw [fill, ofJson?_of_fields? fields, rest?, if_pos short]
      rfl
    · have fields : (Json.array (e :: rest)).fields? [["exp"], ["alg"], ["kid"]] = none := by
        rw [Json.fields?, if_neg]
        exact fun few => short (Nat.le_of_succ_le_succ few)
      rw [fill, ofJson?_of_no_fields fields, rest?, if_neg short]
      exact (Option.bind_fun_none _).symm

end Frame

end ProtectedHeader

def SignatureEntry.HoldsHeader (entry : SignatureEntry) (j : Json) : Prop :=
  ∃ text octets, entry.protectedHeader = some text ∧ decodeTolerant? text = some octets ∧
    Json.parse? octets = some j

namespace ProtectedHeader

variable {entry : SignatureEntry} {frame : Frame} {e : Json} {n : Int}

theorem unverifiedHeader_eq_ok_iff_of_holds {j : Json} (holds : entry.HoldsHeader j)
    (h : ProtectedHeader) : entry.unverifiedHeader = .ok h ↔ ofJson? j = some h := by
  obtain ⟨text, octets, given, decoded, parsed⟩ := holds
  rw [SignatureEntry.unverifiedHeader_eq_ok_iff]
  simp [given, ofText?, decoded, parsed]

/-- The expiry of a header that holds some spelling of a number. -/
theorem expiresAt_iff_of_spells (spells : Spells n e) (holds : entry.HoldsHeader (frame.fill e))
    (t : Int) :
    (∃ h, entry.unverifiedHeader = .ok h ∧ h.expiresAt? = some t) ↔
      t = n ∧ Dated n ∧ frame.rest?.isSome = true := by
  simp only [unverifiedHeader_eq_ok_iff_of_holds holds, Frame.ofJson?_fill, expiresAt?_eq_some_iff]
  constructor
  · rintro ⟨h, reads, dated, rfl⟩
    obtain ⟨v, expiry, reads⟩ := Option.bind_eq_some_iff.mp reads
    obtain ⟨o, rest, rfl⟩ := Option.map_eq_some_iff.mp reads
    obtain ⟨same, dated⟩ := spells.expiry?_dated_iff.mp ⟨expiry, dated⟩
    exact ⟨same, dated, Option.isSome_of_eq_some rest⟩
  · rintro ⟨rfl, dated, rest⟩
    obtain ⟨o, rest⟩ := Option.isSome_iff_exists.mp rest
    refine ⟨⟨t, o.1, o.2⟩, ?_, dated, rfl⟩
    rw [spells.expiry?_of_fits dated.fits, rest]
    rfl

/-- An entry without expiry is rejected, under any trust and at any time. -/
theorem rejected_of_no_expiry
    (no : ∀ h, entry.unverifiedHeader = .ok h → h.expiresAt? = none) (envelope : Envelope)
    (keys : KeySet) (policy : AlgorithmPolicy) (now : Instant) :
    ∃ reason, Verification.tryEntry envelope keys policy now entry = .rejected reason := by
  rw [Verification.tryEntry]
  cases read : entry.unverifiedHeader with
  | error f => exact ⟨_, rfl⟩
  | ok h =>
    dsimp only
    rw [no h read]
    exact ⟨_, rfl⟩

/-- A whole number means the same expiry in every spelling. The header, where nothing else keeps it
from being read, has the number for its expiry if dates are kept for it, and no number is rounded
that 64 bits hold. All other headers have no expiry, and their entries are rejected. -/
theorem expiry_of_every_spelling (spells : Spells n e)
    (holds : entry.HoldsHeader (frame.fill e)) :
    Json.parse? (Bytes.ofText (toString n)) = some (.number (.ofInt n)) ∧
    (∀ t, (∃ h, entry.unverifiedHeader = .ok h ∧ h.expiresAt? = some t) ↔
      t = n ∧ Dated n ∧ frame.rest?.isSome = true) ∧
    (∀ alg kid, Text.FitsInt64 n → frame.rest? = some (alg, kid) →
      entry.unverifiedHeader = .ok ⟨n, alg, kid⟩) ∧
    ∀ envelope keys policy now,
      let outcome := Verification.tryEntry envelope keys policy now entry
      (¬ (Dated n ∧ frame.rest?.isSome = true) → ∃ reason, outcome = .rejected reason) ∧
      (Dated n ∧ frame.rest?.isSome = true →
        ((∃ t, outcome = .expired t) ↔ Instant.before ⟨n, 0⟩ now = true)) := by
  have expires := expiresAt_iff_of_spells spells holds
  refine ⟨Numeral.parse?_toString n, expires, ?_, fun envelope keys policy now => ⟨?_, ?_⟩⟩
  · intro alg kid fits rest
    rw [unverifiedHeader_eq_ok_iff_of_holds holds, Frame.ofJson?_fill,
      spells.expiry?_of_fits fits, rest]
    rfl
  · intro never
    refine rejected_of_no_expiry (fun h read => ?_) envelope keys policy now
    refine Option.eq_none_iff_forall_ne_some.mpr fun t expiry => never ?_
    exact ((expires t).mp ⟨h, read, expiry⟩).2
  · intro dated
    simp only [Verification.tryEntry_eq_expired_iff]
    constructor
    · rintro ⟨t, h, read, expiry, past⟩
      obtain ⟨rfl, -⟩ := (expires t).mp ⟨h, read, expiry⟩
      exact past
    · intro past
      obtain ⟨h, read, expiry⟩ := (expires n).mpr ⟨rfl, dated⟩
      exact ⟨n, h, read, expiry, past⟩

set_option maxRecDepth 20000 in
/-- The least number that 64 bits do not hold, as a number, gets its entry rejected, and a small
number is read from a text with a plus sign and white space. -/
theorem great_expiry_rejected_and_padded_expiry_read :
    (∀ envelope keys policy now, ∃ reason, Verification.tryEntry envelope keys policy now
      ⟨some "eyJleHAiOjkyMjMzNzIwMzY4NTQ3NzU4MDh9", none⟩ = .rejected reason) ∧
    SignatureEntry.unverifiedHeader ⟨some "WyJcdCs1ICJd", none⟩ = .ok ⟨5, none, none⟩ := by
  constructor
  · have holds : SignatureEntry.HoldsHeader ⟨some "eyJleHAiOjkyMjMzNzIwMzY4NTQ3NzU4MDh9", none⟩
        (Frame.fill (.number (.ofInt (2 ^ 63))) (.object [] [])) :=
      ⟨_, _, rfl, rfl, rfl⟩
    obtain ⟨-, -, -, outcome⟩ := expiry_of_every_spelling .number holds
    exact fun envelope keys policy now =>
      (outcome envelope keys policy now).1 fun dated => absurd dated.1.2 (by decide)
  · have holds : SignatureEntry.HoldsHeader ⟨some "WyJcdCs1ICJd", none⟩
        (Frame.fill (.text "\t+5 ") (.array [])) :=
      ⟨_, _, rfl, rfl, rfl⟩
    have spells : Spells 5 (.text "\t+5 ") :=
      @Spells.text 5 ['\t'] ['+', '5'] [' '] (List.all_eq_true.mp rfl) (.plus (by decide))
    obtain ⟨-, -, reads, -⟩ := expiry_of_every_spelling spells holds
    exact reads none none ⟨by decide, by decide⟩ rfl

end ProtectedHeader

end FederationTrust
