import FederationTrust.Metadata.Basic
import FederationTrust.Proofs.Json.Members
import FederationTrust.Proofs.Json.RoundTrip
import FederationTrust.Proofs.Reuse

/-!
# Stated lifetimes

A lifetime is stated in a document by a member of its own, which is null or a whole number that
64 bits hold. The cache looks for that member and passes over all others, while metadata is read
as a whole; still both find the same lifetime. A lifetime that keeps a document from being read
as metadata keeps it from being reused too.
-/

namespace FederationTrust

open Json

theorem Numeral.word?_eq_some_iff (n : Numeral) (w : UInt64) :
    n.word? = some w ↔ n = .ofNat w.toNat := by
  obtain ⟨negative, whole, fraction, exponent⟩ := n
  by_cases plain : negative = false ∧ fraction = [] ∧ exponent = none
  · obtain ⟨rfl, rfl, rfl⟩ := plain
    by_cases small : whole < wordLimit
    · have kept : (UInt64.ofNat whole).toNat = whole := UInt64.toNat_ofNat_of_lt' small
      simp only [word?, nat?, and_self, if_true, Option.bind_some, small, Option.some.injEq, ofNat,
        mk.injEq, true_and, and_true]
      constructor
      · rintro rfl
        exact kept.symm
      · rintro rfl
        exact UInt64.ofNat_toNat
    · have other : whole ≠ w.toNat := fun same => small (same ▸ w.toNat_lt)
      simp [word?, nat?, small, ofNat, other]
  · have other : ¬ (⟨negative, whole, fraction, exponent⟩ : Numeral) = .ofNat w.toNat := by
      intro same
      obtain ⟨rfl, -, rfl, rfl⟩ := Numeral.mk.inj same
      exact plain ⟨rfl, rfl, rfl⟩
    simp [word?, nat?, plain, other]

namespace CachedCopy

/-- What stands for a lifetime: null for none, or a whole number that 64 bits hold. -/
inductive StandsFor : Json → Option UInt64 → Prop
  | none : StandsFor .null none
  | seconds (n : UInt64) : StandsFor (.ofWord n) (some n)

/-- The documents that the cache can read, with the lifetime that they state: an object that
names it once or not at all, or an array that has it as its only element or has none. -/
inductive States : Json → Option UInt64 → Prop
  | unstated {members : List (Option String × Json)} (named : ∀ m ∈ members, m.1.isSome = true)
    (absent : membersNamed "cache_ttl" members = []) : States (.object members) none
  | stated {members : List (Option String × Json)} {j : Json} {ttl : Option UInt64}
    (named : ∀ m ∈ members, m.1.isSome = true)
    (once : membersNamed "cache_ttl" members = [(some "cache_ttl", j)])
    (stands : StandsFor j ttl) : States (.object members) ttl
  | empty : States (.array []) none
  | only {j : Json} {ttl : Option UInt64} (stands : StandsFor j ttl) : States (.array [j]) ttl

theorem optional?_word?_eq_some_iff (j : Json) (ttl : Option UInt64) :
    optional? word? (some j) = some ttl ↔ StandsFor j ttl := by
  constructor
  · intro read
    cases j with
    | null =>
      obtain rfl := Option.some.inj read
      exact .none
    | number n =>
      obtain ⟨w, whole, rfl⟩ := Option.map_eq_some_iff.mp read
      obtain rfl := (n.word?_eq_some_iff w).mp whole
      exact .seconds w
    | bool | string | array | object => cases read
  · rintro (_ | n)
    · rfl
    · have whole := (Numeral.word?_eq_some_iff (.ofNat n.toNat) n).mpr rfl
      simp only [ofWord, optional?, word?, whole, Option.map_some]

theorem StandsFor.unique {j : Json} {ttl other : Option UInt64} (one : StandsFor j ttl)
    (two : StandsFor j other) : ttl = other := by
  have first := (optional?_word?_eq_some_iff j ttl).mpr one
  have second := (optional?_word?_eq_some_iff j other).mpr two
  exact Option.some.inj (first.symm.trans second)

/-- No document states two lifetimes. -/
theorem States.unique {j : Json} {ttl other : Option UInt64} (one : States j ttl)
    (two : States j other) : ttl = other := by
  cases one with
  | unstated _ absent =>
    cases two with
    | unstated _ _ => rfl
    | stated _ once _ => cases absent.symm.trans once
  | stated _ once stands =>
    cases two with
    | unstated _ absent => cases absent.symm.trans once
    | stated _ again stands' =>
      obtain ⟨same, -⟩ := List.cons.inj (once.symm.trans again)
      obtain ⟨-, rfl⟩ := Prod.mk.inj same
      exact stands.unique stands'
  | empty =>
    cases two
    rfl
  | only stands =>
    cases two with
    | only stands' => exact stands.unique stands'

/-- The field of an object from which a lifetime is read, by the cache and in metadata. -/
theorem member?_ttl_eq_some_iff {members : List (Option String × Json)}
    (named : ∀ m ∈ members, m.1.isSome = true) (ttl : Option UInt64) :
    (member? ["cache_ttl"] members).bind (optional? word?) = some ttl ↔
      States (.object members) ttl := by
  constructor
  · intro read
    rw [member?_one_name] at read
    rcases found : membersNamed "cache_ttl" members with _ | ⟨m, _ | ⟨_, _⟩⟩
    · simp only [found, Option.bind_some] at read
      obtain rfl := Option.some.inj read
      exact .unstated named found
    · simp only [found, Option.bind_some] at read
      have once := membersNamed_eq_singleton found
      rw [once] at found
      exact .stated named found ((optional?_word?_eq_some_iff m.2 ttl).mp read)
    · simp [found] at read
  · rintro (⟨_, absent⟩ | ⟨_, once, stands⟩)
    · simp only [member?_one_name, absent, Option.bind_some]
      rfl
    · rw [(member?_one_name_eq_some_iff _ _ _).mpr once, Option.bind_some]
      exact (optional?_word?_eq_some_iff _ ttl).mpr stands

/-- The cache reads a lifetime exactly from the documents that state one. -/
theorem statedTtl?_eq_some_iff {document : Bytes} {j : Json}
    (holds : Json.parse? document = some j) (ttl : Option UInt64) :
    statedTtl? document = some ttl ↔ States j ttl := by
  rw [statedTtl?, holds]
  cases j with
  | object members =>
    by_cases named : ∀ m ∈ members, m.1.isSome = true
    · rw [← member?_ttl_eq_some_iff named ttl, Option.bind_eq_bind, Option.bind_some,
        fields?_single named]
      cases member? ["cache_ttl"] members <;> rfl
    · rw [Option.bind_eq_bind, Option.bind_some, fields?_of_unnamed named]
      constructor
      · intro read
        cases read
      · intro states
        cases states <;> contradiction
  | array items =>
    rcases items with _ | ⟨j, _ | ⟨more, rest⟩⟩
    · constructor
      · intro read
        obtain rfl := Option.some.inj read
        exact .empty
      · rintro ⟨⟩
        rfl
    · refine (optional?_word?_eq_some_iff j ttl).trans ⟨.only, ?_⟩
      rintro ⟨⟩
      assumption
    · exact ⟨nofun, nofun⟩
  | null | bool | number | string => exact ⟨nofun, nofun⟩

theorem statedTtl?_eq_none_of_unstated {document : Bytes} {j : Json}
    (holds : Json.parse? document = some j) (unstated : ∀ ttl, ¬ States j ttl) :
    statedTtl? document = none := by
  rw [Option.eq_none_iff_forall_ne_some]
  intro ttl read
  exact unstated ttl ((statedTtl?_eq_some_iff holds ttl).mp read)

theorem lifetime?_eq_some_iff (document : Bytes) (standard : UInt64) (lifetime : Lifetime) :
    lifetime? document standard = some lifetime ↔
      ∃ j ttl, Json.parse? document = some j ∧ States j ttl ∧
        lifetime = .ofSeconds (ttl.getD standard) := by
  rw [lifetime?, Option.map_eq_some_iff]
  cases holds : Json.parse? document with
  | none =>
    have unread : statedTtl? document = none := by
      rw [statedTtl?, holds]
      rfl
    simp [unread]
  | some j =>
    constructor
    · rintro ⟨ttl, stated, rfl⟩
      exact ⟨j, ttl, rfl, (statedTtl?_eq_some_iff holds ttl).mp stated, rfl⟩
    · rintro ⟨_, ttl, ⟨⟩, states, rfl⟩
      exact ⟨ttl, (statedTtl?_eq_some_iff holds ttl).mpr states, rfl⟩

/-- A copy from which no lifetime is read is never reused. -/
theorem inspect_eq_none_of_unread {document : Bytes} {w : Machine} {path : Path}
    (unstated : statedTtl? document = none) (read : w.files.read? path = some document)
    (standard : UInt64) : ((inspect path standard).run w).1 = none := by
  rw [Option.eq_none_iff_forall_ne_some]
  intro c seen
  obtain ⟨content, file, stated, -⟩ := inspect_eq_some_iff.mp seen
  have same := FileSystem.read?_eq_some_iff.mpr ⟨_, file⟩
  obtain rfl := Option.some.inj (read.symm.trans same)
  rw [lifetime?, unstated] at stated
  cases stated

/-- The documents that misstate their lifetime: they give it twice, or give something that stands
for none. -/
inductive Misstates : Json → Prop
  | twice {members : List (Option String × Json)}
    (repeated : 2 ≤ (membersNamed "cache_ttl" members).length) : Misstates (.object members)
  | member {members : List (Option String × Json)} {j : Json}
    (given : (some "cache_ttl", j) ∈ members) (wrong : ∀ ttl, ¬ StandsFor j ttl) :
    Misstates (.object members)
  | first {j : Json} {items : List Json} (wrong : ∀ ttl, ¬ StandsFor j ttl) :
    Misstates (.array (j :: items))

theorem Misstates.not_states {j : Json} (h : Misstates j) (ttl : Option UInt64) :
    ¬ States j ttl := by
  intro states
  cases h with
  | twice repeated =>
    cases states with
    | unstated _ absent =>
      rw [absent] at repeated
      simp at repeated
    | stated _ once _ =>
      rw [once] at repeated
      simp at repeated
  | @member members j given wrong =>
    have among : (some "cache_ttl", j) ∈ membersNamed "cache_ttl" members := by
      simpa [membersNamed] using given
    cases states with
    | unstated _ absent =>
      rw [absent] at among
      cases among
    | stated _ once stands =>
      rw [once, List.mem_singleton] at among
      obtain ⟨-, rfl⟩ := Prod.mk.inj among
      exact wrong ttl stands
  | first wrong =>
    cases states with
    | only stands => exact wrong ttl stands

/-- Of the objects all of whose names are text, those that misstate a lifetime are the only ones
that state none in any way. -/
theorem misstates_iff {members : List (Option String × Json)}
    (named : ∀ m ∈ members, m.1.isSome = true) :
    Misstates (.object members) ↔ ∀ ttl, ¬ States (.object members) ttl := by
  constructor
  · exact fun misstates ttl => misstates.not_states ttl
  · intro unstated
    rcases found : membersNamed "cache_ttl" members with _ | ⟨m, _ | ⟨other, rest⟩⟩
    · exact absurd (.unstated named found) (unstated none)
    · have once := membersNamed_eq_singleton found
      have given : m ∈ members := by
        have kept : m ∈ membersNamed "cache_ttl" members := by simp [found]
        exact (List.mem_filter.mp kept).1
      rw [once] at found given
      refine .member given fun ttl stands => ?_
      exact unstated ttl (.stated named found stands)
    · refine .twice ?_
      simp [found]

end CachedCopy

namespace Metadata

open CachedCopy

/-- An object is metadata when its names are text and both its lifetime and its entities read. -/
theorem ofJson?_object_eq_some_iff (members : List (Option String × Json)) (m : Metadata) :
    ofJson? (.object members) = some m ↔
      (∀ m ∈ members, m.1.isSome = true) ∧ States (.object members) m.cacheTtl ∧
      (member? ["entities"] members).bind (required? (listOf? Entity.ofJson?)) =
        some m.entities := by
  by_cases named : ∀ m ∈ members, m.1.isSome = true
  · rw [← member?_ttl_eq_some_iff named, ofJson?, fields?_pair named]
    cases member? ["cache_ttl"] members with
    | none => simp
    | some ttl =>
      cases member? ["entities"] members with
      | none => simp
      | some entities =>
        simp only [Option.bind_some, Option.map_some, Option.bind_eq_bind,
          Option.bind_eq_some_iff, Option.some.injEq]
        constructor
        · rintro ⟨ttl', readsTtl, entities', readsEntities, rfl⟩
          exact ⟨named, readsTtl, readsEntities⟩
        · rintro ⟨-, readsTtl, readsEntities⟩
          exact ⟨m.cacheTtl, readsTtl, m.entities, readsEntities, rfl⟩
  · rw [ofJson?, fields?_of_unnamed named]
    constructor
    · intro read
      cases read
    · intro reads
      exact absurd reads.1 named

/-- In an array the lifetime comes first, and the entities have to follow. -/
theorem ofJson?_array_eq_some {items : List Json} {m : Metadata}
    (read : ofJson? (.array items) = some m) :
    ∃ first second, items = [first, second] ∧ StandsFor first m.cacheTtl := by
  rcases items with _ | ⟨first, _ | ⟨second, _ | ⟨third, rest⟩⟩⟩
  · cases read
  · simp [ofJson?, fields?, required?] at read
  · refine ⟨first, second, rfl, ?_⟩
    rw [← optional?_word?_eq_some_iff]
    have fields : (Json.array [first, second]).fields? [["cache_ttl"], ["entities"]] =
        some [some first, some second] := rfl
    simp only [ofJson?, fields, Option.bind_eq_bind, Option.bind_some, Option.bind_eq_some_iff,
      Option.some.injEq] at read
    obtain ⟨ttl, readsTtl, _, _, rfl⟩ := read
    exact readsTtl
  · simp [ofJson?, fields?] at read

theorem exists_parse?_of_parse? {document : Bytes} {m : Metadata}
    (read : parse? document = some m) :
    ∃ j, Json.parse? document = some j ∧ ofJson? j = some m :=
  Option.bind_eq_some_iff.mp read

/-- Whatever keeps a lifetime from being read keeps metadata from being read. -/
theorem ofJson?_eq_none_of_misstates {j : Json} (h : Misstates j) : ofJson? j = none := by
  rw [Option.eq_none_iff_forall_ne_some]
  intro m read
  cases h with
  | twice repeated =>
    obtain ⟨_, states, _⟩ := (ofJson?_object_eq_some_iff _ m).mp read
    exact (Misstates.twice repeated).not_states _ states
  | member given wrong =>
    obtain ⟨_, states, _⟩ := (ofJson?_object_eq_some_iff _ m).mp read
    exact (Misstates.member given wrong).not_states _ states
  | first wrong =>
    obtain ⟨_, _, same, stands⟩ := ofJson?_array_eq_some read
    obtain ⟨rfl, -⟩ := List.cons.inj same
    exact wrong _ stands

/-- Where all else is as in metadata, nothing but the lifetime keeps an object from being read. -/
theorem ofJson?_eq_none_iff_misstates {members : List (Option String × Json)}
    {entities : List Entity} (named : ∀ m ∈ members, m.1.isSome = true)
    (others : (member? ["entities"] members).bind (required? (listOf? Entity.ofJson?)) =
      some entities) :
    ofJson? (.object members) = none ↔ Misstates (.object members) := by
  constructor
  · intro refused
    refine (misstates_iff named).mpr fun ttl states => ?_
    have read : ofJson? (.object members) = some ⟨ttl, entities⟩ :=
      (ofJson?_object_eq_some_iff members _).mpr ⟨named, states, others⟩
    rw [refused] at read
    cases read
  · exact ofJson?_eq_none_of_misstates

/-- A document that is read both ways states the one lifetime to both readers. -/
theorem cacheTtl_eq_of_states {j : Json} {m : Metadata} {ttl : Option UInt64}
    (read : ofJson? j = some m) (states : States j ttl) : ttl = m.cacheTtl := by
  cases j with
  | object members =>
    obtain ⟨_, also, _⟩ := (ofJson?_object_eq_some_iff members m).mp read
    exact states.unique also
  | array items =>
    -- An array that is metadata has one element too many for the cache.
    obtain ⟨_, _, rfl, _⟩ := ofJson?_array_eq_some read
    cases states
  | null | bool | number | string => cases read

end Metadata

open CachedCopy

/-- The cache and the reader of metadata agree on lifetimes. An object that is metadata is reused
for the seconds that the metadata states, or for the standard time if it states none, and no
document means two different lifetimes. A document that misstates its lifetime is neither metadata
nor ever reused; and where everything else is as in metadata, this is the only reason why it is
not. -/
theorem cache_reads_lifetime_of_metadata (document : Bytes) :
    (∀ m members, Metadata.parse? document = some m →
      Json.parse? document = some (.object members) →
      statedTtl? document = some m.cacheTtl ∧
      ∀ w path modified standard, Machine.Admits w 0 → w.Admits 1 →
        w.files.file? path = some (document, modified) →
        ((inspect path standard).run w).1 =
          some ⟨path, .ofSeconds (m.cacheTtl.getD standard), modified⟩) ∧
    (∀ m ttl, Metadata.parse? document = some m → statedTtl? document = some ttl →
      ttl = m.cacheTtl) ∧
    (∀ j, Json.parse? document = some j → Misstates j →
      Metadata.parse? document = none ∧ statedTtl? document = none ∧
      ∀ w path standard, w.files.read? path = some document →
        ((inspect path standard).run w).1 = none) ∧
    ∀ members entities, Json.parse? document = some (.object members) →
      (∀ m ∈ members, m.1.isSome = true) →
      (member? ["entities"] members).bind (required? (listOf? Entity.ofJson?)) = some entities →
      (Metadata.parse? document = none ↔ Misstates (.object members)) := by
  refine ⟨?_, ?_, ?_, ?_⟩
  · intro m members read holds
    have object : Metadata.ofJson? (.object members) = some m := by
      rw [Metadata.parse?, holds] at read
      exact read
    obtain ⟨_, states, _⟩ := (Metadata.ofJson?_object_eq_some_iff members m).mp object
    have stated := (statedTtl?_eq_some_iff holds m.cacheTtl).mpr states
    refine ⟨stated, ?_⟩
    intro w path modified standard first second file
    refine inspect_of_admits file ?_ first second
    rw [lifetime?, stated, Option.map_some]
  · intro m ttl read stated
    obtain ⟨j, holds, record⟩ := Metadata.exists_parse?_of_parse? read
    exact Metadata.cacheTtl_eq_of_states record ((statedTtl?_eq_some_iff holds ttl).mp stated)
  · intro j holds misstates
    have unstated := statedTtl?_eq_none_of_unstated holds misstates.not_states
    refine ⟨?_, unstated, ?_⟩
    · rw [Metadata.parse?, holds, Option.bind_some]
      exact Metadata.ofJson?_eq_none_of_misstates misstates
    · intro w path standard read
      exact inspect_eq_none_of_unread unstated read standard
  · intro members entities holds named readsEntities
    rw [Metadata.parse?, holds, Option.bind_some]
    exact Metadata.ofJson?_eq_none_iff_misstates named readsEntities

namespace Sample

def ttlMembers (ttl : Json) : List (Option String × Json) :=
  [(some "cache_ttl", ttl), (some "note", .string none), (some "entities", .array [])]

def ttlDocument (ttl : Json) : Bytes :=
  Bytes.ofText (Json.object (ttlMembers ttl)).render

def ttlFiles (ttl : Json) : FileSystem where
  nodes := [(["c"], .file (ttlDocument ttl) ⟨7, 0⟩)]
  workingDirectory := []

end Sample

/-- The greatest lifetime is read both ways; half a second is none. -/
theorem greatest_lifetime_and_half_second :
    let half : Json := .number ⟨false, 0, [5], none⟩
    let greatest : UInt64 := 18446744073709551615
    Json.parse? (Sample.ttlDocument (.ofWord greatest)) =
      some (.object (Sample.ttlMembers (.ofWord greatest))) ∧
    Metadata.parse? (Sample.ttlDocument (.ofWord greatest)) = some ⟨some greatest, []⟩ ∧
    ((inspect ⟨"c"⟩ 3600).run (.quiet (Sample.ttlFiles (.ofWord greatest)) ⟨9, 0⟩ 1)).1 =
      some ⟨⟨"c"⟩, ⟨18446744073709551615, 0⟩, ⟨7, 0⟩⟩ ∧
    Json.parse? (Sample.ttlDocument half) = some (.object (Sample.ttlMembers half)) ∧
    Misstates (.object (Sample.ttlMembers half)) ∧
    ((inspect ⟨"c"⟩ 3600).run (.quiet (Sample.ttlFiles half) ⟨9, 0⟩ 1)).1 = none := by
  intro half greatest
  have holds (ttl : Json) : Json.parse? (Sample.ttlDocument ttl) =
      some (.object (Sample.ttlMembers ttl)) := Json.parse?_render _
  have read : Metadata.parse? (Sample.ttlDocument (.ofWord greatest)) =
      some ⟨some greatest, []⟩ := by
    rw [Metadata.parse?, holds]
    rfl
  have wrong : Misstates (.object (Sample.ttlMembers half)) := by
    refine .member List.mem_cons_self fun ttl stands => ?_
    cases (optional?_word?_eq_some_iff half ttl).mpr stands
  obtain ⟨agrees, -⟩ := cache_reads_lifetime_of_metadata (Sample.ttlDocument (.ofWord greatest))
  obtain ⟨-, -, refuses, -⟩ := cache_reads_lifetime_of_metadata (Sample.ttlDocument half)
  have seen := (agrees _ _ read (holds _)).2 (.quiet (Sample.ttlFiles (.ofWord greatest)) ⟨9, 0⟩ 1)
    ⟨"c"⟩ ⟨7, 0⟩ 3600 (by decide) (by decide) rfl
  have unseen := (refuses _ (holds half) wrong).2.2
    (.quiet (Sample.ttlFiles half) ⟨9, 0⟩ 1) ⟨"c"⟩ 3600 rfl
  exact ⟨holds _, read, seen, holds half, wrong, unseen⟩

end FederationTrust
