import FederationTrust.KeyFile.File
import FederationTrust.Proofs.KeyFiles
import FederationTrust.Proofs.Reuse
import FederationTrust.Proofs.WellFormedKeys

/-!
# Sets of keys and single keys

A set of keys and a key alone are read by the same measure. In a set a malformed value spoils the
file, while a well-formed one whose numbers do not decode is passed over with a warning, so that
the usable keys stay in their order. Alone, either is an error. No value of a set has a say in
how the others are read.
-/

namespace FederationTrust

namespace KeySet

open Job

variable {file : Bytes} {j : Json} {items : List Json} {jwks : List Jwk} {keys : KeySet}
variable {path : Path} {w : Machine}

/-- A key file holds a set of keys that lists these values. -/
def Lists (file : Bytes) (items : List Json) : Prop :=
  ∃ j, Holds file j ∧ j.get? "keys" = some (.array items)

theorem lists_render
    (plain : (Json.record [("keys", .array items)]).plainWithin Json.depthLimit = true) :
    Lists (Bytes.ofText (Json.record [("keys", .array items)]).render) items :=
  ⟨_, holds_render plain, rfl⟩

/-- The usable keys of a list of values, and how many of the values are none. -/
def ofItems (items : List Json) : KeySet :=
  ⟨items.filterMap Jwk.keyOf?, items.countP fun j => (Jwk.keyOf? j).isNone⟩

/-- What is made of well-formed keys depends on nothing but the values they are read from. -/
theorem ofJwks_eq_ofItems (read : items.map Jwk.ofJson? = jwks.map some) :
    ofJwks jwks = ofItems items := by
  have keys : items.filterMap Jwk.keyOf? = jwks.filterMap Jwk.key? := by
    calc items.filterMap Jwk.keyOf?
      _ = (items.map Jwk.ofJson?).filterMap (·.bind Jwk.key?) := by rw [List.filterMap_map]; rfl
      _ = (jwks.map some).filterMap (·.bind Jwk.key?) := by rw [read]
      _ = jwks.filterMap Jwk.key? := by rw [List.filterMap_map]; rfl
  have skipped : (items.countP fun j => (Jwk.keyOf? j).isNone) =
      jwks.countP fun k => k.key?.isNone := by
    calc (items.countP fun j => (Jwk.keyOf? j).isNone)
      _ = (items.map Jwk.ofJson?).countP fun k => (k.bind Jwk.key?).isNone := by
        rw [List.countP_map]; rfl
      _ = (jwks.map some).countP fun k => (k.bind Jwk.key?).isNone := by rw [read]
      _ = jwks.countP fun k => k.key?.isNone := by rw [List.countP_map]; rfl
  rw [ofJwks, ofItems, keys, skipped, List.countP_eq_length_filter]

/-- Each value of a list is a usable key or passed over. -/
theorem length_ofItems (items : List Json) :
    (ofItems items).keys.length + (ofItems items).skipped = items.length := by
  induction items with
  | nil => rfl
  | cons item rest ih =>
    simp only [ofItems] at ih ⊢
    cases usable : Jwk.keyOf? item with
    | none => simp [usable]; omega
    | some key => simp [usable]; omega

theorem ofItems_append (front rest : List Json) :
    ofItems (front ++ rest) = ⟨(ofItems front).keys ++ (ofItems rest).keys,
      (ofItems front).skipped + (ofItems rest).skipped⟩ := by
  simp [ofItems]

/-- A set of keys reads as its usable ones if all of its values are well-formed. -/
theorem ofJson_of_wellFormed (listed : j.get? "keys" = some (.array items))
    (each : ∀ item ∈ items, Jwk.WellFormed item) : ofJson j = .ok (ofItems items) := by
  have read : (items.mapM Jwk.ofJson?).isSome = true :=
    (Json.mapM_isSome_iff _ _).mpr fun item member => Jwk.ofJson?_isSome_iff.mpr (each item member)
  obtain ⟨jwks, read⟩ := Option.isSome_iff_exists.mp read
  have whole : Json.listOf? Jwk.ofJson? (.array items) = some jwks := read
  rw [ofJson, listed]
  dsimp only
  rw [whole, ← ofJwks_eq_ofItems ((Json.mapM_eq_some_iff _ _ _).mp read)]

theorem ofJson_of_malformed (listed : j.get? "keys" = some (.array items))
    (wrong : ¬ ∀ item ∈ items, Jwk.WellFormed item) : ofJson j = .error .badSet := by
  have unread : Json.listOf? Jwk.ofJson? (.array items) = none := by
    rw [← Option.not_isSome_iff_eq_none]
    intro read
    apply wrong
    intro item member
    exact Jwk.ofJson?_isSome_iff.mp ((Json.mapM_isSome_iff _ _).mp read item member)
  rw [ofJson, listed]
  dsimp only
  rw [unread]

theorem parse_of_malformed (lists : Lists file items)
    (wrong : ¬ ∀ item ∈ items, Jwk.WellFormed item) : parse file = .error .badSet := by
  obtain ⟨j, holds, listed⟩ := lists
  rw [parse_of_holds holds, ofJson_of_malformed listed wrong]

/-- A file that lists values parses exactly when all of them are well-formed. -/
theorem parse_eq_ok_iff (lists : Lists file items) :
    parse file = .ok keys ↔ (∀ item ∈ items, Jwk.WellFormed item) ∧ keys = ofItems items := by
  by_cases each : ∀ item ∈ items, Jwk.WellFormed item
  · obtain ⟨j, holds, listed⟩ := lists
    rw [parse_of_holds holds, ofJson_of_wellFormed listed each, Except.ok.injEq]
    constructor
    · intro same
      exact ⟨each, same.symm⟩
    · rintro ⟨-, same⟩
      exact same.symm
  · rw [parse_of_malformed lists each]
    simp [each]

theorem exists_parse_eq_ok_iff (lists : Lists file items) :
    (∃ keys, parse file = .ok keys) ↔ ∀ item ∈ items, Jwk.WellFormed item := by
  simp [parse_eq_ok_iff lists]

def skipWarning : SystemCall :=
  .log ⟨.warn, source, "skipping unusable key"⟩

theorem calls_warnSkipped (n : Nat) (w : Machine) :
    ((warnSkipped n).calls w).map Prod.fst = List.replicate n skipWarning := by
  induction n generalizing w with
  | zero => rfl
  | succ n ih => exact congrArg (skipWarning :: ·) (ih _)

/-- When a key file is loaded, there is one warning for each key that is passed over. -/
theorem count_skipWarning_load (read : w.files.read? path = some file) (admits : w.Admits 0)
    (parsed : parse file = .ok keys) :
    (((load path).calls w).map Prod.fst).count skipWarning = keys.skipped := by
  have answered : (w.answer (.read path)).1 = .ok file := by
    simp only [Machine.answer, read, Machine.look_of_admits admits]
  rw [load, calls_bind, Job.read, run_ask, answered]
  dsimp only
  rw [parsed]
  dsimp only
  rw [calls_bind, List.map_append, List.map_append, List.count_append, List.count_append,
    calls_warnSkipped, List.count_replicate_self]
  -- Neither the file call before the warnings nor the line after them is a warning.
  have before : (((Job.ask (.read path)).calls w).map Prod.fst).count skipWarning = 0 := rfl
  rw [before, Nat.zero_add]
  split <;> rfl

/-- A set succeeds exactly when its parts do, whatever stands in them. -/
theorem exists_parse_append_iff {first second both : Bytes} {front rest : List Json}
    (begins : Lists first front) (ends : Lists second rest)
    (whole : Lists both (front ++ rest)) :
    (∃ keys, parse both = .ok keys) ↔
      (∃ keys, parse first = .ok keys) ∧ ∃ keys, parse second = .ok keys := by
  rw [exists_parse_eq_ok_iff begins, exists_parse_eq_ok_iff ends, exists_parse_eq_ok_iff whole,
    List.forall_mem_append]

theorem parse_append {first second both : Bytes} {front rest : List Json} {a b : KeySet}
    (begins : Lists first front) (ends : Lists second rest)
    (whole : Lists both (front ++ rest)) (left : parse first = .ok a)
    (right : parse second = .ok b) :
    parse both = .ok ⟨a.keys ++ b.keys, a.skipped + b.skipped⟩ := by
  obtain ⟨inFront, rfl⟩ := (parse_eq_ok_iff begins).mp left
  obtain ⟨inRest, rfl⟩ := (parse_eq_ok_iff ends).mp right
  apply (parse_eq_ok_iff whole).mpr
  exact ⟨List.forall_mem_append.mpr ⟨inFront, inRest⟩, (ofItems_append front rest).symm⟩

/-- A key alone is an error, unless it can be used. -/
theorem parse_alone (holds : Holds file j) (alone : j.get? "keys" = none) :
    (¬ Jwk.WellFormed j → parse file = .error .badKey) ∧
    (∀ key, Jwk.Gives j key → parse file = .ok (ofKeys [key])) ∧
    (Jwk.WellFormed j → (∀ key, ¬ Jwk.Gives j key) → parse file = .error .unusableKey) := by
  have parsed := parse_of_holds holds
  rw [ofJson, alone] at parsed
  dsimp only at parsed
  refine ⟨?_, ?_, ?_⟩
  · intro wrong
    rw [parsed, Jwk.ofJson?_eq_none_iff.mpr wrong]
  · intro key gives
    obtain ⟨k, read, usable⟩ :=
      Option.bind_eq_some_iff.mp ((Jwk.keyOf?_eq_some_iff key).mpr gives)
    rw [parsed, read]
    dsimp only
    rw [usable]
  · intro wellFormed useless
    obtain ⟨k, read⟩ := Option.isSome_iff_exists.mp (Jwk.ofJson?_isSome_iff.mpr wellFormed)
    have unusable : k.key? = none := by
      rw [← Jwk.keyOf?_eq_none_iff.mpr useless, Jwk.keyOf?, read, Option.bind_some]
    rw [parsed, read]
    dsimp only
    rw [unusable]

/-- In a set of one, a key that cannot be used is an error only if it is not well-formed. -/
theorem parse_listed_alone (lists : Lists file [j]) :
    (¬ Jwk.WellFormed j → parse file = .error .badSet) ∧
    (∀ key, Jwk.Gives j key → parse file = .ok (ofKeys [key])) ∧
    (Jwk.WellFormed j → (∀ key, ¬ Jwk.Gives j key) → parse file = .ok ⟨[], 1⟩) := by
  refine ⟨?_, ?_, ?_⟩
  · intro wrong
    apply parse_of_malformed lists
    simpa using wrong
  · intro key gives
    apply (parse_eq_ok_iff lists).mpr
    have usable := (Jwk.keyOf?_eq_some_iff key).mpr gives
    exact ⟨by simpa using gives.wellFormed, by simp [ofItems, ofKeys, usable]⟩
  · intro wellFormed useless
    apply (parse_eq_ok_iff lists).mpr
    have unusable := Jwk.keyOf?_eq_none_iff.mpr useless
    exact ⟨by simpa using wellFormed, by simp [ofItems, unusable]⟩

/-- Keys are read alike in every shape of file. The compact text of a set or of a key alone,
within the limits, is a file that holds it. A set succeeds exactly when all of its values are
well-formed keys; its keys are those that the values give, in their order, and with one warning
for each of the others they are as many as the values. A set of one list after another succeeds
exactly when the sets of both do, and has the keys of the one and then of the other. A key alone
and the set of it both fail if it is malformed, and are the same set if it can be used; where only
its numbers do not decode, it fails alone and makes an empty set. -/
theorem parse_of_every_shape :
    (∀ items, (Json.record [("keys", .array items)]).plainWithin Json.depthLimit = true →
      Lists (Bytes.ofText (Json.record [("keys", .array items)]).render) items) ∧
    (∀ members, (Json.object members).plainWithin Json.depthLimit = true →
      Holds (Bytes.ofText (Json.object members).render) (.object members)) ∧
    (∀ file items, Lists file items →
      ((∃ keys, parse file = .ok keys) ↔ ∀ j ∈ items, Jwk.WellFormed j) ∧
      ∀ keys, parse file = .ok keys → keys.keys = items.filterMap Jwk.keyOf? ∧
        keys.keys.length + keys.skipped = items.length ∧
        ∀ path w, w.files.read? path = some file → w.Admits 0 →
          (((load path).calls w).map Prod.fst).count skipWarning = keys.skipped) ∧
    (∀ j key, Jwk.keyOf? j = some key ↔ Jwk.Gives j key) ∧
    (∀ first second both front rest, Lists first front → Lists second rest →
      Lists both (front ++ rest) →
      ((∃ keys, parse both = .ok keys) ↔
        (∃ keys, parse first = .ok keys) ∧ ∃ keys, parse second = .ok keys) ∧
      ∀ a b, parse first = .ok a → parse second = .ok b →
        parse both = .ok ⟨a.keys ++ b.keys, a.skipped + b.skipped⟩) ∧
    ∀ alone set j, Holds alone j → j.get? "keys" = none → Lists set [j] →
      (¬ Jwk.WellFormed j → parse alone = .error .badKey ∧ parse set = .error .badSet) ∧
      (∀ key, Jwk.Gives j key →
        parse alone = .ok (ofKeys [key]) ∧ parse set = .ok (ofKeys [key])) ∧
      (Jwk.WellFormed j → (∀ key, ¬ Jwk.Gives j key) →
        parse alone = .error .unusableKey ∧ parse set = .ok ⟨[], 1⟩) := by
  refine ⟨fun items => lists_render, fun members => holds_render, ?_,
    fun j => Jwk.keyOf?_eq_some_iff, ?_, ?_⟩
  · intro file items lists
    refine ⟨exists_parse_eq_ok_iff lists, ?_⟩
    intro keys parsed
    obtain ⟨-, rfl⟩ := (parse_eq_ok_iff lists).mp parsed
    refine ⟨rfl, length_ofItems items, ?_⟩
    intro path w read admits
    exact count_skipWarning_load read admits parsed
  · intro first second both front rest begins ends whole
    refine ⟨exists_parse_append_iff begins ends whole, ?_⟩
    intro a b left right
    exact parse_append begins ends whole left right
  · intro alone set j holds noSet lists
    obtain ⟨malformed, usable, unusable⟩ := parse_alone holds noSet
    obtain ⟨malformed', usable', unusable'⟩ := parse_listed_alone lists
    refine ⟨?_, ?_, ?_⟩
    · intro wrong
      exact ⟨malformed wrong, malformed' wrong⟩
    · intro key gives
      exact ⟨usable key gives, usable' key gives⟩
    · intro wellFormed useless
      exact ⟨unusable wellFormed useless, unusable' wellFormed useless⟩

-- The kind of a key may be written as a case without content.
example :
    parse (Bytes.ofText "\x7b\"kty\":\x7b\"oct\":null\x7d,\"k\":\"aw\"\x7d") =
      .ok (ofKeys [⟨none, .secret [0x6B]⟩]) := by
  decide +kernel

end KeySet

namespace Sample

def secretKey (kid k : String) : Json :=
  .record [("kty", .text "oct"), ("kid", .text kid), ("k", .text k)]

def keyFile (items : List Json) : Bytes :=
  Bytes.ofText (Json.record [("keys", .array items)]).render

def keyMachine (items : List Json) : Machine :=
  .quiet ⟨[(["k"], .file (keyFile items) ⟨7, 0⟩)], []⟩ ⟨9, 0⟩ 1

end Sample

/-- A secret that is no base64 is passed over in a set and an error alone. -/
theorem undecodable_secret_is_passed_over :
    let useless := Sample.secretKey "b" "!"
    let items := [Sample.secretKey "a" "aw", useless, Sample.secretKey "c" "aw"]
    KeySet.parse (Sample.keyFile items) =
      .ok ⟨[⟨some "a", .secret [0x6B]⟩, ⟨some "c", .secret [0x6B]⟩], 1⟩ ∧
    (((KeySet.load ⟨"k"⟩).calls (Sample.keyMachine items)).map Prod.fst).count
      KeySet.skipWarning = 1 ∧
    (¬ ∃ keys, KeySet.parse (Sample.keyFile (.record [] :: items)) = .ok keys) ∧
    KeySet.parse (Sample.keyFile (items ++ [useless])) =
      .ok ⟨[⟨some "a", .secret [0x6B]⟩, ⟨some "c", .secret [0x6B]⟩], 2⟩ ∧
    KeySet.parse (Bytes.ofText useless.render) = .error .unusableKey ∧
    KeySet.parse (Sample.keyFile [useless]) = .ok ⟨[], 1⟩ := by
  intro useless items
  obtain ⟨listed, held, reads, -, joins, alike⟩ := KeySet.parse_of_every_shape
  have wellFormed (kid k : String) : Jwk.WellFormed (Sample.secretKey kid k) :=
    Jwk.ofJson?_isSome_iff.mp rfl
  have malformed : ¬ Jwk.WellFormed (.record []) := Jwk.ofJson?_eq_none_iff.mp rfl
  obtain ⟨succeeds, told⟩ := reads _ items (listed items rfl)
  obtain ⟨spoilt, -⟩ := reads _ (.record [] :: items) (listed _ rfl)
  obtain ⟨⟨keys, skipped⟩, parsed⟩ := succeeds.mpr (by simp [items, useless, wellFormed])
  obtain ⟨usable, count, warned⟩ := told _ parsed
  obtain rfl : keys = [⟨some "a", .secret [0x6B]⟩, ⟨some "c", .secret [0x6B]⟩] := usable
  obtain rfl : skipped = 1 := by
    have three : 2 + skipped = 3 := count
    omega
  obtain ⟨-, -, unusable⟩ := alike _ _ useless (held _ rfl) rfl (listed [useless] rfl)
  obtain ⟨fails, empty⟩ := unusable (wellFormed _ _) (Jwk.keyOf?_eq_none_iff.mp rfl)
  obtain ⟨-, joined⟩ := joins _ _ _ items [useless] (listed _ rfl) (listed _ rfl) (listed _ rfl)
  refine ⟨parsed, warned ⟨"k"⟩ (Sample.keyMachine items) rfl (by decide), ?_,
    joined _ _ parsed empty, fails, empty⟩
  intro some
  exact malformed (spoilt.mp some _ List.mem_cons_self)

end FederationTrust
