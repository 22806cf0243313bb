import FederationTrust.KeyFile.KeySet
import FederationTrust.Proofs.Json.Members

/-!
# Well-formed keys

A JSON Web Key is an object whose members have the right types, where they are given, and which
has the members that its kind needs; the name of a curve has to be a known one. Whether the
numbers of the key decode is a second question, which a well-formed key leaves open.

Kinds, curves and algorithms are named in either of two spellings: as text, or as the name of the
only member of an object, whose value says nothing.
-/

namespace FederationTrust

namespace Json

/-- A member of an object is as it has to be, unless it is absent or null. -/
def MayHave (j : Json) (name : String) (right : Json → Prop) : Prop :=
  ∀ value, j.get? name = some value → value = .null ∨ right value

variable {α : Type} {j : Json} {name : String}

theorem optional?_isSome_iff (read? : Json → Option α) {right : Json → Prop}
    (reads : ∀ value, (read? value).isSome = true ↔ right value) :
    (optional? read? (j.get? name)).isSome = true ↔ j.MayHave name right := by
  unfold MayHave
  cases j.get? name with
  | none => simp [optional?]
  | some value =>
    cases value with
    | null => simp [optional?]
    | bool | number | string | array | object => simp [optional?, reads]

theorem optional?_eq_some_iff (read? : Json → Option α) (value : Option Json)
    (null : read? .null = none) (a : Option α) :
    optional? read? value = some a ↔
      (optional? read? value).isSome = true ∧ a = value.bind read? := by
  cases value with
  | none => simp [optional?, eq_comm]
  | some value =>
    cases value with
    | null => simp [optional?, null, eq_comm]
    | bool | number | string | array | object =>
      simp only [optional?, Option.bind_some]
      generalize read? _ = r
      cases r <;> simp [eq_comm]

def IsText (j : Json) : Prop :=
  ∃ s, j = .text s

def IsTexts (j : Json) : Prop :=
  ∃ items, j = .array items ∧ ∀ item ∈ items, item.IsText

theorem text?_isSome_iff (j : Json) : j.text?.isSome = true ↔ j.IsText := by
  unfold IsText
  cases j with
  | string s => cases s <;> simp [text?]
  | null | bool | number | array | object => simp [text?]

theorem texts?_isSome_iff (j : Json) : (listOf? text? j).isSome = true ↔ j.IsTexts := by
  unfold IsTexts
  cases j with
  | array items => simp [listOf?, mapM_isSome_iff, text?_isSome_iff]
  | null | bool | number | string | object => simp [listOf?]

theorem lastOfEach_eq_nil_iff (members : List (Option String × Json)) :
    lastOfEach members = [] ↔ members = [] := by
  induction members with
  | nil => simp [lastOfEach]
  | cons m rest ih =>
    rw [lastOfEach]
    split
    · rename_i again
      have more : rest ≠ [] := by
        rintro rfl
        cases again
      simp [ih, more]
    · simp

/-- The members of an object that all have one name, the last of which has this value. -/
structure OnlyMember (members : List (Option String × Json)) (m : Option String × Json) :
    Prop where
  last : members.getLast? = some m
  one : ∀ other ∈ members, other.1 = m.1

theorem lastOfEach_eq_singleton_iff (members : List (Option String × Json))
    (m : Option String × Json) : lastOfEach members = [m] ↔ OnlyMember members m := by
  induction members with
  | nil =>
    constructor
    · exact nofun
    · rintro ⟨last, -⟩
      cases last
  | cons first rest ih =>
    rw [lastOfEach]
    cases again : rest.any (·.1 == first.1) with
    | true =>
      -- A later member has the name of the first, which therefore does not count.
      obtain ⟨later, among, same⟩ := List.any_eq_true.mp again
      have last : (first :: rest).getLast? = rest.getLast? := by
        rw [List.getLast?_cons, List.getLast?_eq_some_getLast (List.ne_nil_of_mem among),
          Option.getD_some]
      rw [if_pos rfl, ih]
      constructor
      · rintro ⟨ends, one⟩
        refine ⟨last.trans ends, List.forall_mem_cons.mpr ⟨?_, one⟩⟩
        exact (eq_of_beq same).symm.trans (one later among)
      · rintro ⟨ends, one⟩
        exact ⟨last.symm.trans ends, (List.forall_mem_cons.mp one).2⟩
    | false =>
      rw [if_neg Bool.false_ne_true, List.cons.injEq, lastOfEach_eq_nil_iff]
      constructor
      · rintro ⟨rfl, rfl⟩
        exact ⟨rfl, by simp⟩
      · rintro ⟨ends, one⟩
        obtain ⟨named, others⟩ := List.forall_mem_cons.mp one
        have alone : rest = [] := by
          rw [List.eq_nil_iff_forall_not_mem]
          intro other among
          refine absurd (others other among) fun same => ?_
          exact List.any_eq_false.mp again other among (beq_iff_eq.mpr (same.trans named.symm))
        subst alone
        exact ⟨Option.some.inj ends, rfl⟩

/-- A value names a case, as text or as the only member of an object, which is null. -/
inductive Names : Json → String → Prop where
  | text (name : String) : Names (.text name) name
  | member {members : List (Option String × Json)} {name : String}
    (only : OnlyMember members (some name, .null)) : Names (.object members) name

/-- A value names a case, where the only member of an object may also be an empty object. -/
inductive NamesLoosely : Json → String → Prop where
  | strictly {j : Json} {name : String} (names : Names j name) : NamesLoosely j name
  | empty {members : List (Option String × Json)} {name : String}
    (only : OnlyMember members (some name, .object [])) : NamesLoosely (.object members) name

theorem bareCase?_eq_some_iff (j : Json) (name : String) :
    bareCase? j = some name ↔ j = .text name ∨ j = .object [(some name, .null)] := by
  cases j with
  | string s => cases s <;> simp [bareCase?, case?]
  | object members =>
    rcases members with _ | ⟨⟨_ | first, value⟩, _ | ⟨second, rest⟩⟩
    · simp [bareCase?, case?]
    · simp [bareCase?, case?]
    · simp [bareCase?, case?]
    · cases value <;> simp [bareCase?, case?]
    · simp [bareCase?, case?]
  | null | bool | number | array => simp [bareCase?, case?]

/-- A plain object that settles to one member has no member of another name. -/
theorem settled_eq_object_iff (j : Json) (m : Option String × Json) :
    j.settled = .object [m] ↔ ∃ members, j = .object members ∧ OnlyMember members m := by
  cases j with
  | object members => simp [settled, lastOfEach_eq_singleton_iff]
  | null | bool | number | string | array => simp [settled]

theorem settled_eq_text_iff (j : Json) (name : String) :
    j.settled = .text name ↔ j = .text name := by
  cases j <;> simp [settled]

theorem bareCase?_settled_eq_some_iff (j : Json) (name : String) :
    bareCase? j.settled = some name ↔ j.Names name := by
  rw [bareCase?_eq_some_iff, settled_eq_text_iff, settled_eq_object_iff]
  constructor
  · rintro (rfl | ⟨members, rfl, only⟩)
    · exact .text name
    · exact .member only
  · intro names
    cases names with
    | text => exact Or.inl rfl
    | member only => exact Or.inr ⟨_, rfl, only⟩

def HasCase (j : Json) (member name : String) : Prop :=
  ∃ value, j.get? member = some value ∧ value.Names name

def IsAlgorithm (j : Json) : Prop :=
  ∃ name, j.NamesLoosely name

end Json

namespace Jwk

/-- The members of a kind of key, with the numbers that they give. -/
inductive States (j : Json) : JwkNumbers → Prop where
  | ec {crv x y : String} (kind : j.HasCase "kty" "EC") (curve : j.HasCase "crv" crv)
    (known : crv ∈ curves) (x_given : j.get? "x" = some (.text x))
    (y_given : j.get? "y" = some (.text y)) : States j (.ec x y)
  | rsa {n e : String} (kind : j.HasCase "kty" "RSA") (n_given : j.get? "n" = some (.text n))
    (e_given : j.get? "e" = some (.text e)) : States j (.rsa n e)
  | oct {k : String} (kind : j.HasCase "kty" "oct") (k_given : j.get? "k" = some (.text k)) :
    States j (.oct k)
  | okp {crv x : String} (kind : j.HasCase "kty" "OKP") (curve : j.HasCase "crv" crv)
    (known : crv ∈ curves) (x_given : j.get? "x" = some (.text x)) : States j (.okp x)

/-- A well-formed key, whether or not its numbers decode. -/
structure WellFormed (j : Json) : Prop where
  object : ∃ members, j = .object members
  kid : j.MayHave "kid" Json.IsText
  algorithm : j.MayHave "alg" Json.IsAlgorithm
  texts : ∀ name ∈ textMembers, j.MayHave name Json.IsText
  lists : ∀ name ∈ listMembers, j.MayHave name Json.IsTexts
  numbers : ∃ numbers, States j numbers

inductive Decodes : JwkNumbers → KeyMaterial → Prop where
  | ec {x y : String} {x' y' : Bytes} (first : decode? x = some x') (second : decode? y = some y') :
    Decodes (.ec x y) (.ecPoint (0x04 :: x' ++ y'))
  | rsa {n e : String} {n' e' : Bytes} (first : decode? n = some n') (second : decode? e = some e') :
    Decodes (.rsa n e) (.rsaNumbers n' e')
  | oct {k : String} {k' : Bytes} (only : decode? k = some k') : Decodes (.oct k) (.secret k')
  | okp {x : String} {x' : Bytes} (only : decode? x = some x') : Decodes (.okp x) (.edPoint x')

variable {j : Json}

theorem member?_eq_some_iff (name s : String) :
    member? j name = some s ↔ j.get? name = some (.text s) := by
  rw [member?, Option.bind_eq_some_iff]
  simp [Json.text?_eq_some_iff]

theorem case?_eq_some_iff (member name : String) :
    case? j member = some name ↔ j.HasCase member name := by
  simp only [case?, Option.bind_eq_some_iff, Json.bareCase?_settled_eq_some_iff, Json.HasCase]

theorem curve?_eq_some_iff (name : String) :
    curve? j = some name ↔ j.HasCase "crv" name ∧ name ∈ curves := by
  rw [curve?, Option.filter_eq_some_iff, case?_eq_some_iff, List.contains_iff_mem]

/-- An algorithm may be named in either spelling, and also with an empty object. -/
theorem algorithm?_eq_some_iff (value : Json) (name : String) :
    algorithm? value = some name ↔ value.NamesLoosely name := by
  have bare := Json.bareCase?_settled_eq_some_iff value name
  constructor
  · intro read
    unfold algorithm? at read
    split at read
    · rename_i settled
      obtain ⟨members, rfl, only⟩ := (Json.settled_eq_object_iff _ _).mp settled
      rw [read] at only
      exact .empty only
    · exact .strictly (bare.mp read)
  · intro names
    cases names with
    | strictly names =>
      have named := bare.mpr names
      unfold algorithm?
      split
      · rename_i settled
        rw [settled, Json.bareCase?_eq_some_iff] at named
        rcases named with text | null
        · cases text
        · cases null
      · exact named
    | empty only =>
      have settled := (Json.settled_eq_object_iff _ _).mpr ⟨_, rfl, only⟩
      rw [algorithm?, settled]

theorem algorithm?_isSome_iff (value : Json) :
    (algorithm? value).isSome = true ↔ value.IsAlgorithm := by
  simp only [Option.isSome_iff_exists, algorithm?_eq_some_iff, Json.IsAlgorithm]

theorem numbers?_eq_some_iff (numbers : JwkNumbers) :
    numbers? j = some numbers ↔ States j numbers := by
  constructor
  · intro read
    simp only [numbers?, Option.bind_eq_bind, Option.bind_eq_some_iff, case?_eq_some_iff] at read
    obtain ⟨kind, kty, read⟩ := read
    split at read
    · simp only [Option.bind_eq_some_iff, Option.some.injEq, member?_eq_some_iff,
        curve?_eq_some_iff] at read
      obtain ⟨_, ⟨curve, known⟩, x, first, y, second, rfl⟩ := read
      exact .ec kty curve known first second
    · simp only [Option.bind_eq_some_iff, Option.some.injEq, member?_eq_some_iff] at read
      obtain ⟨n, first, e, second, rfl⟩ := read
      exact .rsa kty first second
    · simp only [Option.bind_eq_some_iff, Option.some.injEq, member?_eq_some_iff] at read
      obtain ⟨k, only, rfl⟩ := read
      exact .oct kty only
    · simp only [Option.bind_eq_some_iff, Option.some.injEq, member?_eq_some_iff,
        curve?_eq_some_iff] at read
      obtain ⟨_, ⟨curve, known⟩, x, only, rfl⟩ := read
      exact .okp kty curve known only
    · cases read
  · intro states
    cases states with
    | ec kty curve known first second =>
      simp [numbers?, (case?_eq_some_iff _ _).mpr kty,
        (curve?_eq_some_iff _).mpr ⟨curve, known⟩, (member?_eq_some_iff _ _).mpr first,
        (member?_eq_some_iff _ _).mpr second]
    | rsa kty first second =>
      simp [numbers?, (case?_eq_some_iff _ _).mpr kty, (member?_eq_some_iff _ _).mpr first,
        (member?_eq_some_iff _ _).mpr second]
    | oct kty only =>
      simp [numbers?, (case?_eq_some_iff _ _).mpr kty, (member?_eq_some_iff _ _).mpr only]
    | okp kty curve known only =>
      simp [numbers?, (case?_eq_some_iff _ _).mpr kty,
        (curve?_eq_some_iff _).mpr ⟨curve, known⟩, (member?_eq_some_iff _ _).mpr only]

theorem material?_eq_some_iff (k : Jwk) (m : KeyMaterial) :
    k.material? = some m ↔ Decodes k.numbers m := by
  rw [material?]
  cases k.numbers with
  | ec x y =>
    simp only [Option.bind_eq_bind, Option.bind_eq_some_iff, Option.some.injEq]
    constructor
    · rintro ⟨x', first, y', second, rfl⟩
      exact .ec first second
    · intro decodes
      cases decodes with
      | ec first second => exact ⟨_, first, _, second, rfl⟩
  | rsa n e =>
    simp only [Option.bind_eq_bind, Option.bind_eq_some_iff, Option.some.injEq]
    constructor
    · rintro ⟨n', first, e', second, rfl⟩
      exact .rsa first second
    · intro decodes
      cases decodes with
      | rsa first second => exact ⟨_, first, _, second, rfl⟩
  | oct k =>
    simp only [Option.map_eq_some_iff]
    constructor
    · rintro ⟨k', only, rfl⟩
      exact .oct only
    · intro decodes
      cases decodes with
      | oct only => exact ⟨_, only, rfl⟩
  | okp x =>
    simp only [Option.map_eq_some_iff]
    constructor
    · rintro ⟨x', only, rfl⟩
      exact .okp only
    · intro decodes
      cases decodes with
      | okp only => exact ⟨_, only, rfl⟩

/-- A value reads as a key exactly when it is well-formed. -/
theorem ofJson?_eq_some_iff (k : Jwk) :
    ofJson? j = some k ↔ WellFormed j ∧ k.kid = (j.get? "kid").bind Json.text? ∧
      States j k.numbers := by
  have kid (s : Option String) : Json.optional? Json.text? (j.get? "kid") = some s ↔
      j.MayHave "kid" Json.IsText ∧ s = (j.get? "kid").bind Json.text? := by
    rw [Json.optional?_eq_some_iff _ _ rfl, Json.optional?_isSome_iff _ Json.text?_isSome_iff]
  have algorithm : (Json.optional? algorithm? (j.get? "alg")).isSome = true ↔
      j.MayHave "alg" Json.IsAlgorithm := Json.optional?_isSome_iff _ algorithm?_isSome_iff
  have texts : (textMembers.mapM fun name => Json.optional? Json.text? (j.get? name)).isSome =
      true ↔ ∀ name ∈ textMembers, j.MayHave name Json.IsText := by
    simp only [Json.mapM_isSome_iff, Json.optional?_isSome_iff _ Json.text?_isSome_iff]
  have lists : (listMembers.mapM fun name =>
      Json.optional? (Json.listOf? Json.text?) (j.get? name)).isSome = true ↔
      ∀ name ∈ listMembers, j.MayHave name Json.IsTexts := by
    simp only [Json.mapM_isSome_iff, Json.optional?_isSome_iff _ Json.texts?_isSome_iff]
  constructor
  · intro read
    cases j with
    | object members =>
      simp only [ofJson?, Option.bind_eq_bind, Option.bind_eq_some_iff, Option.some.injEq,
        numbers?_eq_some_iff] at read
      obtain ⟨found, named, as, allowed, ts, textual, ls, listed, numbers, states, rfl⟩ := read
      obtain ⟨mayName, value⟩ := (kid found).mp named
      exact ⟨⟨⟨members, rfl⟩, mayName, algorithm.mp (Option.isSome_of_eq_some allowed),
        texts.mp (Option.isSome_of_eq_some textual), lists.mp (Option.isSome_of_eq_some listed),
        numbers, states⟩, value, states⟩
    | null | bool | number | string | array => cases read
  · rintro ⟨wellFormed, named, states⟩
    obtain ⟨members, rfl⟩ := wellFormed.object
    obtain ⟨as, allowed⟩ := Option.isSome_iff_exists.mp (algorithm.mpr wellFormed.algorithm)
    obtain ⟨ts, textual⟩ := Option.isSome_iff_exists.mp (texts.mpr wellFormed.texts)
    obtain ⟨ls, listed⟩ := Option.isSome_iff_exists.mp (lists.mpr wellFormed.lists)
    simp only [ofJson?, Option.bind_eq_bind, (kid k.kid).mpr ⟨wellFormed.kid, named⟩, allowed,
      textual, listed, (numbers?_eq_some_iff _).mpr states, Option.bind_some]

theorem ofJson?_isSome_iff : (ofJson? j).isSome = true ↔ WellFormed j := by
  rw [Option.isSome_iff_exists]
  constructor
  · rintro ⟨k, read⟩
    exact ((ofJson?_eq_some_iff k).mp read).1
  · intro wellFormed
    obtain ⟨numbers, states⟩ := wellFormed.numbers
    exact ⟨⟨_, numbers⟩, (ofJson?_eq_some_iff _).mpr ⟨wellFormed, rfl, states⟩⟩

theorem ofJson?_eq_none_iff : ofJson? j = none ↔ ¬ WellFormed j := by
  rw [← Option.not_isSome_iff_eq_none, ofJson?_isSome_iff]

/-- A well-formed key whose numbers decode gives a verification key with its own identifier. -/
structure Gives (j : Json) (key : TrustedKey) : Prop where
  wellFormed : WellFormed j
  material : ∃ numbers, States j numbers ∧ Decodes numbers key.material
  kid : key.kid = (j.get? "kid").bind Json.text?

def keyOf? (j : Json) : Option TrustedKey :=
  (ofJson? j).bind key?

theorem keyOf?_eq_some_iff (key : TrustedKey) : keyOf? j = some key ↔ Gives j key := by
  simp only [keyOf?, Option.bind_eq_some_iff, ofJson?_eq_some_iff, key?, Option.map_eq_some_iff,
    material?_eq_some_iff]
  constructor
  · rintro ⟨k, ⟨wellFormed, kid, states⟩, m, decodes, rfl⟩
    exact ⟨wellFormed, ⟨k.numbers, states, decodes⟩, kid⟩
  · rintro ⟨wellFormed, ⟨numbers, states, decodes⟩, kid⟩
    exact ⟨⟨key.kid, numbers⟩, ⟨wellFormed, kid, states⟩, key.material, decodes, rfl⟩

theorem keyOf?_eq_none_iff : keyOf? j = none ↔ ∀ key, ¬ Gives j key := by
  simp only [Option.eq_none_iff_forall_ne_some, ne_eq, keyOf?_eq_some_iff]

end Jwk

end FederationTrust
