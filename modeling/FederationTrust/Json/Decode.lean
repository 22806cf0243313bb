import FederationTrust.Json.Number
import FederationTrust.Json.Reader

/-!
# Typed readings of JSON values

A record may be written as an object or as an array of its fields in order. In
an object unknown members are passed over, every member name has to be text, and
a known member may stand once only; in an array fields may be missing at the end.
What a missing or null field means is the field's own affair.
-/

namespace FederationTrust

namespace Json

def text? : Json → Option String
  | .string s => s
  | _ => none

/-- A whole number in 64 bits without sign. -/
def word? : Json → Option UInt64
  | .number n => n.word?
  | _ => none

/-- An array, all of whose elements read. -/
def listOf? {α : Type} (read? : Json → Option α) : Json → Option (List α)
  | .array items => items.mapM read?
  | _ => none

theorem mapM_eq_some_iff {α β : Type} (f : α → Option β) (l : List α) (r : List β) :
    l.mapM f = some r ↔ l.map f = r.map some := by
  induction l generalizing r with
  | nil => cases r <;> simp
  | cons a rest ih =>
    simp only [List.mapM_cons, Option.bind_eq_bind, Option.bind_eq_some_iff, Option.pure_def,
      Option.some.injEq, ih, List.map_cons]
    constructor
    · rintro ⟨b, first, bs, tail, rfl⟩
      rw [first, tail, List.map_cons]
    · intro h
      cases r with
      | nil => cases h
      | cons b bs =>
        obtain ⟨first, tail⟩ := List.cons.inj h
        exact ⟨b, first, bs, tail, rfl⟩

theorem mapM_isSome_iff {α β : Type} (f : α → Option β) (l : List α) :
    (l.mapM f).isSome = true ↔ ∀ a ∈ l, (f a).isSome = true := by
  induction l with
  | nil => simp
  | cons a rest ih =>
    rw [List.forall_mem_cons, ← ih]
    cases first : f a with
    | none => simp [List.mapM_cons, first]
    | some b => cases tail : rest.mapM f <;> simp [List.mapM_cons, first, tail]

/-- The value of the member with one of these names: absent, given once, or an error. -/
def member? (names : List String) (members : List (Option String × Json)) : Option (Option Json) :=
  match members.filter (fun m => m.1.any names.contains) with
  | [] => some none
  | [m] => some (some m.2)
  | _ => none

/-- The fields of a record, each found under any of its names. -/
def fields? (names : List (List String)) : Json → Option (List (Option Json))
  | .object members =>
    if members.all (fun m => m.1.isSome) then names.mapM (member? · members) else none
  | .array items =>
    if items.length ≤ names.length then
      some (items.map some ++ List.replicate (names.length - items.length) none)
    else none
  | _ => none

def required? {α : Type} (read? : Json → Option α) : Option Json → Option α
  | none => none
  | some j => read? j

/-- A field that has a value of its own when it is not given. -/
def withDefault? {α : Type} (default : α) (read? : Json → Option α) : Option Json → Option α
  | none => some default
  | some j => read? j

/-- A field that may be missing or null. -/
def optional? {α : Type} (read? : Json → Option α) : Option Json → Option (Option α)
  | none => some none
  | some .null => some none
  | some j => (read? j).map some

/-- The member that an optional field is written as. -/
def given {α : Type} (name : String) (write : α → Json) : Option α → List (String × Json)
  | none => []
  | some a => [(name, write a)]

/-- The value of an optional field that is written even when it is absent. -/
def orNull {α : Type} (write : α → Json) : Option α → Json
  | none => .null
  | some a => write a

def ofWord (w : UInt64) : Json :=
  .number (Numeral.ofNat w.toNat)

/-- A choice among named cases: a name alone, or an object whose one member names the case. -/
def case? : Json → Option (String × Option Json)
  | .string s => s.map fun name => (name, none)
  | .object [(some name, j)] => some (name, some j)
  | _ => none

/-- A named case without content, which may also be written with null as content. -/
def bareCase? : Json → Option String
  | j => match case? j with
    | some (name, none) => some name
    | some (name, some .null) => some name
    | _ => none

end Json

end FederationTrust
