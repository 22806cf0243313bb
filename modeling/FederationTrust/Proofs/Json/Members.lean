import FederationTrust.Json.Decode

/-!
# Members of a record

A field of a record is read from the one member that has its name. It is absent where no member
has the name, and where several have it the record does not read at all; nor does it where the
name of any member is no text.
-/

namespace FederationTrust

namespace Json

def membersNamed (name : String) (members : List (Option String × Json)) :
    List (Option String × Json) :=
  members.filter fun m => m.1 = some name

theorem member?_one_name (name : String) (members : List (Option String × Json)) :
    member? [name] members = match membersNamed name members with
      | [] => some none
      | [m] => some (some m.2)
      | _ => none := by
  have same : (fun m : Option String × Json => m.1.any [name].contains) =
      fun m => decide (m.1 = some name) := by
    funext m
    obtain ⟨_ | other, value⟩ := m
    · simp
    · by_cases h : other = name <;> simp [h]
  rw [member?, same]
  rfl

theorem membersNamed_eq_singleton {name : String} {members : List (Option String × Json)}
    {m : Option String × Json} (h : membersNamed name members = [m]) : m = (some name, m.2) := by
  have kept : m ∈ membersNamed name members := by simp [h]
  have named : m.1 = some name := by simpa using (List.mem_filter.mp kept).2
  rw [← named]

theorem member?_one_name_eq_some_iff (name : String) (members : List (Option String × Json))
    (j : Json) :
    member? [name] members = some (some j) ↔ membersNamed name members = [(some name, j)] := by
  rw [member?_one_name]
  rcases h : membersNamed name members with _ | ⟨m, _ | ⟨_, _⟩⟩
  · simp
  · have named := membersNamed_eq_singleton h
    rw [named]
    simp
  · simp

theorem text?_eq_some_iff (j : Json) (s : String) : j.text? = some s ↔ j = .text s := by
  cases j <;> simp [text?]

theorem listOf?_eq_some_iff {α : Type} (read? : Json → Option α) (j : Json) (l : List α) :
    listOf? read? j = some l ↔ ∃ items, j = .array items ∧ items.map read? = l.map some := by
  cases j <;> simp [listOf?, mapM_eq_some_iff]

/-- What is read from the element at an index stands at that index. -/
theorem getElem?_of_map_eq {α : Type} {read? : Json → Option α} {items : List Json} {l : List α}
    (each : items.map read? = l.map some) {i : Nat} {item : Json} {a : α}
    (here : items[i]? = some item) (reads : read? item = some a) : l[i]? = some a := by
  have there := congrArg (·[i]?) each
  simp only [List.getElem?_map, here, Option.map_some, reads] at there
  obtain ⟨other, found, same⟩ := Option.map_eq_some_iff.mp there.symm
  rw [found, Option.some.inj same]

/-- A name that is no text spoils the whole object. -/
theorem fields?_of_unnamed {members : List (Option String × Json)}
    (unnamed : ¬ ∀ m ∈ members, m.1.isSome = true) (names : List (List String)) :
    (object members).fields? names = none := by
  have some : members.all (fun m => m.1.isSome) ≠ true := fun all =>
    unnamed (List.all_eq_true.mp all)
  rw [fields?, if_neg some]

theorem fields?_of_named {members : List (Option String × Json)}
    (named : ∀ m ∈ members, m.1.isSome = true) (names : List (List String)) :
    (object members).fields? names = names.mapM (member? · members) := by
  rw [fields?, if_pos (List.all_eq_true.mpr named)]

theorem fields?_single {members : List (Option String × Json)}
    (named : ∀ m ∈ members, m.1.isSome = true) (a : String) :
    (object members).fields? [[a]] = (member? [a] members).map fun x => [x] := by
  rw [fields?_of_named named]
  cases found : member? [a] members <;> simp [found]

theorem fields?_pair {members : List (Option String × Json)}
    (named : ∀ m ∈ members, m.1.isSome = true) (a b : String) :
    (object members).fields? [[a], [b]] =
      (member? [a] members).bind fun x => (member? [b] members).map fun y => [x, y] := by
  rw [fields?_of_named named]
  cases first : member? [a] members with
  | none => simp [first]
  | some x => cases second : member? [b] members <;> simp [first, second]

/-- A field that may be absent reads if its name stands at most once, before what reads. -/
theorem optional_member_isSome_iff {α : Type} (read? : Option Json → Option α) (name : String)
    (members : List (Option String × Json)) (absent : (read? none).isSome = true) :
    ((member? [name] members).bind read?).isSome = true ↔
      (membersNamed name members).length ≤ 1 ∧
      ∀ m ∈ members, m.1 = some name → (read? (some m.2)).isSome = true := by
  have among : (∀ m ∈ members, m.1 = some name → (read? (some m.2)).isSome = true) ↔
      ∀ m ∈ membersNamed name members, (read? (some m.2)).isSome = true := by
    simp [membersNamed]
  rw [among, member?_one_name]
  rcases h : membersNamed name members with _ | ⟨m, _ | ⟨_, _⟩⟩
  · simp [absent]
  · simp
  · simp

end Json

end FederationTrust
