import FederationTrust.Proofs.Texts
import FederationTrust.Resolution

/-!
# Texts of pins

Pins are told in one text, with two slashes between the name and the value of each and semicolons
between them. A hash may have slashes anywhere, so what tells the name from the value are the first
two slashes. Where no name has a slash and nothing has a semicolon, the text says which pins it
stands for, down to their order and their empty values.
-/

namespace FederationTrust

namespace Pin

variable {s name value : List Char} {p : Pin}

/-- What stands before the first two slashes of a text, and what stands behind them. -/
def splitSlashes? : List Char → Option (List Char × List Char)
  | '/' :: '/' :: rest => some ([], rest)
  | c :: rest => (splitSlashes? rest).map fun (name, value) => (c :: name, value)
  | [] => none

/-- A text falls apart at two slashes that have no other two before them. -/
theorem splitSlashes?_eq_some_iff :
    splitSlashes? s = some (name, value) ↔
      s = name ++ '/' :: '/' :: value ∧
        ∀ front back, s = front ++ '/' :: '/' :: back → name.length ≤ front.length := by
  fun_induction splitSlashes? s generalizing name with
  | case1 rest =>
    constructor
    · intro found
      cases found
      exact ⟨rfl, fun _ _ _ => Nat.zero_le _⟩
    · rintro ⟨split, first⟩
      have empty := List.eq_nil_of_length_eq_zero (Nat.le_zero.mp (first [] rest rfl))
      subst empty
      cases split
      rfl
  | case2 c rest other ih =>
    rw [Option.map_eq_some_iff]
    constructor
    · rintro ⟨⟨inner, value⟩, found, same⟩
      cases same
      obtain ⟨rfl, first⟩ := ih.mp found
      refine ⟨rfl, ?_⟩
      intro front back split
      cases front with
      | nil =>
        obtain ⟨rfl, more⟩ := List.cons.inj split
        exact absurd more (other _ rfl)
      | cons d front =>
        obtain ⟨-, more⟩ := List.cons.inj split
        exact Nat.succ_le_succ (first front back more)
    · rintro ⟨split, first⟩
      cases name with
      | nil =>
        obtain ⟨rfl, more⟩ := List.cons.inj split
        exact absurd more (other _ rfl)
      | cons d name =>
        obtain ⟨rfl, more⟩ := List.cons.inj split
        refine ⟨(name, value), ih.mpr ⟨more, ?_⟩, rfl⟩
        intro front back split
        have longer := first (c :: front) back (congrArg (c :: ·) split)
        exact Nat.le_of_succ_le_succ longer
  | case3 =>
    constructor
    · exact nofun
    · rintro ⟨split, -⟩
      cases name <;> cases split

/-- A name without slashes is what stands before the first two slashes. -/
theorem splitSlashes?_append (plain : '/' ∉ name) (value : List Char) :
    splitSlashes? (name ++ '/' :: '/' :: value) = some (name, value) := by
  rw [splitSlashes?_eq_some_iff]
  refine ⟨rfl, ?_⟩
  intro front back split
  apply Nat.le_of_not_lt
  intro shorter
  apply plain
  rcases List.append_eq_append_iff.mp split with ⟨more, rfl, -⟩ | ⟨more, rfl, behind⟩
  · rw [List.length_append] at shorter
    omega
  · cases more with
    | nil =>
      rw [List.append_nil] at shorter
      omega
    | cons c more =>
      obtain ⟨rfl, -⟩ := List.cons.inj behind
      exact List.mem_append_right front List.mem_cons_self

def ofText? (piece : List Char) : Option Pin :=
  (splitSlashes? piece).map fun (name, value) => ⟨String.ofList name, String.ofList value⟩

/-- The name and the value of a pin have no semicolon, and the name has no slash. -/
structure Separable (p : Pin) : Prop where
  name_unslashed : '/' ∉ p.name.toList
  name_whole : ';' ∉ p.name.toList
  value_whole : ';' ∉ p.value.toList

instance (p : Pin) : Decidable p.Separable :=
  decidable_of_iff ('/' ∉ p.name.toList ∧ ';' ∉ p.name.toList ∧ ';' ∉ p.value.toList)
    ⟨fun ⟨a, b, c⟩ => ⟨a, b, c⟩, fun ⟨a, b, c⟩ => ⟨a, b, c⟩⟩

theorem toList_text (p : Pin) : p.text.toList = p.name.toList ++ '/' :: '/' :: p.value.toList := by
  rw [text, String.toList_append, String.toList_append, List.append_assoc]
  rfl

theorem Separable.ofText?_text (separable : p.Separable) : ofText? p.text.toList = some p := by
  rw [ofText?, toList_text, splitSlashes?_append separable.name_unslashed, Option.map_some]
  simp only [String.ofList_toList]

theorem Separable.text_whole (separable : p.Separable) : ';' ∉ p.text.toList := by
  rw [toList_text]
  simp [separable.name_whole, separable.value_whole]

end Pin

variable {pins others : List Pin}

/-- The pins that a text stands for: one for each of its pieces between semicolons, and none for
the empty text. -/
def pinsOfText? (s : String) : Option (List Pin) :=
  if s = "" then some [] else (Text.splitAt ';' s.toList).mapM Pin.ofText?

theorem toList_concatenatePins (pins : List Pin) :
    (concatenatePins pins).toList = [';'].intercalate (pins.map fun p => p.text.toList) := by
  rw [concatenatePins, String.toList_intercalate, List.map_map]
  rfl

/-- Each pin has two slashes of its own, so that only no pins at all have the empty text. -/
theorem concatenatePins_eq_empty_iff : concatenatePins pins = "" ↔ pins = [] := by
  constructor
  · intro empty
    cases pins with
    | nil => rfl
    | cons p rest =>
      have bound : p.text.toList.length ≤ (concatenatePins (p :: rest)).toList.length := by
        rw [toList_concatenatePins]
        exact Text.length_le_length_intercalate ';' p.text.toList _
      rw [empty, Pin.toList_text] at bound
      simp at bound
  · rintro rfl
    rfl

theorem splitAt_concatenatePins (separable : ∀ p ∈ pins, p.Separable) (notEmpty : pins ≠ []) :
    Text.splitAt ';' (concatenatePins pins).toList = pins.map fun p => p.text.toList := by
  rw [toList_concatenatePins]
  apply Text.splitAt_intercalate
  · intro piece member
    obtain ⟨p, among, rfl⟩ := List.mem_map.mp member
    exact (separable p among).text_whole
  · rwa [Ne, List.map_eq_nil_iff]

theorem pinsOfText?_concatenatePins (separable : ∀ p ∈ pins, p.Separable) :
    pinsOfText? (concatenatePins pins) = some pins := by
  rw [pinsOfText?]
  by_cases empty : pins = []
  · subst empty
    rfl
  · rw [if_neg (mt concatenatePins_eq_empty_iff.mp empty), splitAt_concatenatePins separable empty,
      Json.mapM_eq_some_iff, List.map_map]
    apply List.map_congr_left
    intro p member
    exact (separable p member).ofText?_text

/-- The text of pins is read back. Where no name has a slash and no name or value a semicolon,
splitting the text at its semicolons and each piece at its first two slashes gives the very pins in
their order, so that other pins have another text. The empty text is that of no pins only. -/
theorem pins_read_back_from_text (pins others : List Pin) (separable : ∀ p ∈ pins, p.Separable)
    (separable' : ∀ p ∈ others, p.Separable) :
    pinsOfText? (concatenatePins pins) = some pins ∧
    (pins ≠ [] →
      Text.splitAt ';' (concatenatePins pins).toList = pins.map fun p => p.text.toList) ∧
    (∀ p ∈ pins, Pin.splitSlashes? p.text.toList = some (p.name.toList, p.value.toList)) ∧
    (concatenatePins pins = concatenatePins others → pins = others) ∧
    (concatenatePins pins = "" ↔ pins = []) := by
  refine ⟨pinsOfText?_concatenatePins separable, splitAt_concatenatePins separable, ?_, ?_,
    concatenatePins_eq_empty_iff⟩
  · intro p member
    rw [Pin.toList_text]
    exact Pin.splitSlashes?_append (separable p member).name_unslashed p.value.toList
  · intro same
    have here := pinsOfText?_concatenatePins separable
    rw [same, pinsOfText?_concatenatePins separable'] at here
    exact (Option.some.inj here).symm

namespace Sample

def slashedPins : List Pin := [⟨"sha256", "/A//B="⟩, ⟨"", ""⟩]

end Sample

/-- The slashes of a hash do not keep its pin from being read back. -/
theorem slashed_pins_read_back :
    (∀ p ∈ Sample.slashedPins, p.Separable) ∧
      concatenatePins Sample.slashedPins = "sha256///A//B=;//" ∧
      pinsOfText? "sha256///A//B=;//" = some Sample.slashedPins := by
  have separable : ∀ p ∈ Sample.slashedPins, p.Separable := by decide +kernel
  have text : concatenatePins Sample.slashedPins = "sha256///A//B=;//" := by decide +kernel
  obtain ⟨back, -⟩ := pins_read_back_from_text Sample.slashedPins Sample.slashedPins separable
    separable
  rw [text] at back
  exact ⟨separable, text, back⟩

-- A slash at the end of a name could as well begin the value.
example : concatenatePins [⟨"a/", "b"⟩] = concatenatePins [⟨"a", "/b"⟩] := by
  decide +kernel

end FederationTrust
