import FederationTrust.KeyFile.KeySet
import FederationTrust.Proofs.Json.RoundTrip
import FederationTrust.Proofs.Texts

/-!
# What a key file holds

White space around the text of a key file is no part of what it holds. Armour begins with two
minus signs, and no JSON value does, so a file that holds a value is read as that value, whatever
the value is. The compact text of an object within the limits is a file that holds the object.
-/

namespace FederationTrust

namespace Pem

theorem after?_eq_some_iff (front s rest : List Char) :
    after? front s = some rest ↔ s = front ++ rest := by
  fun_induction after? front s with
  | case1 s => simp [eq_comm]
  | case2 => simp
  | case3 _ _ _ ih => simpa using ih
  | case4 _ _ _ _ differs => simp [Ne.symm differs]

end Pem

namespace Json

/-- A number has at most one sign, so nothing is read that begins with two minus signs. -/
theorem parse?_of_two_signs (rest : Bytes) : parse? (0x2D :: 0x2D :: rest) = none := by
  have sign : Scanner.between.step? 0x2D = some ([], .number (NumeralSoFar.signed true)) := rfl
  have again : Reader.feed? ⟨.number (NumeralSoFar.signed true), .value []⟩ 0x2D = none := rfl
  change (Reader.start.feedAll? (0x2D :: 0x2D :: rest)).bind Reader.finish? = none
  rw [Reader.start, Reader.feedAll?_of_step sign, Reader.feedAll?_cons, again, Option.bind_none,
    Option.bind_none]

theorem parse?_of_armour {text : String}
    (begins : (Pem.after? "-----BEGIN".toList text.toList).isSome = true) :
    parse? (Bytes.ofText text) = none := by
  obtain ⟨rest, found⟩ := Option.isSome_iff_exists.mp begins
  have spelled := (Pem.after?_eq_some_iff _ _ _).mp found
  have octets : Bytes.ofText text = Bytes.ofChars ("-----BEGIN".toList ++ rest) := by
    rw [← Bytes.ofText_ofList, ← spelled, String.ofList_toList]
  rw [octets, Bytes.ofChars_append]
  exact parse?_of_two_signs _

end Json

namespace KeySet

variable {file : Bytes} {text : String} {j : Json}

/-- The text of a key file without white space around it. -/
def fileText? (file : Bytes) : Option String :=
  (Bytes.text? file).map Text.trimmed

/-- A key file holds a value within the limits. -/
def Holds (file : Bytes) (j : Json) : Prop :=
  ∃ text, fileText? file = some text ∧ Json.parsePlain? (Bytes.ofText text) = some j

/-- A file that does not begin as armour is read as a plain value. -/
theorem parse_of_no_armour (holds : fileText? file = some text)
    (read : Json.parsePlain? (Bytes.ofText text) = some j)
    (begins : (Pem.after? "-----BEGIN".toList text.toList).isSome = false) :
    parse file = ofJson j := by
  obtain ⟨written, spelled, rfl⟩ := Option.map_eq_some_iff.mp holds
  unfold parse
  rw [spelled]
  dsimp only
  rw [begins, if_neg Bool.false_ne_true, read]

theorem parse_of_armour (holds : fileText? file = some text)
    (begins : (Pem.after? "-----BEGIN".toList text.toList).isSome = true) :
    parse file = ofArmour text := by
  obtain ⟨written, spelled, rfl⟩ := Option.map_eq_some_iff.mp holds
  unfold parse
  rw [spelled]
  dsimp only
  rw [begins, if_pos rfl]

/-- A file that holds a value is read as that value. -/
theorem parse_of_holds (h : Holds file j) : parse file = ofJson j := by
  obtain ⟨text, spelled, read⟩ := h
  cases begins : (Pem.after? "-----BEGIN".toList text.toList).isSome with
  | false => exact parse_of_no_armour spelled read begins
  | true =>
    rw [Json.parsePlain?, Json.parse?_of_armour begins] at read
    cases read

/-- The compact text of an object within the limits is a file that holds it. -/
theorem holds_render {members : List (Option String × Json)}
    (plain : (Json.object members).plainWithin Json.depthLimit = true) :
    Holds (Bytes.ofText (Json.object members).render) (.object members) := by
  have begins : (Json.print (.object members)).head? = some '{' := rfl
  have ends : (Json.print (.object members)).getLast? = some '}' := List.getLast?_concat ..
  have whole : Text.trim (Json.print (.object members)) = Json.print (.object members) := by
    apply Text.trim_of_ends
    · rw [begins]
      rintro _ ⟨⟩
      rfl
    · rw [ends]
      rintro _ ⟨⟩
      rfl
  refine ⟨(Json.object members).render, ?_, ?_⟩
  · rw [fileText?, Bytes.text?_ofText, Option.map_some, Text.trimmed, Json.render,
      String.toList_ofList, whole]
  · rw [Json.parsePlain?, Json.parse?_render, Option.filter_some_pos plain]

end KeySet

end FederationTrust
