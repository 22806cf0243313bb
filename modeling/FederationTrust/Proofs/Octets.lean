import FederationTrust.Bytes

/-!
# Octets of characters

The octets of a text are those of its characters one after another, and spell the text again.
-/

namespace FederationTrust

namespace Bytes

def ofChars (cs : List Char) : Bytes :=
  cs.flatMap String.utf8EncodeChar

@[simp] theorem ofChars_nil : ofChars [] = [] := rfl

@[simp] theorem ofChars_cons (c : Char) (cs : List Char) :
    ofChars (c :: cs) = String.utf8EncodeChar c ++ ofChars cs := rfl

@[simp] theorem ofChars_append (a b : List Char) : ofChars (a ++ b) = ofChars a ++ ofChars b :=
  List.flatMap_append

theorem ofText_ofList (cs : List Char) : ofText (String.ofList cs) = ofChars cs := by
  rw [ofText, String.toByteArray_ofList]
  exact List.toList_data_toByteArray

theorem text?_ofChars (s : String) : text? (ofChars s.toList) = some s := by
  rw [← ofText_ofList, String.ofList_toList, text?_ofText]

/-- Octets spell a text exactly if they are its UTF-8 form. -/
theorem text?_eq_some_iff {b : Bytes} {s : String} : text? b = some s ↔ b = ofText s := by
  refine ⟨fun spelled => ?_, fun written => written ▸ text?_ofText s⟩
  rw [text?, String.fromUTF8?] at spelled
  split at spelled
  · rw [← Option.some.inj spelled]
    rfl
  · cases spelled

theorem ofText_injective {s t : String} (same : ofText s = ofText t) : s = t :=
  Option.some.inj ((text?_ofText s).symm.trans (same ▸ text?_ofText t))

/-- A character of ASCII is one octet, its number. -/
theorem utf8EncodeChar_of_ascii {c : Char} (ascii : c.toNat < 128) :
    String.utf8EncodeChar c = [UInt8.ofNat c.toNat] :=
  if_pos (Nat.le_of_lt_succ ascii)

/-- The octets of a character beyond ASCII are none of ASCII. -/
theorem le_of_mem_utf8EncodeChar {c : Char} (beyond : 128 ≤ c.toNat) {x : UInt8}
    (member : x ∈ String.utf8EncodeChar c) : 128 ≤ x.toNat := by
  have beyond : 128 ≤ c.val.toNat := beyond
  unfold String.utf8EncodeChar at member
  dsimp only at member
  split at member
  · omega
  · split at member
    · simp only [List.mem_cons, List.not_mem_nil, or_false] at member
      rcases member with rfl | rfl <;> simp only [UInt8.toNat_ofNat'] <;> omega
    · split at member
      · simp only [List.mem_cons, List.not_mem_nil, or_false] at member
        rcases member with rfl | rfl | rfl <;> simp only [UInt8.toNat_ofNat'] <;> omega
      · simp only [List.mem_cons, List.not_mem_nil, or_false] at member
        rcases member with rfl | rfl | rfl | rfl <;> simp only [UInt8.toNat_ofNat'] <;> omega

/-- A hexadecimal digit is one octet, and is read as the number it stands for. -/
theorem utf8EncodeChar_hexDigit {d : Nat} (h : d < 16) :
    ∃ x, String.utf8EncodeChar (hexDigit d) = [x] ∧ hexValue? x = some d := by
  have each : ∀ d : Fin 16,
      String.utf8EncodeChar (hexDigit d) = [UInt8.ofNat (hexDigit d).toNat] ∧
        hexValue? (UInt8.ofNat (hexDigit d).toNat) = some d.val := by decide
  exact ⟨_, each ⟨d, h⟩⟩

end Bytes

end FederationTrust
