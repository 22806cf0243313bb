import FederationTrust.Proofs.Octets
import Mathlib.Data.List.Lex
import Mathlib.Data.String.Basic

/-!
# Octets are ordered as characters are

Texts are compared character by character, and their octets compare alike: the first octet of a
character tells how many follow, and is the greater the more do; those that follow have six bits
each, the highest first.
-/

namespace FederationTrust

namespace Bytes

variable {n m k : Nat} {c d : Char}

/-- How many octets follow the first one of a character. -/
def following (n : Nat) : Nat :=
  if n ≤ 0x7F then 0 else if n ≤ 0x7FF then 1 else if n ≤ 0xFFFF then 2 else 3

/-- What a first octet has besides bits of the character, by how many octets follow. -/
def mark : Nat → Nat
  | 0 => 0
  | 1 => 0xC0
  | 2 => 0xE0
  | _ => 0xF0

/-- The first octet of a character, as a number. -/
def leading (n : Nat) : Nat :=
  n / 64 ^ following n + mark (following n)

/-- The lowest bits of a number, six in each octet. -/
def sixBits : Nat → Nat → Bytes
  | 0, _ => []
  | k + 1, n => UInt8.ofNat (n / 64 ^ k % 64 + 0x80) :: sixBits k n

theorem toNat_lt (c : Char) : c.toNat < 0x110000 := by
  have valid : c.toNat < 0xD800 ∨ 0xDFFF < c.toNat ∧ c.toNat < 0x110000 := c.valid
  omega

theorem utf8EncodeChar_eq (c : Char) :
    String.utf8EncodeChar c =
      UInt8.ofNat (leading c.toNat) :: sixBits (following c.toNat) c.toNat := by
  have bound := toNat_lt c
  have number : c.val.toNat = c.toNat := rfl
  unfold String.utf8EncodeChar
  simp only [number]
  by_cases one : c.toNat ≤ 0x7F
  · simp [leading, following, mark, sixBits, one]
  by_cases two : c.toNat ≤ 0x7FF
  · have high : c.toNat / 64 % 32 = c.toNat / 64 := by omega
    simp [leading, following, mark, sixBits, one, two, high]
  by_cases three : c.toNat ≤ 0xFFFF
  · have high : c.toNat / 4096 % 16 = c.toNat / 4096 := by omega
    simp [leading, following, mark, sixBits, one, two, three, high]
  · have high : c.toNat / 262144 % 8 = c.toNat / 262144 := by omega
    simp [leading, following, mark, sixBits, one, two, three, high]

/-- The four forms of a character, by its number. -/
theorem following_cases (n : Nat) :
    n ≤ 0x7F ∧ following n = 0 ∧ leading n = n ∨
      0x7F < n ∧ n ≤ 0x7FF ∧ following n = 1 ∧ leading n = n / 64 + 0xC0 ∨
      0x7FF < n ∧ n ≤ 0xFFFF ∧ following n = 2 ∧ leading n = n / 4096 + 0xE0 ∨
      0xFFFF < n ∧ following n = 3 ∧ leading n = n / 262144 + 0xF0 := by
  by_cases one : n ≤ 0x7F
  · simp [leading, following, mark, one]
  by_cases two : n ≤ 0x7FF
  · simp [leading, following, mark, one, two]
    omega
  by_cases three : n ≤ 0xFFFF
  · simp [leading, following, mark, one, two, three]
    omega
  · simp [leading, following, mark, one, two, three]
    omega

theorem leading_lt (bound : n < 0x110000) : leading n < 256 := by
  rcases following_cases n with h | h | h | h <;> omega

theorem leading_le_of_lt (less : n < m) (bound : m < 0x110000) : leading n ≤ leading m := by
  rcases following_cases n with h | h | h | h <;> rcases following_cases m with h' | h' | h' | h' <;>
    omega

/-- Characters that begin with the same octet have as many octets that follow. -/
theorem following_eq_of_leading_eq (same : leading n = leading m) (bound : n < 0x110000)
    (bound' : m < 0x110000) : following n = following m := by
  rcases following_cases n with h | h | h | h <;> rcases following_cases m with h' | h' | h' | h' <;>
    omega

theorem ofNat_lt_ofNat (less : n < m) (bound : m < 256) : UInt8.ofNat n < UInt8.ofNat m := by
  rw [UInt8.lt_iff_toNat_lt, UInt8.toNat_ofNat', UInt8.toNat_ofNat']
  omega

/-- Where the higher bits of two numbers agree, the lower ones decide, whatever comes behind. -/
theorem sixBits_lt (less : n < m) (high : n / 64 ^ k = m / 64 ^ k) (s t : Bytes) :
    sixBits k n ++ s < sixBits k m ++ t := by
  induction k with
  | zero =>
    rw [Nat.pow_zero, Nat.div_one, Nat.div_one] at high
    omega
  | succ k ih =>
    rw [sixBits, sixBits, List.cons_append, List.cons_append, List.cons_lt_cons_iff]
    rw [Nat.pow_succ, ← Nat.div_div_eq_div_mul, ← Nat.div_div_eq_div_mul] at high
    by_cases same : n / 64 ^ k = m / 64 ^ k
    · right
      exact ⟨by rw [same], ih same⟩
    · left
      have below : n / 64 ^ k ≤ m / 64 ^ k := Nat.div_le_div_right (Nat.le_of_lt less)
      apply ofNat_lt_ofNat
      · omega
      · omega

/-- The octets of a smaller character are smaller, whatever comes behind them. -/
theorem utf8EncodeChar_lt (less : c < d) (s t : Bytes) :
    String.utf8EncodeChar c ++ s < String.utf8EncodeChar d ++ t := by
  have number : c.toNat < d.toNat := less
  rw [utf8EncodeChar_eq, utf8EncodeChar_eq, List.cons_append, List.cons_append,
    List.cons_lt_cons_iff]
  by_cases same : leading c.toNat = leading d.toNat
  · right
    have form := following_eq_of_leading_eq same (toNat_lt c) (toNat_lt d)
    refine ⟨by rw [same], ?_⟩
    rw [form]
    apply sixBits_lt number
    rw [leading, leading, form] at same
    omega
  · left
    have order := leading_le_of_lt number (toNat_lt d)
    exact ofNat_lt_ofNat (by omega) (leading_lt (toNat_lt d))

theorem ofChars_lt {s t : List Char} (less : s < t) : ofChars s < ofChars t := by
  induction less with
  | @nil d rest =>
    obtain ⟨first, more, octets⟩ := List.exists_cons_of_ne_nil (@String.utf8EncodeChar_ne_nil d)
    rw [ofChars_cons, octets]
    exact List.nil_lt_cons first _
  | rel first => exact utf8EncodeChar_lt first _ _
  | cons _ ih =>
    rw [ofChars_cons, ofChars_cons]
    exact List.append_left_lt ih

/-- Texts are in the order of their octets. -/
theorem ofText_lt_ofText_iff {s t : String} : ofText s < ofText t ↔ s < t := by
  have mono {a b : String} (less : a < b) : ofText a < ofText b := by
    rw [← String.ofList_toList (s := a), ← String.ofList_toList (s := b), ofText_ofList,
      ofText_ofList]
    exact ofChars_lt (String.lt_iff_toList_lt.mp less)
  constructor
  · intro less
    rcases lt_trichotomy s t with before | same | after
    · exact before
    · rw [same] at less
      exact absurd less (List.lt_irrefl _)
    · exact absurd less (List.lt_asymm (mono after))
  · exact mono

end Bytes

end FederationTrust
