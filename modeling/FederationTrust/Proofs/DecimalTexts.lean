import FederationTrust.Proofs.Texts
import Mathlib.Algebra.Group.Int.Defs
import Mathlib.Algebra.Group.Nat.Defs

/-!
# Decimal numbers in text

One or more digits are read as the number that they write, after a plus sign too and, where a sign
belongs to the type, after a minus sign. The decimal form of a number is read as that number
wherever its type holds it, and as none elsewhere.
-/

namespace FederationTrust

namespace Text

theorem digit?_eq_some_iff {c : Char} {d : Nat} :
    digit? c = some d ↔ c.isDigit = true ∧ d = c.toNat - 48 := by
  have range : c.isDigit = true ↔ 48 ≤ c.toNat ∧ c.toNat ≤ 57 := by
    simp [Char.isDigit, UInt32.le_iff_toNat_le]
  rw [digit?, range]
  split
  · rename_i digit
    simp [digit, eq_comm]
  · rename_i other
    simp [other]

theorem mapM_digit?_eq_some_iff {cs : List Char} {ds : List Nat} :
    cs.mapM digit? = some ds ↔
      (∀ c ∈ cs, c.isDigit = true) ∧ ds = cs.map fun c => c.toNat - 48 := by
  rw [Json.mapM_eq_some_iff]
  induction cs generalizing ds with
  | nil => cases ds <;> simp
  | cons c cs ih =>
    cases ds with
    | nil => simp
    | cons d ds =>
      rw [List.map_cons, List.map_cons, List.cons.injEq, digit?_eq_some_iff, ih,
        List.forall_mem_cons, List.map_cons, List.cons.injEq]
      exact and_and_and_comm

/-- Digits are read as the number that they write, and nothing else is read. -/
theorem digits?_eq_some_iff {cs : List Char} {n : Nat} :
    digits? cs = some n ↔
      cs ≠ [] ∧ (∀ c ∈ cs, c.isDigit = true) ∧ Nat.ofDigitChars 10 cs 0 = n := by
  have value (cs : List Char) : Nat.ofDigitChars 10 cs 0 =
      (cs.map fun c => c.toNat - 48).foldl (fun n d => n * 10 + d) 0 := by
    rw [List.foldl_map, Nat.ofDigitChars]
    simp only [Nat.mul_comm 10]
    rfl
  by_cases none : cs = []
  · simp [none, digits?]
  · rw [digits?.eq_2 cs none, Option.map_eq_some_iff, value]
    simp [mapM_digit?_eq_some_iff, none, and_assoc]

/-- The decimal form of a number is read as the number. -/
theorem digits?_toDigits (n : Nat) : digits? (Nat.toDigits 10 n) = some n :=
  digits?_eq_some_iff.mpr ⟨Nat.toDigits_ne_nil,
    fun _ => Nat.isDigit_of_mem_toDigits (by decide) (by decide), Nat.ofDigitChars_ten_toDigits⟩

/-- A number below the limit is read from its digits, which a plus sign may precede. -/
theorem natBelow?_eq_some_iff {limit : Nat} {cs : List Char} {n : Nat} :
    natBelow? limit cs = some n ↔
      ∃ digits, (cs = digits ∨ cs = '+' :: digits) ∧ digits? digits = some n ∧ n < limit := by
  constructor
  · intro read
    rw [natBelow?.eq_def] at read
    split at read
    · rename_i digits
      obtain ⟨read, below⟩ := Option.filter_eq_some_iff.mp read
      exact ⟨digits, .inr rfl, read, of_decide_eq_true below⟩
    · obtain ⟨read, below⟩ := Option.filter_eq_some_iff.mp read
      exact ⟨cs, .inl rfl, read, of_decide_eq_true below⟩
  · rintro ⟨digits, rfl | rfl, read, below⟩
    · rw [natBelow?.eq_def]
      split
      · obtain ⟨-, each, -⟩ := digits?_eq_some_iff.mp read
        exact absurd (each '+' List.mem_cons_self) (by decide)
      · exact Option.filter_eq_some_iff.mpr ⟨read, decide_eq_true below⟩
    · exact Option.filter_eq_some_iff.mpr ⟨read, decide_eq_true below⟩

/-- A word is read from a decimal number that it holds. -/
theorem word?_eq_some_iff {cs : List Char} {w : UInt64} :
    word? cs = some w ↔
      ∃ digits, (cs = digits ∨ cs = '+' :: digits) ∧ digits? digits = some w.toNat := by
  rw [word?, Option.map_eq_some_iff]
  constructor
  · rintro ⟨n, read, rfl⟩
    obtain ⟨digits, form, read, below⟩ := natBelow?_eq_some_iff.mp read
    refine ⟨digits, form, ?_⟩
    rw [read, UInt64.toNat_ofNat_of_lt' below]
  · rintro ⟨digits, form, read⟩
    exact ⟨w.toNat, natBelow?_eq_some_iff.mpr ⟨digits, form, read, w.toNat_lt⟩, UInt64.ofNat_toNat⟩

/-- A number with sign is read from its digits, after a minus sign or perhaps a plus sign. -/
theorem int64?_eq_some_iff {cs : List Char} {v : Int} :
    int64? cs = some v ↔ ∃ digits n, digits? digits = some n ∧
      ((cs = '-' :: digits ∧ n ≤ 2 ^ 63 ∧ v = -(n : Int)) ∨
        ((cs = digits ∨ cs = '+' :: digits) ∧ n < 2 ^ 63 ∧ v = n)) := by
  constructor
  · intro read
    rw [int64?.eq_def] at read
    split at read
    · rename_i digits
      obtain ⟨_, cast, rfl⟩ := Option.map_eq_some_iff.mp read
      obtain ⟨n, kept, ⟨⟩⟩ := Option.bind_eq_some_iff.mp cast
      obtain ⟨number, fits⟩ := Option.filter_eq_some_iff.mp kept
      exact ⟨digits, n, number, .inl ⟨rfl, of_decide_eq_true fits, rfl⟩⟩
    · obtain ⟨_, cast, rfl⟩ := Option.map_eq_some_iff.mp read
      obtain ⟨n, kept, ⟨⟩⟩ := Option.bind_eq_some_iff.mp cast
      obtain ⟨digits, form, number, below⟩ := natBelow?_eq_some_iff.mp kept
      exact ⟨digits, n, number, .inr ⟨form, below, rfl⟩⟩
  · rintro ⟨digits, n, number, ⟨rfl, fits, rfl⟩ | ⟨form, below, rfl⟩⟩
    · have kept : (digits? digits).filter (· ≤ Nat.pow 2 63) = some n :=
        Option.filter_eq_some_iff.mpr ⟨number, decide_eq_true fits⟩
      rw [int64?, kept]
      rfl
    · have kept : natBelow? (Nat.pow 2 63) cs = some n :=
        natBelow?_eq_some_iff.mpr ⟨digits, form, number, below⟩
      rw [int64?.eq_2, kept]
      · rfl
      · rintro rest rfl
        rcases form with rfl | other
        · obtain ⟨-, each, -⟩ := digits?_eq_some_iff.mp number
          exact absurd (each '-' List.mem_cons_self) (by decide)
        · exact absurd (List.cons.inj other).1 (by decide)

def FitsInt64 (n : Int) : Prop :=
  -2 ^ 63 ≤ n ∧ n < 2 ^ 63

theorem toList_toString (n : Int) : (toString n).toList =
    (if n < 0 then ['-'] else []) ++ Nat.toDigits 10 n.natAbs := by
  rw [Int.toString_eq_repr]
  cases n with
  | ofNat m =>
    rw [if_neg (Int.not_lt.mpr (Int.natCast_nonneg m) : ¬ Int.ofNat m < 0)]
    exact Nat.toList_repr
  | negSucc m =>
    rw [if_pos (Int.negSucc_lt_zero m)]
    change ("-" ++ Nat.repr (m + 1)).toList = _
    rw [String.toList_append, Nat.toList_repr]
    rfl

/-- The ways to write a whole number in decimal: its canonical form, which a plus sign may precede
if the number is not negative. -/
inductive Writes (n : Int) : List Char → Prop
  | plain : Writes n (toString n).toList
  | plus (notNegative : 0 ≤ n) : Writes n ('+' :: (toString n).toList)

/-- A way to write a number is a sign and the digits of its size. -/
theorem Writes.signed {n : Int} {cs : List Char} (writes : Writes n cs) :
    (n < 0 ∧ cs = '-' :: Nat.toDigits 10 n.natAbs) ∨
      (0 ≤ n ∧ (cs = Nat.toDigits 10 n.natAbs ∨ cs = '+' :: Nat.toDigits 10 n.natAbs)) := by
  have form := toList_toString n
  cases writes with
  | plain =>
    by_cases negative : n < 0
    · rw [if_pos negative] at form
      exact .inl ⟨negative, form⟩
    · rw [if_neg negative] at form
      exact .inr ⟨Int.not_lt.mp negative, .inl form⟩
  | plus notNegative =>
    rw [if_neg (Int.not_lt.mpr notNegative)] at form
    exact .inr ⟨notNegative, .inr (congrArg ('+' :: ·) form)⟩

/-- There is no white space in a written number. -/
theorem Writes.isBlank {n : Int} {cs : List Char} (writes : Writes n cs) :
    ∀ c ∈ cs, isBlank c = false := by
  have digits := isSome_digit?_of_digits? (digits?_toDigits n.natAbs)
  intro c member
  rcases writes.signed with ⟨-, rfl⟩ | ⟨-, rfl | rfl⟩
  · rcases List.mem_cons.mp member with rfl | later
    · decide
    · exact isBlank_of_digit? (digits c later)
  · exact isBlank_of_digit? (digits c member)
  · rcases List.mem_cons.mp member with rfl | later
    · decide
    · exact isBlank_of_digit? (digits c later)

theorem not_sign_of_digits? {digits : List Char} {n : Nat} (read : digits? digits = some n) :
    ∀ rest, digits ≠ '-' :: rest ∧ digits ≠ '+' :: rest := by
  obtain ⟨-, each, -⟩ := digits?_eq_some_iff.mp read
  refine fun rest => ⟨?_, ?_⟩
  · rintro rfl
    exact absurd (each '-' List.mem_cons_self) (by decide)
  · rintro rfl
    exact absurd (each '+' List.mem_cons_self) (by decide)

/-- However a number is written, it is read if 64 bits hold it, and nothing is read otherwise. -/
theorem Writes.int64?_eq_some_iff {n v : Int} {cs : List Char} (writes : Writes n cs) :
    int64? cs = some v ↔ FitsInt64 n ∧ v = n := by
  have size := digits?_toDigits n.natAbs
  rw [Text.int64?_eq_some_iff, FitsInt64]
  constructor
  · rintro ⟨digits, m, number, form⟩
    -- Digits do not begin with a sign, so the two forms have their signs and digits in common.
    have plain := not_sign_of_digits? number
    have canonical := not_sign_of_digits? size
    have signed := writes.signed
    rcases form with ⟨minus, fits, rfl⟩ | ⟨unsigned, below, rfl⟩
    · obtain ⟨rfl, negative⟩ : digits = Nat.toDigits 10 n.natAbs ∧ n < 0 := by grind
      obtain rfl := Option.some.inj (size.symm.trans number)
      omega
    · obtain ⟨rfl, notNegative⟩ : digits = Nat.toDigits 10 n.natAbs ∧ 0 ≤ n := by grind
      obtain rfl := Option.some.inj (size.symm.trans number)
      omega
  · rintro ⟨⟨least, greatest⟩, rfl⟩
    refine ⟨_, _, size, ?_⟩
    rcases writes.signed with ⟨negative, form⟩ | ⟨notNegative, form⟩
    · exact .inl ⟨form, by omega, by omega⟩
    · exact .inr ⟨form, by omega, by omega⟩

end Text

end FederationTrust
