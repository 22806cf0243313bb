import FederationTrust.Text.Lowercase

/-!
# Lower case is settled

Text in lower case is its own lower-case form. No mapped character leads to another one, also
where the form has two characters, and once no capital sigma is left no context matters.
-/

namespace FederationTrust

namespace Text

variable {c d : Char} {n lo hi step : Nat} {r q : Nat × Nat × Nat × Int}

/-- A character that is its own lower-case form. -/
def Settled (c : Char) : Prop :=
  lowerChar c = [c]

instance (c : Char) : Decidable (Settled c) :=
  inferInstanceAs (Decidable (_ = _))

theorem Settled.ne_capitalSigma (h : Settled c) : c ≠ capitalSigma := by
  rintro rfl
  exact absurd h (by decide)

def rangeHas (q : Nat × Nat × Nat × Int) (n : Nat) : Bool :=
  q.1 ≤ n && n ≤ q.2.1 && (n - q.1) % q.2.2.1 == 0

theorem rangeHas_iff :
    rangeHas q n = true ↔ q.1 ≤ n ∧ n ≤ q.2.1 ∧ (n - q.1) % q.2.2.1 = 0 := by
  simp only [rangeHas, Bool.and_eq_true, decide_eq_true_eq, beq_iff_eq, and_assoc]

/-- The range of the one character that the mapping leaves out. -/
def dottedRange : Nat × Nat × Nat × Int :=
  (0x130, 0x130, 1, 0)

/-- A character that the mapping does not have is its own lower-case form. -/
theorem settled_of_no_range (h : ∀ q ∈ dottedRange :: lowerRanges, rangeHas q c.toNat ≠ true) :
    Settled c := by
  have small : ¬(65 ≤ c.toNat ∧ c.toNat ≤ 90) := fun ⟨above, below⟩ =>
    h (0x41, 0x5A, 1, 32) (by decide) (rangeHas_iff.mpr ⟨above, below, Nat.mod_one _⟩)
  have single : c.toNat ≠ 0x130 := fun same =>
    h dottedRange List.mem_cons_self (by rw [same]; decide)
  unfold Settled lowerChar
  by_cases ascii : c.toNat < 0x80
  · rw [if_pos ascii, lowerAscii, if_neg small]
  · rw [if_neg ascii, if_neg single]
    have none : (lowerRanges.find? fun r => rangeHas r c.toNat) = none :=
      List.find?_eq_none.mpr fun q member => h q (List.mem_cons_of_mem _ member)
    unfold rangeHas at none
    rw [none]

/-- Whether a range lies apart from the numbers between two bounds, or from every other one. -/
def liesApart (lo hi step : Nat) (q : Nat × Nat × Nat × Int) : Bool :=
  q.2.1.blt lo || hi.blt q.1 || (q.2.2.1 == 2 && (step == 2 || lo == hi) && (lo + q.1) % 2 == 1)

theorem not_rangeHas_of_liesApart (apart : liesApart lo hi step q = true) (above : lo ≤ n)
    (below : n ≤ hi) (steps : (n - lo) % step = 0) : rangeHas q n ≠ true := by
  have stepped : step = 2 ∨ lo = hi → (n - lo) % 2 = 0 := by
    rintro (rfl | rfl)
    · exact steps
    · omega
  intro inside
  obtain ⟨first, last, on⟩ := rangeHas_iff.mp inside
  simp only [liesApart, Bool.or_eq_true, Nat.blt_eq, Bool.and_eq_true, beq_iff_eq] at apart
  rcases apart with (before | after) | ⟨⟨two, same⟩, odd⟩
  · omega
  · omega
  · rw [two] at on
    have even := stepped same
    omega

/-- Whether the lower-case forms of a range lie apart from all that is mapped. -/
def leadsOut (r : Nat × Nat × Nat × Int) : Bool :=
  let lo := (r.1 + r.2.2.2).toNat
  let hi := (r.2.1 + r.2.2.2).toNat
  0 < lo && (dottedRange :: lowerRanges).all (liesApart lo hi r.2.2.1)

/-- No range of the mapping leads into another one. -/
theorem leadsOut_lowerRanges : lowerRanges.all leadsOut = true := by
  decide +kernel

theorem settled_lowerAscii (h : c.toNat < 0x80) : Settled (lowerAscii c) := by
  have all : ∀ n < 0x80, Settled (lowerAscii (Char.ofNat n)) := by decide +kernel
  have same := all c.toNat h
  rwa [Char.ofNat_toNat] at same

/-- What a range of the mapping leads to is its own lower-case form. -/
theorem settled_of_range (member : r ∈ lowerRanges) (inside : rangeHas r n = true) :
    Settled (Char.ofNat ((n : Int) + r.2.2.2).toNat) := by
  by_cases valid : ((n : Int) + r.2.2.2).toNat.isValidChar
  · have out := List.all_eq_true.mp leadsOut_lowerRanges r member
    simp only [leadsOut, Bool.and_eq_true, decide_eq_true_eq, List.all_eq_true] at out
    obtain ⟨positive, apart⟩ := out
    obtain ⟨first, last, steps⟩ := rangeHas_iff.mp inside
    have distance : ((n : Int) + r.2.2.2).toNat - ((r.1 : Int) + r.2.2.2).toNat = n - r.1 := by
      omega
    have number : (Char.ofNat ((n : Int) + r.2.2.2).toNat).toNat = ((n : Int) + r.2.2.2).toNat := by
      rw [Char.ofNat, dif_pos valid]
      rfl
    refine settled_of_no_range fun q other => ?_
    rw [number]
    refine not_rangeHas_of_liesApart (apart q other) (by omega) (by omega) ?_
    rw [distance]
    exact steps
  · -- A number that is no character stands for the character of zero.
    rw [Char.ofNat, dif_neg valid]
    decide

/-- The lower-case form of a character is its own. -/
theorem settled_of_mem_lowerChar (h : d ∈ lowerChar c) : Settled d := by
  unfold lowerChar at h
  split at h
  · rename_i ascii
    rw [List.mem_singleton.mp h]
    exact settled_lowerAscii ascii
  · rename_i ascii
    split at h
    · have letter : Settled 'i' := by decide
      have dot : Settled (Char.ofNat 0x307) := by decide +kernel
      rcases List.mem_cons.mp h with rfl | rest
      · exact letter
      · rw [List.mem_singleton.mp rest]
        exact dot
    · rename_i dotted
      split at h
      · rename_i r found
        have inside := List.find?_some found
        rw [List.mem_singleton.mp h]
        exact settled_of_range (List.mem_of_find?_eq_some found) inside
      · rename_i none
        rw [List.mem_singleton.mp h, Settled, lowerChar, if_neg ascii, if_neg dotted, none]

theorem settled_lowerSigma (before after : List Char) : Settled (lowerSigma before after) := by
  unfold lowerSigma
  split <;> decide

theorem settled_of_mem_lowerAfter {before s : List Char} (h : d ∈ lowerAfter before s) :
    Settled d := by
  induction s generalizing before with
  | nil => cases h
  | cons c rest ih =>
    rw [lowerAfter, List.mem_append] at h
    rcases h with here | later
    · split at here
      · rw [List.mem_singleton.mp here]
        exact settled_lowerSigma before rest
      · exact settled_of_mem_lowerChar here
    · exact ih later

/-- Where every character is its own lower-case form, the text is, in whatever context. -/
theorem lowerAfter_of_settled {s : List Char} (h : ∀ c ∈ s, Settled c) (before : List Char) :
    lowerAfter before s = s := by
  induction s generalizing before with
  | nil => rfl
  | cons c rest ih =>
    have settled := h c List.mem_cons_self
    have first : lowerChar c = [c] := settled
    rw [lowerAfter, if_neg settled.ne_capitalSigma, first,
      ih (fun d member => h d (List.mem_cons_of_mem c member))]
    rfl

/-- Text in lower case is its own lower-case form. -/
theorem lowercase_lowercase (s : String) : lowercase (lowercase s) = lowercase s := by
  unfold lowercase
  rw [String.toList_ofList, lowerAfter_of_settled fun _ member => settled_of_mem_lowerAfter member]

end Text

end FederationTrust
