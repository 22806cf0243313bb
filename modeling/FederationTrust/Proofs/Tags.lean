import FederationTrust.Metadata.Basic
import FederationTrust.Proofs.Lowercase
import FederationTrust.Proofs.OctetOrder
import Mathlib.Data.List.Chain
import Mathlib.Data.List.Destutter
import Mathlib.Data.List.Sort
import Mathlib.Data.String.Basic

/-!
# Canonical tags

Canonical tags are the lower-case tags in strictly increasing order, and so are their own
canonical form. A set of tags that is shown can be asked for as it is shown. Two lists of tags
have one canonical form exactly if they are the same set in lower case, and the form is what
sorting by octets and dropping repeated neighbours gives.
-/

namespace FederationTrust

variable {tag t : String} {tags l : List String}

theorem mem_insertTag : t ∈ insertTag tag l ↔ t = tag ∨ t ∈ l := by
  induction l with
  | nil => exact List.mem_cons
  | cons first rest ih =>
    rw [insertTag]
    split
    · exact List.mem_cons
    · split
      · rename_i same
        rw [same, List.mem_cons, or_iff_right_of_imp Or.inl]
      · rw [List.mem_cons, ih, List.mem_cons, or_left_comm]

theorem pairwise_insertTag (increasing : l.Pairwise (· < ·)) :
    (insertTag tag l).Pairwise (· < ·) := by
  induction l with
  | nil => exact List.pairwise_singleton _ tag
  | cons first rest ih =>
    obtain ⟨before, others⟩ := List.pairwise_cons.mp increasing
    rw [insertTag]
    split
    · rename_i less
      refine List.pairwise_cons.mpr ⟨fun t member => ?_, increasing⟩
      rcases List.mem_cons.mp member with rfl | later
      · exact less
      · exact less.trans (before t later)
    · split
      · exact increasing
      · rename_i notLess other
        have greater : first < tag := lt_of_le_of_ne (not_lt.mp notLess) (Ne.symm other)
        refine List.pairwise_cons.mpr ⟨fun t member => ?_, ih others⟩
        rcases mem_insertTag.mp member with rfl | later
        · exact greater
        · exact before t later

/-- A tag below all others comes first. -/
theorem insertTag_of_forall_lt (below : ∀ t ∈ l, tag < t) : insertTag tag l = tag :: l := by
  cases l with
  | nil => rfl
  | cons first rest => rw [insertTag, if_pos (below first List.mem_cons_self)]

theorem foldr_insertTag_of_pairwise (increasing : l.Pairwise (· < ·)) :
    l.foldr insertTag [] = l := by
  induction increasing with
  | nil => rfl
  | cons before _ ih => rw [List.foldr_cons, ih, insertTag_of_forall_lt before]

theorem pairwise_canonicalTags (tags : List String) : (canonicalTags tags).Pairwise (· < ·) := by
  unfold canonicalTags
  induction tags.map Text.lowercase with
  | nil => exact .nil
  | cons tag rest ih => exact pairwise_insertTag ih

theorem mem_canonicalTags : t ∈ canonicalTags tags ↔ ∃ tag ∈ tags, Text.lowercase tag = t := by
  rw [← List.mem_map, canonicalTags]
  induction tags.map Text.lowercase with
  | nil => rfl
  | cons tag rest ih => rw [List.foldr_cons, mem_insertTag, ih, List.mem_cons]

/-- Canonical tags are their own canonical form. -/
theorem canonicalTags_canonicalTags (tags : List String) :
    canonicalTags (canonicalTags tags) = canonicalTags tags := by
  have lower : (canonicalTags tags).map Text.lowercase = canonicalTags tags := by
    refine (List.map_congr_left fun t member => ?_).trans (List.map_id _)
    obtain ⟨tag, -, rfl⟩ := mem_canonicalTags.mp member
    exact Text.lowercase_lowercase tag
  rw [canonicalTags, lower, foldr_insertTag_of_pairwise (pairwise_canonicalTags tags)]

def octetsLe (s t : String) : Bool :=
  !decide (Bytes.ofText t < Bytes.ofText s)

theorem octetsLe_iff {s t : String} : octetsLe s t = true ↔ s ≤ t := by
  rw [octetsLe, Bool.not_eq_true', decide_eq_false_iff_not, Bytes.ofText_lt_ofText_iff, not_lt]

theorem pairwise_mergeSort_octetsLe (l : List String) :
    (l.mergeSort octetsLe).Pairwise (· ≤ ·) := by
  have trans (a b c : String) (first : octetsLe a b = true) (second : octetsLe b c = true) :
      octetsLe a c = true :=
    octetsLe_iff.mpr ((octetsLe_iff.mp first).trans (octetsLe_iff.mp second))
  have total (a b : String) : (octetsLe a b || octetsLe b a) = true := by
    rw [Bool.or_eq_true, octetsLe_iff, octetsLe_iff]
    exact le_total a b
  exact (List.pairwise_mergeSort trans total l).imp octetsLe_iff.mp

/-- Of repeated neighbours one is left. -/
theorem mem_destutter_ne : t ∈ l.destutter (· ≠ ·) ↔ t ∈ l := by
  constructor
  · intro member
    exact (l.destutter_sublist (· ≠ ·)).subset member
  · intro member
    cases l with
    | nil => exact member
    | cons first rest =>
      rw [List.destutter_cons']
      induction rest generalizing first with
      | nil => exact member
      | cons second rest ih =>
        rw [List.destutter'_cons]
        split
        · rcases List.mem_cons.mp member with rfl | later
          · exact List.mem_cons_self
          · exact List.mem_cons_of_mem _ (ih second later)
        · rename_i repeated
          rw [not_not.mp repeated] at member ⊢
          apply ih
          simpa using member

/-- In a sorted list all repeats are neighbours, so that dropping these leaves none. -/
theorem pairwise_destutter_ne (sorted : l.Pairwise (· ≤ ·)) :
    (l.destutter (· ≠ ·)).Pairwise (· < ·) := by
  have left := sorted.sublist (l.destutter_sublist (· ≠ ·))
  have apart := l.isChain_destutter (· ≠ ·)
  have chain : (l.destutter (· ≠ ·)).IsChain (· < ·) := by
    rw [List.isChain_iff_getElem] at apart ⊢
    intro i inside
    apply lt_of_le_of_ne
    · exact List.pairwise_iff_getElem.mp left i (i + 1) _ _ (Nat.lt_succ_self i)
    · exact apart i inside
  exact chain.pairwise

/-- There is one strictly increasing list of the lower-case forms of tags. -/
theorem canonicalTags_eq_of_mem_iff (increasing : l.Pairwise (· < ·))
    (same : ∀ t, t ∈ l ↔ ∃ tag ∈ tags, Text.lowercase tag = t) : canonicalTags tags = l := by
  apply (pairwise_canonicalTags tags).eq_of_mem_iff increasing
  intro t
  rw [mem_canonicalTags, same]

theorem canonicalTags_eq_destutter_mergeSort (tags : List String) :
    canonicalTags tags = ((tags.map Text.lowercase).mergeSort octetsLe).destutter (· ≠ ·) := by
  apply canonicalTags_eq_of_mem_iff
  · exact pairwise_destutter_ne (pairwise_mergeSort_octetsLe _)
  · intro t
    rw [mem_destutter_ne, List.mem_mergeSort, List.mem_map]

theorem canonicalTags_eq_iff {others : List String} :
    canonicalTags tags = canonicalTags others ↔
      ∀ t, (∃ tag ∈ tags, Text.lowercase tag = t) ↔ ∃ tag ∈ others, Text.lowercase tag = t := by
  constructor
  · intro same t
    rw [← mem_canonicalTags, ← mem_canonicalTags, same]
  · intro same
    apply canonicalTags_eq_of_mem_iff (pairwise_canonicalTags others)
    intro t
    rw [mem_canonicalTags, same]

/-- Canonical tags stand for the set of lower-case tags. They are its members in the strictly
increasing order of their octets, none of them twice; so two lists have the same canonical tags
exactly if they are the same set in lower case, however often and in whatever order and spelling
they have each tag. The lower-case tags come to this form by sorting them by their octets and then
dropping repeated neighbours, and canonical tags are their own canonical form. -/
theorem canonicalTags_stand_for_lowercase_set (tags : List String) :
    (canonicalTags tags).Pairwise (fun s t => Bytes.ofText s < Bytes.ofText t) ∧
    (canonicalTags tags).Nodup ∧
    (∀ t, t ∈ canonicalTags tags ↔ ∃ tag ∈ tags, Text.lowercase tag = t) ∧
    (∀ others, canonicalTags tags = canonicalTags others ↔
      ∀ t, (∃ tag ∈ tags, Text.lowercase tag = t) ↔
        ∃ tag ∈ others, Text.lowercase tag = t) ∧
    canonicalTags tags = ((tags.map Text.lowercase).mergeSort octetsLe).destutter (· ≠ ·) ∧
    canonicalTags (canonicalTags tags) = canonicalTags tags := by
  have increasing := pairwise_canonicalTags tags
  refine ⟨?_, ?_, ?_, ?_, ?_, ?_⟩
  · apply increasing.imp
    intro s t less
    exact Bytes.ofText_lt_ofText_iff.mpr less
  · exact increasing.nodup
  · intro t
    exact mem_canonicalTags
  · intro others
    exact canonicalTags_eq_iff
  · exact canonicalTags_eq_destutter_mergeSort tags
  · exact canonicalTags_canonicalTags tags

-- A capital sigma that ends a word has a lower-case form of its own, and that of the dotted capital
-- letter has two characters.
example : canonicalTags ["\u0130d", "\u03A3A\u03A3", "\u03C3a\u03C2", "i\u0307D"] =
    ["i\u0307d", "\u03C3a\u03C2"] := by
  decide +kernel

end FederationTrust
