import FederationTrust.Json.Decode
import FederationTrust.Text.Blank

/-!
# Ends, pieces and digits of texts

Characters that are dropped at an end of a text are dropped up to the first one that stays, so a
text of characters that stay is left as it is, and what follows such a text loses its own end.
A text is split at every separator, so no piece has one, and pieces without one are read back.
A text that is read as a number is made of digits.
-/

namespace FederationTrust

namespace Text

section Ends

variable {p : Char → Bool} {s front tail : List Char}

theorem dropWhile_of_head (stays : ∀ c ∈ s.head?, p c = false) : s.dropWhile p = s := by
  cases s with
  | nil => rfl
  | cons c rest => exact List.dropWhile_cons_of_neg (Bool.eq_false_iff.mp (stays c rfl))

theorem dropWhile_eq_self (stay : ∀ c ∈ s, p c = false) : s.dropWhile p = s :=
  dropWhile_of_head fun c first => stay c (List.mem_of_mem_head? first)

/-- Characters are taken up to the first one that is not of the class. -/
theorem takeWhile_append_of_head (taken : ∀ c ∈ front, p c = true)
    (stays : ∀ c ∈ tail.head?, p c = false) : (front ++ tail).takeWhile p = front := by
  rw [List.takeWhile_append_of_pos taken]
  cases tail with
  | nil => exact List.append_nil front
  | cons c rest =>
    rw [List.takeWhile_cons_of_neg (Bool.eq_false_iff.mp (stays c rfl)), List.append_nil]

theorem dropEndWhile_of_last (stays : ∀ c ∈ s.getLast?, p c = false) : dropEndWhile p s = s := by
  rw [dropEndWhile, dropWhile_of_head (by rwa [List.head?_reverse]), List.reverse_reverse]

theorem dropEndWhile_append (stay : ∀ c ∈ front, p c = false) (tail : List Char) :
    dropEndWhile p (front ++ tail) = front ++ dropEndWhile p tail := by
  have whole : front.reverse.dropWhile p = front.reverse :=
    dropWhile_eq_self fun c member => stay c (List.mem_reverse.mp member)
  rw [dropEndWhile, List.reverse_append, List.dropWhile_append, whole]
  split
  · rename_i empty
    rw [dropEndWhile, List.isEmpty_iff.mp empty, List.reverse_nil, List.append_nil,
      List.reverse_reverse]
  · rw [List.reverse_append, List.reverse_reverse, dropEndWhile]

theorem dropEndWhile_eq_self (stay : ∀ c ∈ s, p c = false) : dropEndWhile p s = s := by
  have appended := dropEndWhile_append stay []
  rwa [List.append_nil, show dropEndWhile p [] = [] from rfl, List.append_nil] at appended

theorem head?_dropEndWhile (stays : ∀ c ∈ s.head?, p c = false) :
    (dropEndWhile p s).head? = s.head? := by
  cases s with
  | nil => rfl
  | cons c rest =>
    have first : ∀ d ∈ [c], p d = false := by
      rintro d member
      exact List.mem_singleton.mp member ▸ stays c rfl
    rw [← List.singleton_append, dropEndWhile_append first]
    rfl

/-- Blanks at the ends of a text are at the ends of what follows a text without blanks. -/
theorem trim_append (solid : ∀ c ∈ front, isBlank c = false)
    (begins : ∀ c ∈ tail.head?, isBlank c = false) : trim (front ++ tail) = front ++ trim tail := by
  have head : ∀ c ∈ (front ++ tail).head?, isBlank c = false := by
    cases front with
    | nil => exact begins
    | cons c rest => rintro _ ⟨⟩; exact solid c List.mem_cons_self
  rw [trim, trim, dropWhile_of_head head, dropWhile_of_head begins, dropEndWhile_append solid]

theorem head?_trim (begins : ∀ c ∈ s.head?, isBlank c = false) : (trim s).head? = s.head? := by
  rw [trim, dropWhile_of_head begins, head?_dropEndWhile begins]

theorem trim_of_ends (begins : ∀ c ∈ s.head?, isBlank c = false)
    (ends : ∀ c ∈ s.getLast?, isBlank c = false) : trim s = s := by
  rw [trim, dropWhile_of_head begins, dropEndWhile_of_last ends]

theorem trim_eq_self (solid : ∀ c ∈ s, isBlank c = false) : trim s = s :=
  trim_of_ends (fun c first => solid c (List.mem_of_mem_head? first))
    fun c last => solid c (List.mem_of_mem_getLast? last)

theorem dropEndWhile_append_of_all (all : ∀ c ∈ tail, p c = true) :
    dropEndWhile p (front ++ tail) = dropEndWhile p front := by
  rw [dropEndWhile, List.reverse_append,
    List.dropWhile_append_of_pos fun c member => all c (List.mem_reverse.mp member), dropEndWhile]

/-- What is dropped at the end is of the class. -/
theorem exists_eq_dropEndWhile_append (p : Char → Bool) (s : List Char) :
    ∃ tail, (∀ c ∈ tail, p c = true) ∧ s = dropEndWhile p s ++ tail := by
  refine ⟨(s.reverse.takeWhile p).reverse, fun c member => ?_, ?_⟩
  · exact List.all_eq_true.mp List.all_takeWhile c (List.mem_reverse.mp member)
  · rw [dropEndWhile, ← List.reverse_append, List.takeWhile_append_dropWhile, List.reverse_reverse]

/-- Blanks around a text are not part of it. -/
theorem trim_append_append {before after : List Char}
    (blank : ∀ c ∈ before ++ after, isBlank c = true) (s : List Char) :
    trim (before ++ s ++ after) = trim s := by
  rw [List.forall_mem_append] at blank
  rw [trim, List.append_assoc, List.dropWhile_append_of_pos blank.1, List.dropWhile_append, trim]
  split
  · rename_i empty
    rw [List.isEmpty_iff.mp empty, ← List.append_nil after,
      List.dropWhile_append_of_pos blank.2, List.dropWhile_nil]
  · rw [dropEndWhile_append_of_all blank.2]

/-- A text is what is left of it with blanks around. -/
theorem exists_eq_append_trim (s : List Char) :
    ∃ before after, (∀ c ∈ before ++ after, isBlank c = true) ∧ s = before ++ trim s ++ after := by
  obtain ⟨after, blank, rest⟩ := exists_eq_dropEndWhile_append isBlank (s.dropWhile isBlank)
  refine ⟨s.takeWhile isBlank, after, ?_, ?_⟩
  · rw [List.forall_mem_append]
    exact ⟨List.all_eq_true.mp List.all_takeWhile, blank⟩
  · rw [trim, List.append_assoc, ← rest, List.takeWhile_append_dropWhile]

end Ends

section Pieces

variable {sep : Char}

theorem splitAt_of_not_mem {s : List Char} (h : sep ∉ s) : splitAt sep s = [s] := by
  induction s with
  | nil => rfl
  | cons c cs ih =>
    have other : c ≠ sep := fun eq => h (by simp [eq])
    have rest : sep ∉ cs := fun mem => h (List.mem_cons_of_mem c mem)
    rw [splitAt, if_neg other, ih rest]

theorem splitAt_ne_nil (sep : Char) (s : List Char) : splitAt sep s ≠ [] := by
  cases s with
  | nil => exact nofun
  | cons c cs =>
    rw [splitAt]
    split
    · exact nofun
    · split <;> exact nofun

/-- The pieces of a text make up the text. -/
theorem intercalate_splitAt (sep : Char) (s : List Char) :
    [sep].intercalate (splitAt sep s) = s := by
  induction s with
  | nil => rfl
  | cons c rest ih =>
    rw [splitAt]
    cases pieces : splitAt sep rest with
    | nil => exact absurd pieces (splitAt_ne_nil sep rest)
    | cons first more =>
      rw [pieces] at ih
      split
      · rename_i same
        rw [List.intercalate_cons_cons, ih, same]
        rfl
      · cases more with
        | nil =>
          rw [List.intercalate_singleton] at ih ⊢
          rw [ih]
        | cons second more =>
          rw [List.intercalate_cons_cons] at ih ⊢
          rw [List.cons_append, List.cons_append, ih]

/-- What stands before the first separator begins the first piece. -/
theorem exists_splitAt_append_of_not_mem {front : List Char} (h : sep ∉ front) (s : List Char) :
    ∃ first rest, splitAt sep s = first :: rest ∧
      splitAt sep (front ++ s) = (front ++ first) :: rest := by
  induction front with
  | nil =>
    obtain ⟨first, rest, pieces⟩ := List.exists_cons_of_ne_nil (splitAt_ne_nil sep s)
    exact ⟨first, rest, pieces, pieces⟩
  | cons c front ih =>
    rw [List.mem_cons, not_or] at h
    obtain ⟨first, rest, pieces, appended⟩ := ih h.2
    refine ⟨first, rest, pieces, ?_⟩
    rw [List.cons_append, splitAt, if_neg (Ne.symm h.1), appended]
    rfl

/-- What stands after the last separator ends the last piece. -/
theorem exists_splitAt_append (sep : Char) (s : List Char) {tail : List Char} (h : sep ∉ tail) :
    ∃ pieces last, splitAt sep s = pieces ++ [last] ∧
      splitAt sep (s ++ tail) = pieces ++ [last ++ tail] := by
  induction s with
  | nil => exact ⟨[], [], rfl, splitAt_of_not_mem h⟩
  | cons c s ih =>
    obtain ⟨pieces, last, split, appended⟩ := ih
    rw [List.cons_append, splitAt, splitAt, split, appended]
    by_cases same : c = sep
    · rw [if_pos same, if_pos same]
      exact ⟨[] :: pieces, last, rfl, rfl⟩
    · rw [if_neg same, if_neg same]
      cases pieces with
      | nil => exact ⟨[], c :: last, rfl, rfl⟩
      | cons first pieces => exact ⟨(c :: first) :: pieces, last, rfl, rfl⟩

theorem not_mem_of_mem_splitAt {s piece : List Char} (member : piece ∈ splitAt sep s) :
    sep ∉ piece := by
  induction s generalizing piece with
  | nil =>
    rw [List.mem_singleton.mp member]
    exact List.not_mem_nil
  | cons c rest ih =>
    rw [splitAt] at member
    split at member
    · rcases List.mem_cons.mp member with rfl | later
      · exact List.not_mem_nil
      · exact ih later
    · rename_i other
      split at member
      · rw [List.mem_singleton.mp member, List.mem_singleton]
        exact Ne.symm other
      · rename_i first pieces split
        rw [split] at ih
        rcases List.mem_cons.mp member with rfl | later
        · rw [List.mem_cons, not_or]
          exact ⟨Ne.symm other, ih List.mem_cons_self⟩
        · exact ih (List.mem_cons_of_mem _ later)

theorem splitAt_append_sep {s : List Char} (plain : sep ∉ s) (rest : List Char) :
    splitAt sep (s ++ sep :: rest) = s :: splitAt sep rest := by
  induction s with
  | nil => rw [List.nil_append, splitAt, if_pos rfl]
  | cons c s ih =>
    rw [List.mem_cons, not_or] at plain
    rw [List.cons_append, splitAt, if_neg (Ne.symm plain.1), ih plain.2]

theorem mem_of_mem_intercalate {pieces : List (List Char)} {c : Char}
    (member : c ∈ [sep].intercalate pieces) : c = sep ∨ ∃ piece ∈ pieces, c ∈ piece := by
  induction pieces with
  | nil => cases member
  | cons first rest ih =>
    cases rest with
    | nil =>
      rw [List.intercalate_singleton] at member
      exact .inr ⟨first, List.mem_cons_self, member⟩
    | cons second rest =>
      rw [List.intercalate_cons_cons, List.mem_append, List.mem_append,
        List.mem_singleton] at member
      rcases member with (here | same) | later
      · exact .inr ⟨first, List.mem_cons_self, here⟩
      · exact .inl same
      · refine (ih later).imp_right ?_
        rintro ⟨piece, among, inside⟩
        exact ⟨piece, List.mem_cons_of_mem first among, inside⟩

theorem length_le_length_intercalate (sep : Char) (first : List Char) (rest : List (List Char)) :
    first.length ≤ ([sep].intercalate (first :: rest)).length := by
  cases rest with
  | nil => exact Nat.le_of_eq (congrArg List.length List.intercalate_singleton.symm)
  | cons second rest =>
    rw [List.intercalate_cons_cons, List.append_assoc, List.length_append]
    exact Nat.le_add_right ..

/-- Pieces without the separator are read back. -/
theorem splitAt_intercalate {pieces : List (List Char)} (plain : ∀ piece ∈ pieces, sep ∉ piece)
    (notEmpty : pieces ≠ []) : splitAt sep ([sep].intercalate pieces) = pieces := by
  induction pieces with
  | nil => exact absurd rfl notEmpty
  | cons first rest ih =>
    have alone := plain first List.mem_cons_self
    cases rest with
    | nil => rw [List.intercalate_singleton, splitAt_of_not_mem alone]
    | cons second rest =>
      rw [List.intercalate_cons_cons, List.append_assoc, List.singleton_append,
        splitAt_append_sep alone,
        ih (fun piece member => plain piece (List.mem_cons_of_mem _ member)) nofun]

/-- Blanks around a text are blanks around its pieces. -/
theorem map_trim_splitAt_trim (notBlank : isBlank sep = false) (s : List Char) :
    (splitAt sep (trim s)).map trim = (splitAt sep s).map trim := by
  obtain ⟨before, after, blank, whole⟩ := exists_eq_append_trim s
  rw [List.forall_mem_append] at blank
  have outside {border : List Char} (blank : ∀ c ∈ border, isBlank c = true) : sep ∉ border := by
    intro member
    rw [blank sep member] at notBlank
    cases notBlank
  obtain ⟨pieces, last, split, behind⟩ :=
    exists_splitAt_append sep (before ++ trim s) (outside blank.2)
  obtain ⟨first, rest, inner, front⟩ :=
    exists_splitAt_append_of_not_mem (outside blank.1) (trim s)
  have trimLast : trim (last ++ after) = trim last :=
    @trim_append_append [] after blank.2 last
  have trimFirst : trim (before ++ first) = trim first := by
    have same := @trim_append_append before [] (by simpa using blank.1) first
    rwa [List.append_nil] at same
  calc (splitAt sep (trim s)).map trim
      = (splitAt sep (before ++ trim s)).map trim := by
        rw [inner, front, List.map_cons, List.map_cons, trimFirst]
    _ = (splitAt sep (before ++ trim s ++ after)).map trim := by
        rw [split, behind, List.map_append, List.map_append, List.map_singleton,
          List.map_singleton, trimLast]
    _ = (splitAt sep s).map trim := by rw [← whole]

end Pieces

section Digits

theorem range_of_digit? {c : Char} (read : (digit? c).isSome = true) :
    48 ≤ c.toNat ∧ c.toNat ≤ 57 := by
  rw [digit?] at read
  split at read
  · assumption
  · cases read

theorem isBlank_of_digit? {c : Char} (read : (digit? c).isSome = true) : isBlank c = false := by
  have range := range_of_digit? read
  simp only [isBlank]
  grind

theorem isSome_digit?_of_digits? {s : List Char} {n : Nat} (read : digits? s = some n) :
    ∀ c ∈ s, (digit? c).isSome = true := by
  intro c member
  cases s with
  | nil => cases member
  | cons first rest =>
    obtain ⟨ds, values, -⟩ := Option.map_eq_some_iff.mp read
    have each : digit? c ∈ (first :: rest).map digit? := List.mem_map_of_mem member
    rw [(Json.mapM_eq_some_iff _ _ _).mp values] at each
    obtain ⟨d, -, same⟩ := List.mem_map.mp each
    exact Option.isSome_iff_exists.mpr ⟨d, same.symm⟩

/-- There is no white space in a number. -/
theorem isBlank_of_word? {s : List Char} {n : UInt64} (read : word? s = some n) :
    ∀ c ∈ s, isBlank c = false := by
  obtain ⟨value, below, -⟩ := Option.map_eq_some_iff.mp read
  rw [natBelow?.eq_def] at below
  split at below
  · intro c member
    have digits := isSome_digit?_of_digits? (Option.filter_eq_some_iff.mp below).1
    rcases List.mem_cons.mp member with rfl | later
    · decide
    · exact isBlank_of_digit? (digits c later)
  · exact fun c member =>
      isBlank_of_digit? (isSome_digit?_of_digits? (Option.filter_eq_some_iff.mp below).1 c member)

end Digits

end Text

end FederationTrust
