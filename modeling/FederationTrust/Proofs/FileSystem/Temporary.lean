import FederationTrust.Proofs.FileSystem.Walk
import FederationTrust.Proofs.Texts
import Mathlib.Data.List.Basic

/-!
# Paths under other names

A path under another name keeps the pieces of its directory as they are written, so it has the
components of the directory and one name more. A temporary sibling ends in a name of its own,
whatever path it stands beside.
-/

namespace FederationTrust

theorem slash_notMem_toString (n : Nat) : '/' ∉ (toString n).toList := by
  intro member
  have digit : '/' ∈ Nat.toDigits 10 n := by
    rw [← Nat.toList_repr]
    exact member
  exact absurd (Nat.isDigit_of_mem_toDigits (by decide) (by decide) digit) (by decide)

namespace Path

section Settled

variable (pieces : List (List Char))

theorem settle_begins : settle pieces <+: pieces := by
  induction pieces with
  | nil => exact List.prefix_refl []
  | cons piece rest ih =>
    rw [settle]
    split
    · exact List.nil_prefix
    · exact List.cons_prefix_cons.mpr ⟨rfl, ih⟩

theorem filterMap_settle :
    (settle pieces).filterMap Component.ofPiece? = pieces.filterMap Component.ofPiece? := by
  induction pieces with
  | nil => rfl
  | cons piece rest ih =>
    rw [settle]
    split
    · rename_i gone
      rw [List.filterMap_cons_none gone.2, ← ih, gone.1]
    · rw [List.filterMap_cons, List.filterMap_cons, ih]

/-- What is left ends in a piece that counts. -/
theorem counts_of_settle_eq_concat {front : List (List Char)} {last : List Char}
    (whole : settle pieces = front ++ [last]) : ∃ c, Component.ofPiece? last = some c := by
  induction pieces generalizing front with
  | nil => simp [settle] at whole
  | cons piece rest ih =>
    rw [settle] at whole
    split at whole
    · simp at whole
    · rename_i stays
      cases front with
      | nil =>
        obtain ⟨rfl, empty⟩ := List.cons.inj whole
        exact Option.ne_none_iff_exists'.mp fun none => stays ⟨empty, none⟩
      | cons first front => exact ih (List.cons.inj whole).2

/-- Without its last piece a path loses its last component. -/
theorem filterMap_dropLast_settle :
    (settle pieces).dropLast.filterMap Component.ofPiece? =
      (pieces.filterMap Component.ofPiece?).dropLast := by
  rw [← filterMap_settle pieces]
  rcases List.eq_nil_or_concat' (settle pieces) with empty | ⟨front, last, whole⟩
  · rw [empty]
    rfl
  · obtain ⟨c, counts⟩ := counts_of_settle_eq_concat pieces whole
    rw [whole, List.dropLast_concat, List.filterMap_append, List.filterMap_cons_some counts,
      List.filterMap_nil, List.dropLast_concat]

theorem start_cons (piece : List Char) :
    start (piece :: pieces) =
      if piece = ['.'] then [.current]
      else if piece = [] ∧ pieces ≠ [] then [.root]
      else [] := by
  unfold start
  split
  · rename_i same
    cases same
    rfl
  · rename_i same
    cases same
    rfl
  · rename_i noRoot noPoint
    rw [if_neg fun point => noPoint pieces (by rw [point]), if_neg]
    rintro ⟨rfl, more⟩
    obtain ⟨next, rest, rfl⟩ := List.exists_cons_of_ne_nil more
    exact noRoot next rest rfl

/-- The piece that the beginning is written by does not count besides. -/
theorem filterMap_take_start :
    (pieces.take (start pieces).length).filterMap Component.ofPiece? = [] := by
  unfold start
  split <;> rfl

theorem filterMap_drop_start :
    (pieces.drop (start pieces).length).filterMap Component.ofPiece? =
      pieces.filterMap Component.ofPiece? := by
  unfold start
  split <;> rfl

theorem filterMap_ne_nil_of_getLast? {own : String}
    (last : (start pieces ++ pieces.filterMap Component.ofPiece?).getLast? = some (.name own)) :
    pieces.filterMap Component.ofPiece? ≠ [] := by
  intro empty
  rw [empty, List.append_nil] at last
  unfold start at last
  split at last <;> cases last

end Settled

section OtherNames

variable {p : Path} {name own : String}

theorem getLast?_components_of_fileName? (named : p.fileName? = some own) :
    p.components.getLast? = some (.name own) := by
  unfold fileName? at named
  split at named
  · cases named
    assumption
  · cases named

/-- The pieces in front of another name stand for the components before it. -/
theorem components_parentPieces (p : Path) :
    start p.pieces ++ p.parentPieces.filterMap Component.ofPiece? = p.parentComponents := by
  rw [parentPieces, parentComponents]
  cases named : p.fileName? with
  | some own =>
    have something := filterMap_ne_nil_of_getLast? _ (getLast?_components_of_fileName? named)
    rw [Option.isSome_some, if_pos rfl, if_pos rfl, List.filterMap_append, filterMap_take_start,
      List.nil_append, filterMap_settle, filterMap_dropLast_settle, filterMap_drop_start,
      components, List.dropLast_append_of_ne_nil something]
  | none =>
    rw [Option.isSome_none, if_neg Bool.false_ne_true, if_neg Bool.false_ne_true, components]
    split
    · rename_i last
      obtain ⟨front, whole⟩ := List.getLast?_eq_some_iff.mp last
      rw [whole, List.dropLast_concat, List.filterMap_append]
      simp [Component.ofPiece?]
    · rfl

theorem parentPieces_begin (p : Path) : p.parentPieces <+: p.pieces := by
  rw [parentPieces]
  split
  · have shorter := (settle_begins _).trans ((List.dropLast_prefix _).trans
      (settle_begins (p.pieces.drop (start p.pieces).length)))
    have together := (List.prefix_append_right_inj (p.pieces.take (start p.pieces).length)).mpr
      shorter
    rwa [List.take_append_drop] at together
  · split
    · exact List.dropLast_prefix _
    · exact List.prefix_refl _

theorem start_eq_nil_of_parentPieces (gone : p.parentPieces = []) : start p.pieces = [] := by
  rw [parentPieces] at gone
  split at gone
  · have none := (List.append_eq_nil_iff.mp gone).1
    rcases List.take_eq_nil_iff.mp none with width | empty
    · exact List.length_eq_zero_iff.mp width
    · rw [empty]
      rfl
  · split at gone
    · rename_i last
      obtain ⟨front, whole⟩ := List.getLast?_eq_some_iff.mp last
      rw [whole, List.dropLast_concat] at gone
      rw [whole, gone]
      rfl
    · rw [gone]
      rfl

/-- A name as paths have them: it counts as itself, and no slash breaks it. -/
structure PlainName (name : String) : Prop where
  counts : Component.ofPiece? name.toList = some (.name name)
  unbroken : '/' ∉ name.toList

theorem PlainName.toList_ne_nil (plain : PlainName name) : name.toList ≠ [] := by
  intro empty
  have counts := plain.counts
  rw [empty] at counts
  cases counts

theorem PlainName.ne_point (plain : PlainName name) : name ≠ "." := by
  rintro rfl
  exact absurd plain.counts (by decide)

theorem PlainName.ne_parent (plain : PlainName name) : name ≠ ".." := by
  rintro rfl
  exact absurd plain.counts (by decide)

theorem plainName_of_fileName? (named : p.fileName? = some own) : PlainName own := by
  have member := List.mem_of_getLast? (getLast?_components_of_fileName? named)
  rcases List.mem_append.mp member with first | later
  · unfold start at first
    split at first <;> simp at first
  · obtain ⟨piece, among, made⟩ := List.mem_filterMap.mp later
    have kept := made
    rw [Component.ofPiece?] at made
    split at made
    · cases made
    · split at made
      · cases made
      · cases made
        constructor <;> rw [String.toList_ofList]
        · exact kept
        · exact Text.not_mem_of_mem_splitAt among

theorem pieces_withFileName (p : Path) (plain : PlainName name) :
    (p.withFileName name).pieces = p.parentPieces ++ [name.toList] := by
  rw [pieces, withFileName, String.toList_intercalate, List.map_map]
  have written : String.toList ∘ String.ofList = id := funext fun _ => String.toList_ofList
  rw [written, List.map_id]
  refine Text.splitAt_intercalate ?_ (by simp)
  intro piece member
  rcases List.mem_append.mp member with earlier | last
  · exact Text.not_mem_of_mem_splitAt (p.parentPieces_begin.subset earlier)
  · rw [List.mem_singleton.mp last]
    exact plain.unbroken

/-- Under another name a path begins as it did. -/
theorem start_parentPieces_concat (p : Path) (plain : PlainName name) :
    start (p.parentPieces ++ [name.toList]) = start p.pieces := by
  cases kept : p.parentPieces with
  | nil =>
    have noPoint : name.toList ≠ ['.'] :=
      fun point => plain.ne_point (String.toList_injective (point.trans rfl))
    rw [start_eq_nil_of_parentPieces kept, List.nil_append, start_cons, if_neg noPoint,
      if_neg fun empty => empty.2 rfl]
  | cons piece tail =>
    obtain ⟨rest, whole⟩ : ∃ rest, p.pieces = piece :: rest := by
      obtain ⟨more, same⟩ := p.parentPieces_begin
      rw [kept] at same
      exact ⟨tail ++ more, same.symm⟩
    -- The empty path keeps nothing, so an empty piece that is kept has a slash behind it.
    have slash (empty : piece = []) : rest ≠ [] := by
      rintro rfl
      subst empty
      simp [parentPieces, fileName?, components, whole, start, Component.ofPiece?] at kept
    rw [whole, List.cons_append, start_cons, start_cons]
    by_cases empty : piece = []
    · simp [empty, slash empty]
    · simp [empty]

/-- A path under another name has the components of its directory and the name. -/
theorem components_withFileName (p : Path) (plain : PlainName name) :
    (p.withFileName name).components = p.parentComponents ++ [.name name] := by
  rw [components, pieces_withFileName p plain, start_parentPieces_concat p plain,
    List.filterMap_append, ← List.append_assoc, components_parentPieces,
    List.filterMap_cons_some plain.counts, List.filterMap_nil]

/-- The last step of a path under another name is that name. -/
theorem exists_steps_withFileName (p : Path) (plain : PlainName name) :
    ∃ front, FileSystem.steps (p.withFileName name) = front ++ [name] := by
  rw [FileSystem.steps, pieces_withFileName p plain, List.map_append, List.map_singleton,
    if_neg plain.toList_ne_nil, String.ofList_toList]
  exact ⟨_, rfl⟩

end OtherNames

def temporaryName (p : Path) (processId : Nat) : String :=
  p.fileName?.getD "fedmeta" ++ "." ++ toString processId ++ ".tmp"

theorem temporarySibling_eq (p : Path) (processId : Nat) :
    p.temporarySibling processId = p.withFileName (p.temporaryName processId) := rfl

theorem slash_notMem_fileName (p : Path) : '/' ∉ (p.fileName?.getD "fedmeta").toList := by
  cases named : p.fileName? with
  | none => decide
  | some own => exact (plainName_of_fileName? named).unbroken

theorem temporaryName_plain (p : Path) (processId : Nat) :
    PlainName (p.temporaryName processId) := by
  have size : 4 ≤ (p.temporaryName processId).toList.length := by
    simp only [temporaryName, String.toList_append, List.length_append]
    exact Nat.le_add_left _ _
  constructor
  · rw [Component.ofPiece?, if_neg, if_neg, String.ofList_toList]
    · intro same
      rw [same] at size
      exact absurd size (by decide)
    · rintro (same | same) <;> rw [same] at size <;> exact absurd size (by decide)
  · simp only [temporaryName, String.toList_append, List.mem_append, not_or]
    exact ⟨⟨⟨slash_notMem_fileName p, by decide⟩, slash_notMem_toString processId⟩, by decide⟩

/-- Temporary siblings end in a name. -/
theorem temporarySibling_endsIn (p : Path) (processId : Nat) :
    ∃ name, FileSystem.EndsIn (p.temporarySibling processId) name := by
  have plain := temporaryName_plain p processId
  obtain ⟨front, steps⟩ := exists_steps_withFileName p plain
  refine ⟨p.temporaryName processId, ?_, plain.ne_point, plain.ne_parent⟩
  rw [temporarySibling_eq, steps, List.getLast?_concat]

end Path

end FederationTrust
