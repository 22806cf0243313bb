import FederationTrust.Proofs.FileSystem.Moves

/-!
# Entries of temporary siblings

The temporary siblings of one path have entries in one directory, that of the path, whose names
tell the processes apart and differ from the name of the path. The paths tell so already: a
temporary sibling has the components of the directory and one name more.
-/

namespace FederationTrust

open FileSystem

theorem toString_nat_injective {a b : Nat} (same : toString a = toString b) : a = b := by
  have digits : Nat.toDigits 10 a = Nat.toDigits 10 b := by
    rw [← Nat.toList_repr, ← Nat.toList_repr]
    exact congrArg String.toList same
  calc
    a = Nat.ofDigitChars 10 (Nat.toDigits 10 a) 0 := Nat.ofDigitChars_ten_toDigits.symm
    _ = Nat.ofDigitChars 10 (Nat.toDigits 10 b) 0 := by rw [digits]
    _ = b := Nat.ofDigitChars_ten_toDigits

namespace Path

variable {p : Path} {a b : Nat} {fs before after : FileSystem} {entry other : Place}

theorem temporaryName_injective (same : p.temporaryName a = p.temporaryName b) : a = b := by
  rw [temporaryName, temporaryName, String.append_left_inj, String.append_right_inj] at same
  exact toString_nat_injective same

theorem temporaryName_ne_fileName {own : String} (named : p.fileName? = some own) :
    p.temporaryName a ≠ own := by
  intro same
  have size := congrArg (·.toList.length) same
  simp [temporaryName, named] at size

/-- The temporary siblings of two processes have two entries. -/
theorem temporarySibling_entry_ne (apart : a ≠ b)
    (first : fs.entry? (p.temporarySibling a) = some entry)
    (second : fs.entry? (p.temporarySibling b) = some other) : entry ≠ other := by
  obtain ⟨directory, rfl, rfl⟩ :=
    entry?_siblings (temporaryName_plain p a) (temporaryName_plain p b) first second
  intro same
  obtain ⟨-, names⟩ := List.append_inj' same rfl
  exact apart (temporaryName_injective (List.singleton_inj.mp names))

/-- The entry of a temporary sibling is another one than that of the path. -/
theorem temporarySibling_entry_ne_entry
    (sibling : fs.entry? (p.temporarySibling a) = some other) (named : fs.entry? p = some entry) :
    other ≠ entry := by
  obtain ⟨directory, own, fileName, rfl, rfl⟩ :=
    entry?_withFileName (temporaryName_plain p a) named sibling
  intro same
  obtain ⟨-, names⟩ := List.append_inj' same rfl
  exact temporaryName_ne_fileName fileName (List.singleton_inj.mp names)

/-- Where a path keeps its entry, its temporary siblings keep theirs. -/
theorem temporarySibling_entry_kept (first : before.entry? p = some entry)
    (second : after.entry? p = some entry)
    (sibling : before.entry? (p.temporarySibling a) = some other) :
    after.entry? (p.temporarySibling a) = some other := by
  rw [temporarySibling_eq, entry?_withFileName_iff (temporaryName_plain p a) second]
  rwa [temporarySibling_eq, entry?_withFileName_iff (temporaryName_plain p a) first] at sibling

/-- The components of a temporary sibling are those of the directory of the path and a name. -/
theorem components_temporarySibling (p : Path) (processId : Nat) :
    (p.temporarySibling processId).components =
      p.parentComponents ++ [.name (p.temporaryName processId)] :=
  components_withFileName p (temporaryName_plain p processId)

/-- A temporary sibling is another path, in the same directory. -/
theorem temporarySibling_beside (p : Path) (processId : Nat) :
    (p.temporarySibling processId).same p = false ∧
      (p.temporarySibling processId).parentComponents = p.parentComponents := by
  have components := p.components_temporarySibling processId
  constructor
  · rw [same, components]
    refine beq_eq_false_iff_ne.mpr fun alike => ?_
    cases named : p.fileName? with
    | none =>
      rw [parentComponents, named] at alike
      have size := congrArg List.length alike
      simp at size
    | some own =>
      have last := congrArg List.getLast? alike
      rw [List.getLast?_concat, getLast?_components_of_fileName? named] at last
      cases last
      exact temporaryName_ne_fileName named rfl
  · have named : (p.temporarySibling processId).fileName? = some (p.temporaryName processId) := by
      rw [fileName?, components, List.getLast?_concat]
    rw [parentComponents, named, components, List.dropLast_concat]
    rfl

end Path

end FederationTrust
