import FederationTrust.Proofs.WebUrls

/-!
# Written paths read back

What is encoded in a URL holds only characters that are not encoded again, and encoding makes no
dot segment of another one. So the segments of a path of the web hold no separator and no dots that
would be resolved, and the text of such a path stands for it.
-/

namespace FederationTrust

namespace Url

section Encoding

variable {set : Char → Bool} {c : Char} {s : List Char}

def Stays (set : Char → Bool) (c : Char) : Prop :=
  c.toNat < 128 ∧ set c = false

/-- A set that is encoded, and does not hold what encoded characters are written with. -/
structure EncodedSet (set : Char → Bool) : Prop where
  percent : set '%' = false
  digits : ∀ n < 16, set (upperHex n) = false
  invisible : ∀ n < 128, isVisible (Char.ofNat n) = false → set (Char.ofNat n) = true

theorem encodedSet_path : EncodedSet inPathSet :=
  ⟨by decide, by decide, by decide +kernel⟩

theorem encodedSet_specialQuery : EncodedSet inSpecialQuerySet :=
  ⟨by decide, by decide, by decide +kernel⟩

theorem encodedSet_fragment : EncodedSet inFragmentSet :=
  ⟨by decide, by decide, by decide +kernel⟩

theorem encodeChar_of_stays (stays : Stays set c) : encodeChar set c = [c] :=
  if_pos stays

/-- What stays as it is, is its own encoding. -/
theorem encode_eq_self (stay : ∀ c ∈ s, Stays set c) : encode set s = s := by
  induction s with
  | nil => rfl
  | cons c rest ih =>
    rw [List.forall_mem_cons] at stay
    rw [encode, List.flatMap_cons, encodeChar_of_stays stay.1, ← encode, ih stay.2]
    rfl

def IsPercentChar (c : Char) : Prop :=
  c = '%' ∨ ∃ n < 16, c = upperHex n

theorem isPercentChar_of_mem {b : UInt8} (member : c ∈ percentByte b) : IsPercentChar c := by
  have size := b.toNat_lt
  simp only [percentByte, List.mem_cons, List.not_mem_nil, or_false] at member
  rcases member with rfl | rfl | rfl
  · exact .inl rfl
  · exact .inr ⟨_, by omega, rfl⟩
  · exact .inr ⟨_, by omega, rfl⟩

theorem mem_encode (member : c ∈ encode set s) : (c ∈ s ∧ Stays set c) ∨ IsPercentChar c := by
  obtain ⟨d, among, inside⟩ := List.mem_flatMap.mp member
  unfold encodeChar at inside
  split at inside
  · rename_i stays
    rw [List.mem_singleton.mp inside]
    exact .inl ⟨among, stays⟩
  · obtain ⟨b, -, octet⟩ := List.mem_flatMap.mp inside
    exact .inr (isPercentChar_of_mem octet)

theorem IsPercentChar.ascii (h : IsPercentChar c) : c.toNat < 128 := by
  rcases h with rfl | ⟨n, small, rfl⟩
  · decide
  · exact (by decide : ∀ n < 16, (upperHex n).toNat < 128) n small

theorem IsPercentChar.isNameChar (h : IsPercentChar c) : c = '%' ∨ isNameChar c = true := by
  refine h.imp_right ?_
  rintro ⟨n, small, rfl⟩
  exact (by decide : ∀ n < 16, Url.isNameChar (upperHex n) = true) n small

namespace EncodedSet

/-- What was encoded stays as it is. -/
theorem stays_of_mem (encoded : EncodedSet set) (member : c ∈ encode set s) : Stays set c := by
  rcases mem_encode member with ⟨-, stays⟩ | written
  · exact stays
  · refine ⟨written.ascii, ?_⟩
    rcases written with rfl | ⟨n, small, rfl⟩
    · exact encoded.percent
    · exact encoded.digits n small

theorem isVisible_of_stays (encoded : EncodedSet set) (stays : Stays set c) :
    isVisible c = true := by
  by_contra unseen
  have inside := encoded.invisible c.toNat stays.1 (by simpa [Char.ofNat_toNat] using unseen)
  rw [Char.ofNat_toNat, stays.2] at inside
  cases inside

end EncodedSet

end Encoding

section Dots

variable {set : Char → Bool} {c d : Char} {s t : List Char}

theorem exists_first_octet (c : Char) :
    ∃ b more, String.utf8EncodeChar c = b :: more ∧ (b.toNat = c.toNat ∨ 128 ≤ b.toNat) := by
  obtain ⟨b, more, octets⟩ := List.exists_cons_of_ne_nil (String.utf8EncodeChar_ne_nil (c := c))
  refine ⟨b, more, octets, ?_⟩
  by_cases ascii : c.toNat < 128
  · rw [Bytes.utf8EncodeChar_of_ascii ascii] at octets
    obtain ⟨rfl, -⟩ := List.cons.inj octets
    exact .inl (UInt8.toNat_ofNat_of_lt' (Nat.lt_trans ascii (by decide)))
  · exact .inr (Bytes.le_of_mem_utf8EncodeChar (Nat.le_of_not_lt ascii)
      (octets ▸ List.mem_cons_self))

/-- A character that does not stay is written with a percent sign and the digits of an octet. -/
theorem exists_encodeChar_of_not_stays (changes : ¬ Stays set c) :
    ∃ high low more, encodeChar set c = '%' :: upperHex high :: upperHex low :: more ∧
      high < 16 ∧ low < 16 ∧ (high * 16 + low = c.toNat ∨ 128 ≤ high * 16 + low) := by
  obtain ⟨b, more, octets, first⟩ := exists_first_octet c
  have size := b.toNat_lt
  refine ⟨b.toNat / 16, b.toNat % 16, more.flatMap percentByte, ?_, by omega, by omega, by omega⟩
  rw [show encodeChar set c = (String.utf8EncodeChar c).flatMap percentByte from if_neg changes,
    octets, List.flatMap_cons]
  rfl

/-- Encoded text that does not begin with a percent sign begins as it did before. -/
theorem eq_cons_of_encode_eq_cons (h : encode set s = c :: t) (plain : c ≠ '%') :
    ∃ rest, s = c :: rest ∧ t = encode set rest := by
  cases s with
  | nil => cases h
  | cons d rest =>
    rw [encode, List.flatMap_cons, ← encode] at h
    by_cases stays : Stays set d
    · rw [encodeChar_of_stays stays] at h
      obtain ⟨rfl, rfl⟩ := List.cons.inj h
      exact ⟨rest, rfl, rfl⟩
    · obtain ⟨high, low, more, written, -⟩ := exists_encodeChar_of_not_stays stays
      rw [written] at h
      exact absurd (List.cons.inj h).1.symm plain

/-- No character is encoded to an encoded point. -/
theorem eq_of_encode_eq_point (point : set '.' = false) (last : d = 'e' ∨ d = 'E')
    (h : encode set s = '%' :: '2' :: d :: t) :
    ∃ rest, s = '%' :: '2' :: d :: rest ∧ t = encode set rest := by
  cases s with
  | nil => cases h
  | cons c rest =>
    rw [encode, List.flatMap_cons, ← encode] at h
    by_cases stays : Stays set c
    · rw [encodeChar_of_stays stays] at h
      obtain ⟨rfl, more⟩ := List.cons.inj h
      have letter : d ≠ '%' := by rcases last with rfl | rfl <;> decide
      obtain ⟨rest, rfl, behind⟩ := eq_cons_of_encode_eq_cons more (by decide)
      obtain ⟨rest, rfl, rfl⟩ := eq_cons_of_encode_eq_cons behind.symm letter
      exact ⟨rest, rfl, rfl⟩
    · obtain ⟨high, low, more, written, highSmall, lowSmall, octet⟩ :=
        exists_encodeChar_of_not_stays stays
      rw [written] at h
      obtain ⟨-, h⟩ := List.cons.inj h
      obtain ⟨two, h⟩ := List.cons.inj h
      obtain ⟨letter, -⟩ := List.cons.inj h
      have highTwo : high = 2 :=
        (by decide : ∀ n < 16, upperHex n = '2' → n = 2) high highSmall two
      have lowPoint : low = 14 := by
        rcases last with rfl | rfl
        · exact absurd letter ((by decide : ∀ n < 16, upperHex n ≠ 'e') low lowSmall)
        · exact (by decide : ∀ n < 16, upperHex n = 'E' → n = 14) low lowSmall letter
      have isPoint : c = '.' := by
        subst highTwo lowPoint
        rw [← Char.ofNat_toNat c, ← octet.resolve_right (by omega)]
      rw [isPoint] at stays
      exact absurd ⟨by decide, point⟩ stays

/-- A point that encoded text begins with was there before. -/
theorem dropDot?_of_encode (point : set '.' = false) (h : dropDot? (encode set s) = some t) :
    ∃ rest, dropDot? s = some rest ∧ t = encode set rest := by
  unfold dropDot? at h
  split at h
  · rename_i begins
    obtain rfl := Option.some.inj h
    obtain ⟨rest, rfl, rfl⟩ := eq_cons_of_encode_eq_cons begins (by decide)
    exact ⟨rest, rfl, rfl⟩
  · rename_i begins
    obtain rfl := Option.some.inj h
    obtain ⟨rest, rfl, rfl⟩ := eq_of_encode_eq_point point (.inl rfl) begins
    exact ⟨rest, rfl, rfl⟩
  · rename_i begins
    obtain rfl := Option.some.inj h
    obtain ⟨rest, rfl, rfl⟩ := eq_of_encode_eq_point point (.inr rfl) begins
    exact ⟨rest, rfl, rfl⟩
  · cases h

theorem eq_nil_of_encode_eq_nil (h : encode set s = []) : s = [] := by
  cases s with
  | nil => rfl
  | cons c rest =>
    rw [encode, List.flatMap_cons, List.append_eq_nil_iff] at h
    by_cases stays : Stays set c
    · rw [encodeChar_of_stays stays] at h
      cases h.1
    · obtain ⟨high, low, more, written, -⟩ := exists_encodeChar_of_not_stays stays
      rw [written] at h
      cases h.1

/-- Encoding makes no dot segment of another one. -/
theorem isSingleDot_encode (other : isSingleDot s = false) :
    isSingleDot (encode inPathSet s) = false := by
  rw [isSingleDot, beq_eq_false_iff_ne] at other ⊢
  intro dot
  obtain ⟨rest, before, none⟩ := dropDot?_of_encode (by decide) dot
  rw [eq_nil_of_encode_eq_nil none.symm] at before
  exact other before

theorem isDoubleDot_encode (other : isDoubleDot s = false) :
    isDoubleDot (encode inPathSet s) = false := by
  rw [isDoubleDot, beq_eq_false_iff_ne] at other ⊢
  intro dots
  obtain ⟨t, first, second⟩ := Option.bind_eq_some_iff.mp dots
  obtain ⟨rest, before, rfl⟩ := dropDot?_of_encode (by decide) first
  obtain ⟨last, after, none⟩ := dropDot?_of_encode (by decide) second
  rw [eq_nil_of_encode_eq_nil none.symm] at after
  exact other (Option.bind_eq_some_iff.mpr ⟨rest, before, after⟩)

end Dots

section Paths

variable {kind : SchemeKind} {s segment : List Char} {parts pieces before : List (List Char)}

theorem isSlash_of_mem_splitSegments (member : segment ∈ splitSegments kind s) :
    ∀ c ∈ segment, isSlash kind c = false := by
  induction s generalizing segment with
  | nil =>
    rw [List.mem_singleton.mp member]
    exact nofun
  | cons c rest ih =>
    rw [splitSegments] at member
    split at member
    · rcases List.mem_cons.mp member with rfl | later
      · exact nofun
      · exact ih later
    · rename_i inside
      have first : isSlash kind c = false := Bool.eq_false_iff.mpr inside
      split at member
      · rw [List.mem_singleton.mp member]
        exact List.forall_mem_singleton.mpr first
      · rename_i piece more split
        rw [split] at ih
        rcases List.mem_cons.mp member with rfl | later
        · exact List.forall_mem_cons.mpr ⟨first, ih List.mem_cons_self⟩
        · exact ih (List.mem_cons_of_mem _ later)

theorem splitSegments_ne_nil (kind : SchemeKind) (s : List Char) : splitSegments kind s ≠ [] := by
  cases s with
  | nil => exact nofun
  | cons c rest =>
    rw [splitSegments]
    split
    · exact nofun
    · split <;> exact nofun

theorem splitSegments_of_whole (whole : ∀ c ∈ s, isSlash kind c = false) :
    splitSegments kind s = [s] := by
  induction s with
  | nil => rfl
  | cons c rest ih =>
    rw [List.forall_mem_cons] at whole
    rw [splitSegments, whole.1, if_neg Bool.false_ne_true, ih whole.2]

theorem splitSegments_append (whole : ∀ c ∈ s, isSlash kind c = false) (rest : List Char) :
    splitSegments kind (s ++ '/' :: rest) = s :: splitSegments kind rest := by
  induction s with
  | nil => rw [List.nil_append, splitSegments, if_pos (by rfl)]
  | cons c front ih =>
    rw [List.forall_mem_cons] at whole
    rw [List.cons_append, splitSegments, whole.1, if_neg Bool.false_ne_true, ih whole.2]

/-- Segments with a slash before each but the first are read back. -/
theorem splitSegments_joined {first : List Char} {rest : List (List Char)}
    (whole : ∀ segment ∈ first :: rest, ∀ c ∈ segment, isSlash kind c = false) :
    splitSegments kind (first ++ rest.flatMap ('/' :: ·)) = first :: rest := by
  induction rest generalizing first with
  | nil =>
    rw [List.flatMap_nil, List.append_nil]
    exact splitSegments_of_whole (whole first List.mem_cons_self)
  | cons second rest ih =>
    rw [List.forall_mem_cons] at whole
    rw [List.flatMap_cons, List.cons_append, splitSegments_append whole.1, ih whole.2]

/-- A segment as it is written: it holds no separator and nothing that would be encoded, and is no
dot segment. -/
structure WrittenSegment (segment : List Char) : Prop where
  stays : ∀ c ∈ segment, Stays inPathSet c
  whole : ∀ c ∈ segment, isSlash .web c = false
  notSingle : isSingleDot segment = false
  notDouble : isDoubleDot segment = false

theorem writtenSegment_nil : WrittenSegment [] :=
  ⟨nofun, nofun, rfl, rfl⟩

theorem writtenSegment_encode (whole : ∀ c ∈ s, isSlash .web c = false)
    (notSingle : isSingleDot s = false) (notDouble : isDoubleDot s = false) :
    WrittenSegment (encode inPathSet s) := by
  refine ⟨fun _ => encodedSet_path.stays_of_mem, fun c member => ?_,
    isSingleDot_encode notSingle, isDoubleDot_encode notDouble⟩
  rcases mem_encode member with ⟨before, -⟩ | written
  · exact whole c before
  · rcases written.isNameChar with rfl | named
    · rfl
    · exact isSlash_of_isNameChar named

/-- Only in the path of a file a segment is written in another way. -/
theorem writeSegment_of_web (first : Bool) (s : List Char) :
    writeSegment .web first s = encode inPathSet s := by
  unfold writeSegment
  split
  · exact if_neg fun file => absurd file.1 (by decide)
  · rfl

theorem mem_of_mem_shorten (member : segment ∈ shorten before) : segment ∈ before := by
  cases before with
  | nil => exact member
  | cons last rest =>
    rw [shorten] at member
    split at member
    · exact member
    · exact List.mem_cons_of_mem last member

/-- Resolved segments are as they are written. -/
theorem writtenSegment_of_mem_resolveSegments (kept : ∀ segment ∈ before, WrittenSegment segment)
    (whole : ∀ piece ∈ pieces, ∀ c ∈ piece, isSlash .web c = false)
    (member : segment ∈ resolveSegments .web before pieces) : WrittenSegment segment := by
  -- The last segment may leave an empty one behind.
  have closed {before : List (List Char)} (kept : ∀ segment ∈ before, WrittenSegment segment)
      (last : Bool) : ∀ segment ∈ if last then [] :: before else before,
        WrittenSegment segment := by
    cases last with
    | false => exact kept
    | true => exact List.forall_mem_cons.mpr ⟨writtenSegment_nil, kept⟩
  induction pieces generalizing before with
  | nil => exact kept segment (List.mem_reverse.mp member)
  | cons piece rest ih =>
    rw [List.forall_mem_cons] at whole
    rw [resolveSegments] at member
    split at member
    · exact ih (closed (fun _ among => kept _ (mem_of_mem_shorten among)) _) whole.2 member
    · rename_i notDouble
      split at member
      · exact ih (closed kept _) whole.2 member
      · rename_i notSingle
        rw [writeSegment_of_web] at member
        exact ih (List.forall_mem_cons.mpr ⟨writtenSegment_encode whole.1
          (Bool.eq_false_iff.mpr notSingle) (Bool.eq_false_iff.mpr notDouble), kept⟩) whole.2 member

theorem resolveSegments_ne_nil (something : before ≠ [] ∨ pieces ≠ []) :
    resolveSegments kind before pieces ≠ [] := by
  have closed (before rest : List (List Char)) :
      (if rest.isEmpty then [] :: before else before) ≠ [] ∨ rest ≠ [] := by
    cases rest with
    | nil => exact .inl nofun
    | cons _ _ => exact .inr nofun
  induction pieces generalizing before with
  | nil => exact mt List.reverse_eq_nil_iff.mp (something.resolve_right fun none => none rfl)
  | cons piece rest ih =>
    rw [resolveSegments]
    split
    · exact ih (closed _ rest)
    · split
      · exact ih (closed _ rest)
      · exact ih (.inl nofun)

/-- Segments that are as they are written are resolved already. -/
theorem resolveSegments_of_written (written : ∀ segment ∈ parts, WrittenSegment segment) :
    resolveSegments .web before parts = before.reverse ++ parts := by
  induction parts generalizing before with
  | nil => exact (List.append_nil _).symm
  | cons segment rest ih =>
    rw [List.forall_mem_cons] at written
    rw [resolveSegments, written.1.notDouble, written.1.notSingle, if_neg Bool.false_ne_true,
      if_neg Bool.false_ne_true, writeSegment_of_web, encode_eq_self written.1.stays, ih written.2,
      List.reverse_cons, List.append_assoc, List.singleton_append]

inductive WrittenPath : Path → Prop
  | segments {first : List Char} {rest : List (List Char)}
    (written : ∀ segment ∈ first :: rest, WrittenSegment segment) :
    WrittenPath (.segments (first :: rest))

theorem writtenPath_rootedPath (text : List Char) : WrittenPath (rootedPath .web text) := by
  unfold rootedPath
  dsimp only
  generalize splits : splitSegments .web _ = pieces
  have whole : ∀ piece ∈ pieces, ∀ c ∈ piece, isSlash .web c = false := by
    rw [← splits]
    exact fun _ => isSlash_of_mem_splitSegments
  have something : pieces ≠ [] := splits ▸ splitSegments_ne_nil _ _
  have resolved : resolveSegments .web [] pieces ≠ [] := resolveSegments_ne_nil (.inr something)
  have written : ∀ segment ∈ resolveSegments .web [] pieces, WrittenSegment segment :=
    fun _ => writtenSegment_of_mem_resolveSegments (List.forall_mem_nil _) whole
  generalize resolveSegments .web [] pieces = parts at resolved written ⊢
  obtain ⟨first, rest, rfl⟩ := List.exists_cons_of_ne_nil resolved
  exact .segments written

namespace WrittenPath

variable {path : Path}

theorem rootedPath_text (h : WrittenPath path) : rootedPath .web path.text = path := by
  obtain ⟨written⟩ := h
  rename_i first rest
  have split := splitSegments_joined fun segment member => (written segment member).whole
  unfold rootedPath
  rw [Path.text, List.flatMap_cons, List.cons_append]
  show Path.segments (resolveSegments .web [] (splitSegments .web (first ++ _))) = _
  rw [split, resolveSegments_of_written written]
  rfl

theorem head?_text (h : WrittenPath path) : path.text.head? = some '/' := by
  obtain ⟨written⟩ := h
  rfl

theorem mem_text (h : WrittenPath path) {c : Char} (member : c ∈ path.text) :
    c = '/' ∨ Stays inPathSet c := by
  obtain ⟨written⟩ := h
  obtain ⟨segment, among, inside⟩ := List.mem_flatMap.mp member
  exact (List.mem_cons.mp inside).imp_right ((written segment among).stays c)

end WrittenPath

end Paths

end Url

end FederationTrust
