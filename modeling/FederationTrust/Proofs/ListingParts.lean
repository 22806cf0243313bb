import FederationTrust.Proofs.Listings
import FederationTrust.Proofs.Octets

/-!
# Parts of listings

A listing that a full receiver cuts off is the beginning of the whole listing, up to the very octet
that still found room, and its failure is told. A listing of some members is that of a document
which has no others, and listings of two documents, one after the other, are the listing of both
together: what is printed of a member depends on no other member.
-/

namespace FederationTrust

/-- A sink with limited room takes all, or as much of the beginning as there is room for. -/
theorem listInto_limited (o : ListOptions) (metadata : Metadata) (room : Nat) :
    listInto (.limited room) o metadata =
      if (o.octets metadata).length ≤ room then
        .ok (o.printed metadata).length
          ⟨o.octets metadata, some (room - (o.octets metadata).length)⟩
      else .error () ⟨(o.octets metadata).take room, some 0⟩ := by
  rw [listInto_eq_put]
  show EStateM.bind _ _ _ = _
  rw [EStateM.bind]
  by_cases fits : (o.octets metadata).length ≤ room
  · simp only [Sink.put, Sink.limited, fits, if_true, List.nil_append]
    rfl
  · simp only [Sink.put, Sink.limited, fits, if_false, List.nil_append]

/-- A listing into a sink with limited room is the whole listing if it fits, and else fails after
exactly the octets that there was room for. Into how many pieces each line falls on its way to the
sink makes no difference. -/
theorem limited_listing_is_beginning_of_listing (o : ListOptions) (metadata : Metadata)
    (pieces : String → List Bytes) (whole : ∀ line, (pieces line).flatten = Bytes.ofText line)
    (room : Nat) :
    ∃ text count, listInto .unlimited o metadata = .ok count ⟨text, none⟩ ∧
      listInto (.limited room) o metadata =
        (if text.length ≤ room then .ok count ⟨text, some (room - text.length)⟩
          else .error () ⟨text.take room, some 0⟩) ∧
      o.write (fun line => forM (pieces line) Sink.put) metadata (.limited room) =
        listInto (.limited room) o metadata := by
  refine ⟨_, _, listInto_unlimited o metadata, listInto_limited o metadata room, ?_⟩
  rw [listInto_eq_put, ListOptions.write_eq_put whole]

namespace Sample

/-- A member with a letter of two octets in its identifier. -/
def accented : Metadata where
  cacheTtl := none
  entities := [{ (default : Entity) with entityId := "é" }]

/-- A line as it arrives when the end of the line is written after what stands in it. -/
def lineEndApart (line : String) : List Bytes :=
  let octets := Bytes.ofText line
  [octets.dropLast, octets.drop (octets.length - 1)]

theorem flatten_lineEndApart (line : String) : (lineEndApart line).flatten = Bytes.ofText line := by
  simp [lineEndApart, List.dropLast_eq_take, List.take_append_drop]

end Sample

/-- A listing can be cut off within a letter. -/
theorem listing_cut_within_letter :
    (∀ line, (Sample.lineEndApart line).flatten = Bytes.ofText line) ∧
      (default : ListOptions).octets Sample.accented = [0xC3, 0xA9, 0x0A] ∧
      (default : ListOptions).write (fun line => forM (Sample.lineEndApart line) Sink.put)
        Sample.accented (.limited 1) = .error () ⟨[0xC3], some 0⟩ := by
  obtain ⟨text, count, all, limited, inPieces⟩ := limited_listing_is_beginning_of_listing default
    Sample.accented Sample.lineEndApart Sample.flatten_lineEndApart 1
  have known : (default : ListOptions).octets Sample.accented = [0xC3, 0xA9, 0x0A] := by
    decide +kernel
  rw [listInto_unlimited, known] at all
  cases all
  exact ⟨Sample.flatten_lineEndApart, known, inPieces.trans limited⟩

def ListOptions.asking (o : ListOptions) (wanted : String) : ListOptions :=
  { o with entity := some wanted }

def ListOptions.unfiltered (o : ListOptions) : ListOptions :=
  { o with entity := none }

def Metadata.withEntities (m : Metadata) (entities : List Entity) : Metadata :=
  { m with entities := entities }

/-- Metadata with those members, in their order, that a test accepts. -/
def Metadata.restricted (m : Metadata) (test : Entity → Bool) : Metadata :=
  m.withEntities (m.entities.filter test)

namespace ListOptions

variable (o : ListOptions)

def isNamed (wanted : String) (e : Entity) : Bool :=
  o.entityMatch.matches e.entityId wanted

theorem printed_asking (wanted : String) (metadata : Metadata) :
    (o.asking wanted).printed metadata = metadata.entities.filter (o.isNamed wanted) := rfl

theorem printed_unfiltered (metadata : Metadata) :
    o.unfiltered.printed metadata = metadata.entities :=
  List.filter_eq_self.mpr fun _ _ => rfl

theorem octets_asking (wanted : String) (metadata : Metadata) :
    (o.asking wanted).octets metadata =
      o.unfiltered.octets (metadata.restricted (o.isNamed wanted)) := by
  rw [octets, octets, printed_asking, printed_unfiltered]
  rfl

theorem octets_withEntities_append (metadata : Metadata) (a b : List Entity) :
    o.unfiltered.octets (metadata.withEntities (a ++ b)) =
      o.unfiltered.octets (metadata.withEntities a) ++
        o.unfiltered.octets (metadata.withEntities b) := by
  simp only [octets, printed_unfiltered, Metadata.withEntities, List.flatMap_append]

/-- Every member that is printed has a line of its own, so nothing is printed only if none is. -/
theorem octets_eq_nil_iff (metadata : Metadata) :
    o.octets metadata = [] ↔ o.printed metadata = [] := by
  constructor
  · intro empty
    rw [octets, List.flatMap_eq_nil_iff] at empty
    refine List.eq_nil_iff_forall_not_mem.mpr fun e member => ?_
    have first : e.entityId ++ "\n" ∈ (o.printed metadata).flatMap o.lines :=
      List.mem_flatMap.mpr ⟨e, member, List.mem_append_left _ (List.mem_append_left _
        List.mem_cons_self)⟩
    have blank : e.entityId ++ "\n" = "" := Bytes.ofText_injective (empty _ first)
    simp at blank
  · intro none
    rw [octets, none]
    rfl

end ListOptions

/-- A listing of the members that match a name is the listing of all members of the document that
has no others, for any receiver. Its count is their number, and it prints nothing exactly if there
are none. Without a name, the listing of two lists of members is that of the first and then that of
the second, and the counts add up. -/
theorem filtered_listing_is_listing_of_restricted (o : ListOptions) (wanted : String)
    (metadata : Metadata) :
    (∀ sink, listInto sink (o.asking wanted) metadata =
      listInto sink o.unfiltered (metadata.restricted (o.isNamed wanted))) ∧
    (∃ text, listInto .unlimited (o.asking wanted) metadata =
        .ok (metadata.entities.countP (o.isNamed wanted)) ⟨text, none⟩ ∧
      (text = [] ↔ ¬ ∃ e ∈ metadata.entities, o.isNamed wanted e = true)) ∧
    ∀ a b, ∃ first count second more,
      listInto .unlimited o.unfiltered (metadata.withEntities a) = .ok count ⟨first, none⟩ ∧
      listInto .unlimited o.unfiltered (metadata.withEntities b) = .ok more ⟨second, none⟩ ∧
      listInto .unlimited o.unfiltered (metadata.withEntities (a ++ b)) =
        .ok (count + more) ⟨first ++ second, none⟩ := by
  refine ⟨fun sink => ?_, ⟨(o.asking wanted).octets metadata, ?_, ?_⟩, fun a b => ?_⟩
  · rw [listInto_eq_put, listInto_eq_put, o.octets_asking, o.printed_asking, o.printed_unfiltered]
    rfl
  · rw [List.countP_eq_length_filter, ← o.printed_asking]
    exact listInto_unlimited (o.asking wanted) metadata
  · rw [ListOptions.octets_eq_nil_iff, o.printed_asking, List.filter_eq_nil_iff]
    simp only [not_exists, not_and]
  · refine ⟨_, _, _, _, listInto_unlimited .., listInto_unlimited .., ?_⟩
    rw [listInto_unlimited, o.octets_withEntities_append]
    simp only [o.printed_unfiltered, Metadata.withEntities, List.length_append]

end FederationTrust
