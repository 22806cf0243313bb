import FederationTrust.Proofs.Listings
import FederationTrust.Proofs.ResolvedServers
import FederationTrust.Proofs.Tags

/-!
# Listed members and servers can be resolved

A resolution works on the last member that a listing of the same identifier prints, and the sets
of tags that the listing shows for a member divide its servers: each set as it is shown selects
its own servers, and each server is selected by one of them.
-/

namespace FederationTrust

section Lists

variable {α β : Type} [BEq β] [LawfulBEq β] {b : β}

theorem mem_firstOccurrences {seen l : List β} :
    b ∈ firstOccurrences seen l ↔ b ∈ seen ∨ b ∈ l := by
  induction l generalizing seen with
  | nil => simp only [firstOccurrences, List.mem_reverse, List.not_mem_nil, or_false]
  | cons first rest ih =>
    rw [firstOccurrences, ih, List.mem_cons, ← or_assoc]
    split
    · rename_i known
      have standing : b = first → b ∈ seen := fun same => same ▸ List.contains_iff_mem.mp known
      rw [or_iff_left_of_imp standing]
    · rw [List.mem_cons, or_comm (a := b = first)]

/-- What is kept of a list stands in the order of its first places there. `before` is what has
been read of the list, of which `seen` is what has been kept. -/
theorem pairwise_idxOf_firstOccurrences {seen l : List β} (before : List β)
    (kept : ∀ b, b ∈ seen ↔ b ∈ before)
    (ordered : seen.reverse.Pairwise fun a b =>
      (before ++ l).idxOf a < (before ++ l).idxOf b) :
    (firstOccurrences seen l).Pairwise fun a b =>
      (before ++ l).idxOf a < (before ++ l).idxOf b := by
  induction l generalizing seen before with
  | nil => exact ordered
  | cons first rest ih =>
    rw [List.append_cons] at ordered ⊢
    rw [firstOccurrences]
    split
    · rename_i known
      refine ih _ (fun b => ?_) ordered
      have standing : b = first → b ∈ before :=
        fun same => same ▸ (kept first).mp (List.contains_iff_mem.mp known)
      rw [kept, List.mem_append, List.mem_singleton, or_iff_left_of_imp standing]
    · rename_i unknown
      have fresh : first ∉ before := by
        intro member
        exact unknown (List.contains_iff_mem.mpr ((kept first).mpr member))
      refine ih _ (fun b => ?_) ?_
      · rw [List.mem_cons, kept, List.mem_append, List.mem_singleton, or_comm]
      · rw [List.reverse_cons, List.pairwise_append]
        refine ⟨ordered, List.pairwise_singleton _ first, fun a earlier b last => ?_⟩
        rw [List.mem_singleton.mp last, List.append_assoc,
          List.idxOf_append_of_mem ((kept a).mp (List.mem_reverse.mp earlier)),
          List.idxOf_append_of_notMem fresh]
        have place := List.idxOf_lt_length_iff.mpr ((kept a).mp (List.mem_reverse.mp earlier))
        omega

/-- The elements of a list, put together by a key that all of them have in a list of different
keys, are the elements of the list. -/
theorem flatMap_filter_perm (key : α → β) {keys : List β} (different : keys.Nodup)
    {l : List α} (complete : ∀ a ∈ l, key a ∈ keys) :
    (keys.flatMap fun b => l.filter (key · == b)).Perm l := by
  induction keys generalizing l with
  | nil =>
    have empty : l = [] := List.eq_nil_iff_forall_not_mem.mpr fun a member =>
      List.not_mem_nil (complete a member)
    rw [empty]
    exact .nil
  | cons first rest ih =>
    obtain ⟨fresh, others⟩ := List.nodup_cons.mp different
    have ofRest : (rest.flatMap fun b => l.filter (key · == b)) =
        rest.flatMap fun b => (l.filter fun a => !(key a == first)).filter (key · == b) := by
      refine List.flatMap_congr fun b member => ?_
      rw [List.filter_filter]
      refine List.filter_congr fun a _ => ?_
      have distinct : b ≠ first := fun same => fresh (same ▸ member)
      grind
    rw [List.flatMap_cons, ofRest]
    refine ((ih others fun a member => ?_).append_left _).trans (List.filter_append_perm _ l)
    obtain ⟨present, unlike⟩ := List.mem_filter.mp member
    grind

end Lists

def ListOptions.filteredBy (o : ListOptions) (wanted : String) : ListOptions :=
  { o with entity := some wanted, entityMatch := .normalizedUrl }

theorem findEntity?_eq_getLast?_printed (o : ListOptions) (metadata : Metadata)
    (wanted : String) :
    metadata.findEntity? wanted = ((o.filteredBy wanted).printed metadata).getLast? :=
  List.getLast?_filter.symm

namespace Entity

variable {e : Entity} {selector : ServerSelector}

/-- A member that is found is never reported as missing. -/
theorem connect_ne_noEntity (e : Entity) (selector : ServerSelector) (wanted : String) :
    e.connect selector ≠ .error (.noEntity wanted) := by
  rw [ne_eq, connect_eq_error_iff]
  rintro (_ | ⟨_, why⟩ | ⟨_, _, _, _, _, _, why⟩ | _)
  · rcases selector with (_ | name) | tags <;> cases why.2
  · cases why

/-- A connection names the member that it is for. -/
theorem entityId_of_connect {c : ServerConnection} (connected : e.connect selector = .ok c) :
    c.entityId = e.entityId := by
  obtain ⟨_, _, _, _, name, _⟩ := (e.connect_eq_ok_iff selector c).mp connected
  exact name

/-- The sets of tags that are shown for a member are different, in the order in which its servers
have them for the first time. -/
theorem pairwise_idxOf_distinctTagSets (e : Entity) :
    e.distinctTagSets.Pairwise fun a b =>
      (e.servers.map Server.canonicalTags).idxOf a <
        (e.servers.map Server.canonicalTags).idxOf b :=
  pairwise_idxOf_firstOccurrences [] (fun _ => Iff.rfl) .nil

theorem nodup_distinctTagSets (e : Entity) : e.distinctTagSets.Nodup := by
  apply (pairwise_idxOf_distinctTagSets e).imp
  intro a b earlier same
  rw [same] at earlier
  exact Nat.lt_irrefl _ earlier

theorem mem_distinctTagSets {shown : List String} :
    shown ∈ e.distinctTagSets ↔ ∃ s ∈ e.servers, s.canonicalTags = shown := by
  rw [distinctTagSets, mem_firstOccurrences, or_iff_right List.not_mem_nil, List.mem_map]

theorem selectByTags_of_notMem {tags : List String}
    (absent : canonicalTags tags ∉ e.distinctTagSets) :
    e.selectByTags tags = .error (.noTagged (canonicalTags tags) e.entityId) := by
  refine (e.selectByTags_eq_error_iff tags _).mpr ⟨fun s member same => ?_, rfl⟩
  exact absent (mem_distinctTagSets.mpr ⟨s, member, same⟩)

/-- A set of tags that is shown, as it is shown, selects the servers that have it. -/
theorem selectByTags_of_mem {shown : List String} (present : shown ∈ e.distinctTagSets) :
    e.selectByTags shown = .ok (e.servers.filter (·.canonicalTags == shown)) := by
  obtain ⟨s, member, rfl⟩ := mem_distinctTagSets.mp present
  have canonical : canonicalTags s.canonicalTags = s.canonicalTags :=
    canonicalTags_canonicalTags s.tags
  rw [selectByTags_eq_ok_iff, canonical]
  exact ⟨rfl, List.ne_nil_of_mem (List.mem_filter.mpr ⟨member, beq_self_eq_true _⟩)⟩

/-- The sets of tags that are shown for a member divide its servers. -/
theorem flatMap_distinctTagSets_perm (e : Entity) :
    (e.distinctTagSets.flatMap fun shown =>
      e.servers.filter (·.canonicalTags == shown)).Perm e.servers :=
  flatMap_filter_perm Server.canonicalTags (nodup_distinctTagSets e) fun s member =>
    mem_distinctTagSets.mpr ⟨s, member, rfl⟩

end Entity

/-- A resolution finds no member exactly when a listing of the same identifier prints none, and
works on the last one that is printed otherwise. The sets of tags that are shown for a member are
different, in the order of their first occurrence; each of them selects the servers that have it,
in their order, which gives each server once, and other tags select none. -/
theorem listing_agrees_with_resolution (metadata : Metadata) :
    (∀ (wanted : String) (o : ListOptions) (selector : ServerSelector),
      let printed := (o.filteredBy wanted).printed metadata
      listInto .unlimited (o.filteredBy wanted) metadata =
        .ok printed.length
          ⟨(printed.flatMap (o.filteredBy wanted).lines).flatMap Bytes.ofText, none⟩ ∧
      (metadata.resolve wanted selector = .error (.noEntity wanted) ↔ printed = []) ∧
      ∀ last, printed.getLast? = some last →
        metadata.resolve wanted selector = last.connect selector ∧
        ∀ c, metadata.resolve wanted selector = .ok c → c.entityId = last.entityId) ∧
    ∀ e : Entity,
      e.distinctTagSets.Nodup ∧
      (e.distinctTagSets.Pairwise fun a b =>
        (e.servers.map Server.canonicalTags).idxOf a <
          (e.servers.map Server.canonicalTags).idxOf b) ∧
      (∀ shown ∈ e.distinctTagSets,
        e.selectByTags shown = .ok (e.servers.filter (·.canonicalTags == shown))) ∧
      (e.distinctTagSets.flatMap fun shown =>
        e.servers.filter (·.canonicalTags == shown)).Perm e.servers ∧
      (∀ s ∈ e.servers, ∃! shown,
        shown ∈ e.distinctTagSets ∧ ∃ chosen, e.selectByTags shown = .ok chosen ∧ s ∈ chosen) ∧
      ∀ tags, canonicalTags tags ∉ e.distinctTagSets →
        e.selectByTags tags = .error (.noTagged (canonicalTags tags) e.entityId) := by
  constructor
  · intro wanted o selector printed
    have found : metadata.findEntity? wanted = printed.getLast? :=
      findEntity?_eq_getLast?_printed o metadata wanted
    refine ⟨listInto_unlimited _ metadata, ?_, fun last isLast => ?_⟩
    · rw [← List.getLast?_eq_none_iff, ← found, Metadata.resolve]
      cases metadata.findEntity? wanted with
      | none => exact iff_of_true rfl rfl
      | some e =>
        exact iff_of_false (e.connect_ne_noEntity selector wanted) (Option.some_ne_none e)
    · have resolved : metadata.resolve wanted selector = last.connect selector := by
        rw [Metadata.resolve, found, isLast]
      refine ⟨resolved, fun c connected => ?_⟩
      exact Entity.entityId_of_connect (resolved.symm.trans connected)
  · intro e
    refine ⟨e.nodup_distinctTagSets, e.pairwise_idxOf_distinctTagSets,
      fun _ => Entity.selectByTags_of_mem, e.flatMap_distinctTagSets_perm, fun s member => ?_,
      fun _ => Entity.selectByTags_of_notMem⟩
    have listed : s.canonicalTags ∈ e.distinctTagSets :=
      Entity.mem_distinctTagSets.mpr ⟨s, member, rfl⟩
    refine ⟨s.canonicalTags, ⟨listed, _, Entity.selectByTags_of_mem listed,
      List.mem_filter.mpr ⟨member, beq_self_eq_true _⟩⟩, ?_⟩
    rintro shown ⟨present, chosen, selected, holds⟩
    rw [Entity.selectByTags_of_mem present] at selected
    cases selected
    exact (eq_of_beq (List.mem_filter.mp holds).2).symm

end FederationTrust
