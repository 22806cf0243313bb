import FederationTrust.Proofs.Attempts
import FederationTrust.Resolution
import Mathlib.Data.List.Forall2

/-!
# Resolutions are exact

What a resolution may answer is laid down here by relations, apart from how it is computed: which
member is meant, which servers of it a selector stands for, what a complete server is, and which
condition is the first that does not hold. A resolution gives every chosen server with all its
pins, or nothing but the failure of the first condition.
-/

namespace FederationTrust

def IsLast {α : Type} (p : α → Prop) (l : List α) (a : α) : Prop :=
  ∃ before after, l = before ++ a :: after ∧ p a ∧ ∀ b ∈ after, ¬ p b

section Lists

variable {α : Type} {p : α → Bool} {P : α → Prop}

theorem find?_reverse_eq_some_iff (decides : ∀ a, p a = true ↔ P a) (l : List α) (a : α) :
    l.reverse.find? p = some a ↔ IsLast P l a := by
  simp only [List.find?_eq_some_iff_append, decides, Bool.not_eq_true', ← Bool.not_eq_true]
  constructor
  · rintro ⟨holds, before, after, split, fails⟩
    refine ⟨after.reverse, before.reverse, ?_, holds, fun b member => ?_⟩
    · rw [← List.reverse_reverse l, split]
      simp
    · exact fails b (List.mem_reverse.mp member)
  · rintro ⟨before, after, rfl, holds, fails⟩
    refine ⟨holds, after.reverse, before.reverse, by simp, fun b member => ?_⟩
    exact fails b (List.mem_reverse.mp member)

theorem find?_reverse_eq_none_iff (decides : ∀ a, p a = true ↔ P a) (l : List α) :
    l.reverse.find? p = none ↔ ∀ a ∈ l, ¬ P a := by
  simp only [List.find?_eq_none, List.mem_reverse, decides]

end Lists

namespace Server

/-- A server that can be reached and has a pin. -/
def Complete (s : Server) : Prop :=
  s.baseUri.isSome = true ∧ s.pins ≠ []

structure Gives (s : Server) (e : EndPoint) : Prop where
  name : e.name = s.name
  url : s.baseUri = some e.url
  pins : e.pins = s.pins
  pinned : s.pins ≠ []

/-- What a server lacks, a missing base URI being told before missing pins. -/
inductive Lacks (s : Server) : LookupError → Prop
  | baseUri (missing : s.baseUri = none) : Lacks s (.noBaseUri s.name)
  | pins (reached : s.baseUri.isSome = true) (missing : s.pins = []) : Lacks s (.noPins s.name)

theorem endPoint_eq_ok_iff (s : Server) (e : EndPoint) : s.endPoint = .ok e ↔ s.Gives e := by
  cases found : s.baseUri with
  | none =>
    refine iff_of_false (by simp [endPoint, found]) fun gives => ?_
    rw [gives.url] at found
    cases found
  | some uri =>
    by_cases none : s.pins = []
    · exact iff_of_false (by simp [endPoint, found, none]) fun gives => gives.pinned none
    · have given : s.endPoint = .ok ⟨s.name, uri, s.pins⟩ := by simp [endPoint, found, none]
      rw [given, Except.ok.injEq]
      constructor
      · rintro rfl
        exact ⟨rfl, found, rfl, none⟩
      · obtain ⟨name, url, pins⟩ := e
        rintro ⟨rfl, same, rfl, _⟩
        rw [Option.some.inj (found.symm.trans same)]

theorem endPoint_eq_error_iff (s : Server) (error : LookupError) :
    s.endPoint = .error error ↔ s.Lacks error := by
  constructor
  · intro failed
    rw [endPoint] at failed
    split at failed
    · cases failed
      exact .baseUri ‹_›
    · split at failed
      · cases failed
        exact .pins (by simp [*]) ‹_›
      · cases failed
  · rintro (missing | ⟨reached, missing⟩)
    · simp [endPoint, missing]
    · obtain ⟨uri, found⟩ := Option.isSome_iff_exists.mp reached
      simp [endPoint, found, missing]

theorem complete_iff_gives (s : Server) : s.Complete ↔ ∃ e, s.Gives e := by
  constructor
  · rintro ⟨reached, pinned⟩
    obtain ⟨uri, found⟩ := Option.isSome_iff_exists.mp reached
    exact ⟨⟨s.name, uri, s.pins⟩, rfl, found, rfl, pinned⟩
  · rintro ⟨e, _, found, _, pinned⟩
    exact ⟨by rw [found]; rfl, pinned⟩

end Server

def FirstLacks (servers : List Server) (error : LookupError) : Prop :=
  ∃ before s after, servers = before ++ s :: after ∧ (∀ other ∈ before, other.Complete) ∧
    s.Lacks error

theorem endPoints_eq_ok_iff (servers : List Server) (es : List EndPoint) :
    endPoints servers = .ok es ↔ List.Forall₂ Server.Gives servers es := by
  induction servers generalizing es with
  | nil =>
    rw [endPoints, Except.ok.injEq, List.forall₂_nil_left_iff, eq_comm]
  | cons s rest ih =>
    rw [endPoints, List.forall₂_cons_left_iff]
    simp only [exceptBind_eq_ok_iff, Server.endPoint_eq_ok_iff, ih]
    constructor
    · rintro ⟨e, given, others, more, ⟨⟩⟩
      exact ⟨e, others, given, more, rfl⟩
    · rintro ⟨e, others, given, more, rfl⟩
      exact ⟨e, given, others, more, rfl⟩

theorem firstLacks_cons (s : Server) (rest : List Server) (error : LookupError) :
    FirstLacks (s :: rest) error ↔ s.Lacks error ∨ s.Complete ∧ FirstLacks rest error := by
  constructor
  · rintro ⟨_ | ⟨first, before⟩, other, after, split, complete, lacks⟩
    · obtain ⟨rfl, rfl⟩ := List.cons.inj split
      exact .inl lacks
    · obtain ⟨rfl, rfl⟩ := List.cons.inj split
      obtain ⟨first, others⟩ := List.forall_mem_cons.mp complete
      exact .inr ⟨first, before, other, after, rfl, others, lacks⟩
  · rintro (lacks | ⟨complete, before, other, after, rfl, others, lacks⟩)
    · exact ⟨[], s, rest, rfl, by simp, lacks⟩
    · exact ⟨s :: before, other, after, rfl, List.forall_mem_cons.mpr ⟨complete, others⟩, lacks⟩

theorem endPoints_eq_error_iff (servers : List Server) (error : LookupError) :
    endPoints servers = .error error ↔ FirstLacks servers error := by
  induction servers with
  | nil => exact iff_of_false nofun fun ⟨_, _, _, split, _⟩ => by simp at split
  | cons s rest ih =>
    rw [endPoints, firstLacks_cons, Server.complete_iff_gives]
    simp only [exceptBind_eq_error_iff, Server.endPoint_eq_error_iff, Server.endPoint_eq_ok_iff, ih]
    constructor
    · rintro (lacks | ⟨e, given, lacks | ⟨es, more, ⟨⟩⟩⟩)
      · exact .inl lacks
      · exact .inr ⟨⟨e, given⟩, lacks⟩
    · rintro (lacks | ⟨⟨e, given⟩, lacks⟩)
      · exact .inl lacks
      · exact .inr ⟨e, given, .inl lacks⟩

theorem exists_gives_of_mem {servers : List Server} {es : List EndPoint}
    (given : List.Forall₂ Server.Gives servers es) {e : EndPoint} (member : e ∈ es) :
    ∃ s ∈ servers, s.Gives e := by
  induction given with
  | nil => cases member
  | @cons s _ _ _ first _ ih =>
    rcases List.mem_cons.mp member with rfl | later
    · exact ⟨s, List.mem_cons_self, first⟩
    · obtain ⟨t, among, gives⟩ := ih later
      exact ⟨t, List.mem_cons_of_mem _ among, gives⟩

theorem forall_complete_iff (servers : List Server) :
    (∀ s ∈ servers, s.Complete) ↔ ∃ es, List.Forall₂ Server.Gives servers es := by
  induction servers with
  | nil => exact iff_of_true (by simp) ⟨[], .nil⟩
  | cons s rest ih =>
    rw [List.forall_mem_cons, ih, Server.complete_iff_gives]
    constructor
    · rintro ⟨⟨e, given⟩, es, more⟩
      exact ⟨e :: es, .cons given more⟩
    · rintro ⟨_, _ | ⟨given, more⟩⟩
      exact ⟨⟨_, given⟩, _, more⟩

namespace Entity

/-- The servers that a selector stands for: the only one, the last one of a name, or all with
exactly the wanted tags, in their order. -/
def Chosen (e : Entity) : ServerSelector → List Server → Prop
  | .name none, servers => e.servers = servers ∧ servers.length = 1
  | .name (some name), servers => ∃ s, IsLast (·.name = name) e.servers s ∧ servers = [s]
  | .tags tags, servers =>
    e.servers.filter (·.canonicalTags == canonicalTags tags) = servers ∧ servers ≠ []

def Unchosen (e : Entity) : ServerSelector → LookupError → Prop
  | .name none, error => e.servers.length ≠ 1 ∧ error = .ambiguous e.entityId e.servers.length
  | .name (some name), error =>
    (∀ s ∈ e.servers, s.name ≠ name) ∧ error = .noNamed name e.entityId
  | .tags tags, error => (∀ s ∈ e.servers, s.canonicalTags ≠ canonicalTags tags) ∧
    error = .noTagged (canonicalTags tags) e.entityId

theorem selectByName_eq_ok_iff (e : Entity) (name : String) (s : Server) :
    e.selectByName (some name) = .ok s ↔ IsLast (·.name = name) e.servers s := by
  rw [← find?_reverse_eq_some_iff fun _ => beq_iff_eq, selectByName]
  split
  · rename_i found
    rw [found, Except.ok.injEq, Option.some.injEq]
  · rename_i absent
    rw [absent]
    exact iff_of_false nofun nofun

theorem selectByName_eq_error_iff (e : Entity) (name : String) (error : LookupError) :
    e.selectByName (some name) = .error error ↔
      (∀ s ∈ e.servers, s.name ≠ name) ∧ .noNamed name e.entityId = error := by
  have absent := find?_reverse_eq_none_iff (fun s : Server => beq_iff_eq (a := s.name) (b := name))
    e.servers
  rw [← absent, selectByName]
  split
  · rename_i found
    rw [found]
    exact iff_of_false nofun nofun
  · rename_i absent
    rw [absent, Except.error.injEq]
    exact (and_iff_right rfl).symm

theorem selectByTags_eq_ok_iff (e : Entity) (tags : List String) (servers : List Server) :
    e.selectByTags tags = .ok servers ↔
      e.servers.filter (·.canonicalTags == canonicalTags tags) = servers ∧ servers ≠ [] := by
  rw [selectByTags]
  split
  · rename_i empty
    rw [empty]
    exact iff_of_false nofun fun ⟨same, more⟩ => more same.symm
  · rename_i more
    rw [Except.ok.injEq]
    exact (and_iff_left_of_imp fun same => same ▸ more).symm

theorem selectByTags_eq_error_iff (e : Entity) (tags : List String) (error : LookupError) :
    e.selectByTags tags = .error error ↔
      (∀ s ∈ e.servers, s.canonicalTags ≠ canonicalTags tags) ∧
        .noTagged (canonicalTags tags) e.entityId = error := by
  have absent : e.servers.filter (·.canonicalTags == canonicalTags tags) = [] ↔
      ∀ s ∈ e.servers, s.canonicalTags ≠ canonicalTags tags := by
    simp only [List.filter_eq_nil_iff, beq_iff_eq, ne_eq]
  rw [← absent, selectByTags]
  split
  · rename_i empty
    rw [empty, Except.error.injEq]
    exact (and_iff_right rfl).symm
  · rename_i more
    exact iff_of_false nofun fun ⟨empty, _⟩ => more empty

/-- Without a name a member has to have one server. -/
theorem selectByName_none (e : Entity) :
    (∃ s, e.servers = [s] ∧ e.selectByName none = .ok s) ∨
      e.servers.length ≠ 1 ∧ e.selectByName none = .error (.ambiguous e.entityId e.servers.length) := by
  rw [selectByName]
  split
  · rename_i s alone
    exact .inl ⟨s, alone, rfl⟩
  · rename_i several
    refine .inr ⟨fun one => ?_, rfl⟩
    obtain ⟨s, alone⟩ := List.length_eq_one_iff.mp one
    exact several s alone

theorem select_eq_ok_iff (e : Entity) (selector : ServerSelector) (servers : List Server) :
    e.select selector = .ok servers ↔ e.Chosen selector servers := by
  rcases selector with (_ | name) | tags
  · rw [select, Chosen]
    obtain ⟨s, alone, chosen⟩ | ⟨several, failed⟩ := e.selectByName_none
    · rw [chosen, alone]
      constructor
      · rintro ⟨⟩
        exact ⟨rfl, rfl⟩
      · rintro ⟨rfl, -⟩
        rfl
    · rw [failed]
      refine iff_of_false nofun ?_
      rintro ⟨rfl, one⟩
      exact several one
  · simp only [select, Chosen, ← selectByName_eq_ok_iff]
    cases e.selectByName (some name) with
    | error error => exact iff_of_false nofun nofun
    | ok s => simp [Except.map, eq_comm]
  · exact e.selectByTags_eq_ok_iff tags servers

theorem select_eq_error_iff (e : Entity) (selector : ServerSelector) (error : LookupError) :
    e.select selector = .error error ↔ e.Unchosen selector error := by
  rcases selector with (_ | name) | tags
  · rw [select, Unchosen]
    obtain ⟨s, alone, chosen⟩ | ⟨several, failed⟩ := e.selectByName_none
    · rw [chosen, alone]
      exact iff_of_false nofun fun ⟨several, _⟩ => several rfl
    · rw [failed]
      simp [Except.map, several, eq_comm]
  · simp only [select, Unchosen, @eq_comm _ error, ← selectByName_eq_error_iff]
    cases e.selectByName (some name) <;> simp [Except.map]
  · rw [Unchosen, @eq_comm _ error]
    exact e.selectByTags_eq_error_iff tags error

theorem Chosen.servers_ne_nil {e : Entity} {selector : ServerSelector} {servers : List Server}
    (chosen : e.Chosen selector servers) : e.servers ≠ [] := by
  intro empty
  rcases selector with (_ | name) | tags
  · obtain ⟨rfl, one⟩ := chosen
    simp [empty] at one
  · obtain ⟨s, ⟨before, after, split, -⟩, -⟩ := chosen
    simp [empty] at split
  · obtain ⟨rfl, more⟩ := chosen
    simp [empty] at more

theorem Chosen.mem {e : Entity} {selector : ServerSelector} {servers : List Server}
    (chosen : e.Chosen selector servers) {s : Server} (member : s ∈ servers) : s ∈ e.servers := by
  rcases selector with (_ | name) | tags
  · obtain ⟨rfl, -⟩ := chosen
    exact member
  · obtain ⟨t, ⟨before, after, split, -⟩, rfl⟩ := chosen
    obtain rfl := List.mem_singleton.mp member
    simp [split]
  · obtain ⟨rfl, -⟩ := chosen
    exact (List.mem_filter.mp member).1

/-- The stages of a connection to a member that has servers. -/
theorem connect_of_servers {e : Entity} (some : e.servers ≠ []) (selector : ServerSelector) :
    e.connect selector = e.select selector >>= fun servers => endPoints servers >>= fun found =>
      if e.issuers = [] then .error (.noIssuers e.entityId)
      else .ok ⟨e.entityId, found, e.caBundle⟩ := by
  rw [connect, if_neg some]
  rfl

theorem connect_eq_ok_iff (e : Entity) (selector : ServerSelector) (c : ServerConnection) :
    e.connect selector = .ok c ↔
      ∃ servers, e.Chosen selector servers ∧ List.Forall₂ Server.Gives servers c.endPoints ∧
        e.issuers ≠ [] ∧ c.entityId = e.entityId ∧ c.caCertificates = e.caBundle := by
  by_cases none : e.servers = []
  · refine iff_of_false (by rw [connect, if_pos none]; exact nofun) ?_
    rintro ⟨servers, chosen, -⟩
    exact chosen.servers_ne_nil none
  · simp only [connect_of_servers none, exceptBind_eq_ok_iff, select_eq_ok_iff, endPoints_eq_ok_iff]
    by_cases unissued : e.issuers = []
    · simp [unissued]
    · simp only [unissued, if_false, Except.ok.injEq]
      constructor
      · rintro ⟨servers, chosen, found, given, rfl⟩
        exact ⟨servers, chosen, given, unissued, rfl, rfl⟩
      · obtain ⟨entityId, found, certificates⟩ := c
        rintro ⟨servers, chosen, given, -, rfl, rfl⟩
        exact ⟨servers, chosen, found, given, rfl⟩

/-- Why a member is not connected to: the first condition that it does not meet. -/
inductive Unconnected (e : Entity) (selector : ServerSelector) : LookupError → Prop
  | noServers (none : e.servers = []) : Unconnected e selector (.noServers e.entityId)
  | unchosen {error : LookupError} (some : e.servers ≠ []) (why : e.Unchosen selector error) :
    Unconnected e selector error
  | incomplete {servers : List Server} {error : LookupError} (chosen : e.Chosen selector servers)
    (why : FirstLacks servers error) : Unconnected e selector error
  | noIssuers {servers : List Server} (chosen : e.Chosen selector servers)
    (complete : ∀ s ∈ servers, s.Complete) (none : e.issuers = []) :
    Unconnected e selector (.noIssuers e.entityId)

theorem connect_eq_error_iff (e : Entity) (selector : ServerSelector) (error : LookupError) :
    e.connect selector = .error error ↔ e.Unconnected selector error := by
  by_cases none : e.servers = []
  · have ends : e.connect selector = .error (.noServers e.entityId) := by
      rw [connect, if_pos none]
      rfl
    rw [ends, Except.error.injEq]
    constructor
    · rintro rfl
      exact .noServers none
    · rintro (_ | ⟨some, _⟩ | ⟨chosen, _⟩ | ⟨chosen, _, _⟩)
      · rfl
      · exact absurd none some
      · exact absurd none chosen.servers_ne_nil
      · exact absurd none chosen.servers_ne_nil
  · simp only [connect_of_servers none, exceptBind_eq_error_iff, select_eq_error_iff,
      select_eq_ok_iff, endPoints_eq_error_iff, endPoints_eq_ok_iff]
    constructor
    · rintro (why | ⟨servers, chosen, why | ⟨found, given, ends⟩⟩)
      · exact .unchosen none why
      · exact .incomplete chosen why
      · split at ends
        · cases ends
          exact .noIssuers chosen ((forall_complete_iff servers).mpr ⟨found, given⟩) ‹_›
        · cases ends
    · rintro (empty | ⟨_, why⟩ | ⟨chosen, why⟩ | @⟨servers, chosen, complete, unissued⟩)
      · exact absurd empty none
      · exact .inl why
      · exact .inr ⟨_, chosen, .inl why⟩
      · obtain ⟨found, given⟩ := (forall_complete_iff servers).mp complete
        exact .inr ⟨servers, chosen, .inr ⟨found, given, by rw [if_pos unissued]⟩⟩

end Entity

theorem toList_join (texts : List String) :
    (String.join texts).toList = texts.flatMap String.toList := by
  have joined (front : String) : (texts.foldl (· ++ ·) front).toList =
      front.toList ++ texts.flatMap String.toList := by
    induction texts generalizing front with
    | nil => simp
    | cons text rest ih => rw [List.foldl_cons, ih, String.toList_append, List.flatMap_cons, List.append_assoc]
  exact joined ""

/-- The certificates of a member in their order, each with a line end behind it. -/
theorem Entity.toList_caBundle (e : Entity) :
    e.caBundle.toList = e.issuers.flatMap fun i => i.certificate.toList ++ ['\n'] := by
  rw [caBundle, toList_join, List.flatMap_map]
  congr 1
  funext i
  exact String.toList_append ..

namespace Metadata

/-- The member that an identifier means: the last one of an equal URL. -/
def Means (m : Metadata) (entityId : String) (e : Entity) : Prop :=
  IsLast (fun e => urlEquals e.entityId entityId = true) m.entities e

inductive Unresolved (m : Metadata) (entityId : String) (selector : ServerSelector) :
    LookupError → Prop
  | noEntity (absent : ∀ e ∈ m.entities, ¬ urlEquals e.entityId entityId = true) :
    Unresolved m entityId selector (.noEntity entityId)
  | unconnected {e : Entity} {error : LookupError} (meant : m.Means entityId e)
    (why : e.Unconnected selector error) : Unresolved m entityId selector error

theorem findEntity?_eq_some_iff (m : Metadata) (entityId : String) (e : Entity) :
    m.findEntity? entityId = some e ↔ m.Means entityId e :=
  find?_reverse_eq_some_iff (fun _ => Iff.rfl) m.entities e

theorem findEntity?_eq_none_iff (m : Metadata) (entityId : String) :
    m.findEntity? entityId = none ↔ ∀ e ∈ m.entities, ¬ urlEquals e.entityId entityId = true :=
  find?_reverse_eq_none_iff (fun _ => Iff.rfl) m.entities

theorem resolve_eq_ok_iff (m : Metadata) (entityId : String) (selector : ServerSelector)
    (c : ServerConnection) :
    m.resolve entityId selector = .ok c ↔
      ∃ e, m.Means entityId e ∧ e.connect selector = .ok c := by
  simp only [← findEntity?_eq_some_iff]
  cases found : m.findEntity? entityId with
  | none => simp [resolve, found]
  | some e => simp [resolve, found]

theorem resolve_eq_error_iff (m : Metadata) (entityId : String) (selector : ServerSelector)
    (error : LookupError) :
    m.resolve entityId selector = .error error ↔ m.Unresolved entityId selector error := by
  cases found : m.findEntity? entityId with
  | none =>
    have absent := (m.findEntity?_eq_none_iff entityId).mp found
    rw [resolve, found, Except.error.injEq]
    constructor
    · rintro rfl
      exact .noEntity absent
    · rintro (_ | ⟨meant, _⟩)
      · rfl
      · rw [(m.findEntity?_eq_some_iff entityId _).mpr meant] at found
        cases found
  | some e =>
    have meant := (m.findEntity?_eq_some_iff entityId e).mp found
    rw [resolve, found]
    constructor
    · intro failed
      exact .unconnected meant ((e.connect_eq_error_iff selector error).mp failed)
    · rintro (absent | @⟨other, _, meant', why⟩)
      · rw [(m.findEntity?_eq_none_iff entityId).mpr absent] at found
        cases found
      · have same := (m.findEntity?_eq_some_iff entityId other).mpr meant'
        obtain rfl := Option.some.inj (found.symm.trans same)
        exact (e.connect_eq_error_iff selector error).mpr why

end Metadata

/-- A resolution succeeds exactly when the identifier means a member that has issuers and of which
the selector chooses servers that are all complete. It then gives each of these servers, in their
order, with all of its own pins, and the certificates of that member. Otherwise it fails as a
whole, and its text tells of the first condition that does not hold; one incomplete server among
those that are chosen is enough. -/
theorem resolve_gives_chosen_servers_or_first_failure (m : Metadata) (entityId : String)
    (selector : ServerSelector) :
    ((∃ c, m.resolve entityId selector = .ok c) ↔
      ∃ e servers, m.Means entityId e ∧ e.Chosen selector servers ∧
        (∀ s ∈ servers, s.Complete) ∧ e.issuers ≠ []) ∧
    (∀ c, m.resolve entityId selector = .ok c ↔
      ∃ e servers, m.Means entityId e ∧ e.Chosen selector servers ∧ e.issuers ≠ [] ∧
        c.entityId = e.entityId ∧ List.Forall₂ Server.Gives servers c.endPoints ∧
        c.caCertificates.toList = e.issuers.flatMap fun i => i.certificate.toList ++ ['\n']) ∧
    (∀ c, m.resolve entityId selector = .ok c → ∀ point ∈ c.endPoints, point.pins ≠ [] ∧
      ∃ e, m.Means entityId e ∧ ∃ s ∈ e.servers, s.Gives point) ∧
    (∀ failure, (m.resolve entityId selector).mapError LookupError.failure = .error failure ↔
      ∃ error, m.Unresolved entityId selector error ∧ .lookup error.message = failure) ∧
    (∀ e servers, m.Means entityId e → e.Chosen selector servers →
      (∃ s ∈ servers, ¬ s.Complete) →
      ∃ error, FirstLacks servers error ∧ m.resolve entityId selector = .error error) := by
  have gives : ∀ c, m.resolve entityId selector = .ok c ↔
      ∃ e servers, m.Means entityId e ∧ e.Chosen selector servers ∧ e.issuers ≠ [] ∧
        c.entityId = e.entityId ∧ List.Forall₂ Server.Gives servers c.endPoints ∧
        c.caCertificates.toList = e.issuers.flatMap fun i => i.certificate.toList ++ ['\n'] := by
    intro c
    simp only [Metadata.resolve_eq_ok_iff, Entity.connect_eq_ok_iff, ← Entity.toList_caBundle,
      String.toList_inj]
    constructor
    · rintro ⟨e, meant, servers, chosen, given, issued, name, certificates⟩
      exact ⟨e, servers, meant, chosen, issued, name, given, certificates⟩
    · rintro ⟨e, servers, meant, chosen, issued, name, given, certificates⟩
      exact ⟨e, meant, servers, chosen, given, issued, name, certificates⟩
  refine ⟨?_, gives, ?_, ?_, ?_⟩
  · simp only [gives, forall_complete_iff]
    constructor
    · rintro ⟨c, e, servers, meant, chosen, issued, -, given, -⟩
      exact ⟨e, servers, meant, chosen, ⟨_, given⟩, issued⟩
    · rintro ⟨e, servers, meant, chosen, ⟨found, given⟩, issued⟩
      exact ⟨⟨e.entityId, found, e.caBundle⟩, e, servers, meant, chosen, issued, rfl, given,
        e.toList_caBundle⟩
  · intro c resolved point member
    obtain ⟨e, servers, meant, chosen, -, -, given, -⟩ := (gives c).mp resolved
    obtain ⟨s, among, gives⟩ := exists_gives_of_mem given member
    exact ⟨gives.pins ▸ gives.pinned, e, meant, s, chosen.mem among, gives⟩
  · intro failure
    simp only [mapError_eq_error_iff, Metadata.resolve_eq_error_iff]
    rfl
  · rintro e servers meant chosen ⟨s, member, incomplete⟩
    cases ends : endPoints servers with
    | ok found =>
      have given := (endPoints_eq_ok_iff servers found).mp ends
      exact absurd ((forall_complete_iff servers).mpr ⟨found, given⟩ s member) incomplete
    | error error =>
      have why := (endPoints_eq_error_iff servers error).mp ends
      exact ⟨error, why, (m.resolve_eq_error_iff entityId selector error).mpr
        (.unconnected meant (.incomplete chosen why))⟩

end FederationTrust
