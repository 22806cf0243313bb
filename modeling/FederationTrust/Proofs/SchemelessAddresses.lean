import FederationTrust.Proofs.ListedServers
import FederationTrust.Proofs.WebUrls

/-!
# Addresses without a scheme

An address that is written without a scheme, as the name of a host with or without a path, a
query or a fragment, is the one that the scheme `https` in front of it makes. A port spoils that,
since the name before its colon passes for a scheme: the address then stands for some other URL
or for none.
-/

namespace FederationTrust

/-- An address without a scheme: the name of a host, perhaps a port, and what follows these, which
is nothing or a path, a query or a fragment. -/
structure BareAddress where
  host : List Char
  port : Option (List Char)
  tail : List Char
  begins : host.head?.any Url.isLetter = true
  named : ∀ c ∈ host, Url.isNameChar c = true
  numbered : ∀ digits ∈ port, ∃ n < 65536, Text.digits? digits = some n
  ends : ∀ c ∈ tail.head?, c = '/' ∨ c = '?' ∨ c = '#'

namespace BareAddress

def portText (a : BareAddress) : List Char :=
  match a.port with
  | none => []
  | some digits => ':' :: digits

def text (a : BareAddress) : String :=
  String.ofList (a.host ++ a.portText ++ a.tail)

def secured (a : BareAddress) : String :=
  "https://" ++ a.text

def rest (a : BareAddress) : List Char :=
  Url.strip (Text.trim a.tail)

section Reading

variable (a : BareAddress)

theorem host_ne_nil : a.host ≠ [] := by
  intro empty
  have begins := a.begins
  rw [empty] at begins
  cases begins

theorem visible_tail : ∀ c ∈ a.tail.head?, Url.isVisible c = true :=
  Url.isVisible_of_ends a.ends

theorem isNameChar_of_port {a : BareAddress} {digits : List Char} (port : a.port = some digits) :
    ∀ c ∈ digits, Url.isNameChar c = true := by
  obtain ⟨n, -, read⟩ := a.numbered digits port
  exact fun c member => Url.isNameChar_of_digit? (Text.isSome_digit?_of_digits? read c member)

theorem mem_portText {c : Char} (member : c ∈ a.portText) : c = ':' ∨ Url.isNameChar c = true := by
  unfold portText at member
  split at member
  · cases member
  · rename_i digits port
    exact (List.mem_cons.mp member).imp_right (isNameChar_of_port port c)

theorem mem_front {c : Char} (member : c ∈ a.host ++ a.portText) :
    c = ':' ∨ Url.isNameChar c = true :=
  (List.mem_append.mp member).elim (fun ofHost => .inr (a.named c ofHost)) a.mem_portText

theorem visible_front : ∀ c ∈ a.host ++ a.portText, Url.isVisible c = true := by
  intro c member
  rcases a.mem_front member with rfl | named
  · rfl
  · exact Url.isVisible_of_isNameChar named

theorem trim_append_text (front : List Char) (visible : ∀ c ∈ front, Url.isVisible c = true) :
    Text.trim (front ++ a.text.toList) =
      front ++ (a.host ++ a.portText ++ Text.trim a.tail) := by
  rw [text, String.toList_ofList, ← List.append_assoc, Text.trim_append, List.append_assoc]
  · intro c member
    exact Url.isBlank_of_isVisible
      ((List.mem_append.mp member).elim (visible c) (a.visible_front c))
  · exact fun c first => Url.isBlank_of_isVisible (a.visible_tail c first)

theorem trim_text : Text.trim a.text.toList = a.host ++ a.portText ++ Text.trim a.tail :=
  a.trim_append_text [] (by simp)

theorem head?_trim_tail : (Text.trim a.tail).head? = a.tail.head? :=
  Text.head?_trim fun c first => Url.isBlank_of_isVisible (a.visible_tail c first)

theorem head?_rest : a.rest.head? = a.tail.head? :=
  Url.head?_strip_trim a.visible_tail

/-- What is read of the address, behind anything that may be put in front of it. -/
theorem strip_append_text (front : List Char) (visible : ∀ c ∈ front, Url.isVisible c = true) :
    Url.strip (front ++ Text.trim a.text.toList) =
      front ++ (a.host ++ (a.portText ++ a.rest)) := by
  rw [trim_text, ← List.append_assoc, Url.strip_append, rest]
  · simp only [List.append_assoc]
  · exact fun c member => (List.mem_append.mp member).elim (visible c) (a.visible_front c)
  · exact a.head?_trim_tail ▸ a.visible_tail

/-- Behind the scheme of the secure web, the whole address is authority, path, query and
fragment. -/
theorem splitScheme?_secured :
    Url.splitScheme? (Url.strip ("https://".toList ++ Text.trim a.text.toList)) =
      some ("https".toList, '/' :: '/' :: (a.host ++ (a.portText ++ a.rest))) := by
  rw [a.strip_append_text _ (List.all_eq_true.mp rfl)]
  have letter : "https".toList.head?.any Url.isLetter = true := rfl
  have colon : ∀ c ∈ (':' :: '/' :: '/' :: (a.host ++ (a.portText ++ a.rest))).head?,
      Url.isSchemeChar c = false := by
    rintro _ ⟨⟩
    rfl
  exact Url.splitScheme?_append letter (List.all_eq_true.mp rfl) colon

/-- The name of the host is read as a scheme exactly when there is a port. -/
theorem splitScheme?_text :
    Url.splitScheme? (Url.strip (Text.trim a.text.toList)) =
      a.port.map fun digits => (a.host.map Text.lowerAscii, digits ++ a.rest) := by
  have read : Url.strip (Text.trim a.text.toList) = a.host ++ (a.portText ++ a.rest) :=
    a.strip_append_text [] (by simp)
  have scheme : ∀ c ∈ a.host, Url.isSchemeChar c = true := fun c member =>
    Url.isSchemeChar_of_isNameChar (a.named c member)
  cases port : a.port with
  | none =>
    have ends : ∀ c ∈ (a.portText ++ a.rest).head?, c = '/' ∨ c = '?' ∨ c = '#' := by
      simp only [portText, port, List.nil_append, head?_rest]
      exact a.ends
    rw [read, Url.splitScheme?_append a.begins scheme, if_neg, Option.map_none]
    · intro colon
      rcases ends _ colon with same | same | same <;> cases same
    · intro c first
      rcases ends c first with rfl | rfl | rfl <;> rfl
  | some digits =>
    rw [read, portText, port, List.cons_append, Url.splitScheme?_append a.begins scheme]
    · rfl
    · rintro _ ⟨⟩
      rfl

theorem normalizeUrl_secured :
    normalizeUrl a.secured =
      (Url.ofScheme? "https".toList ('/' :: '/' :: (a.host ++ (a.portText ++ a.rest)))).map
        fun u => String.ofList u.text := by
  apply normalizeUrl_of_scheme
  rw [secured, String.toList_append, a.trim_append_text _ (List.all_eq_true.mp rfl),
    ← trim_text]
  exact a.splitScheme?_secured

theorem normalizeUrl_of_no_port (unported : a.port = none) :
    normalizeUrl a.text = normalizeUrl a.secured := by
  rw [normalizeUrl_secured]
  refine normalizeUrl_of_no_scheme ?_ a.splitScheme?_secured
  rw [splitScheme?_text, unported, Option.map_none]

theorem normalizeUrl_of_port {digits : List Char} (port : a.port = some digits) :
    normalizeUrl a.text = (Url.ofScheme? (a.host.map Text.lowerAscii) (digits ++ a.rest)).map
      fun u => String.ofList u.text := by
  apply normalizeUrl_of_scheme
  rw [splitScheme?_text, port, Option.map_some]

end Reading

section Ports

variable (a : BareAddress)

/-- The path is what is read behind host and port up to a query or fragment. -/
theorem rooted_rest : ∀ c ∈ (Url.splitTail a.rest).1.head?, c = '/' :=
  Url.rooted_splitTail (a.head?_rest ▸ a.ends)

/-- A host that is read is that of the address behind the scheme of the secure web. -/
theorem authority?_secured {host : Url.Host} (read : Url.host? a.host = some host)
    (named : host ≠ .name []) (hasMore : Bool) :
    ∃ port, Url.authority? "https".toList hasMore
        (a.host ++ (a.portText ++ (Url.splitTail a.rest).1)) =
      some (⟨[], [], host, port⟩, (Url.splitTail a.rest).1) := by
  cases port : a.port with
  | none =>
    refine ⟨none, ?_⟩
    rw [portText, port, List.nil_append,
      Url.authority?_of_name_and_path rfl a.named a.rooted_rest, read, Option.map_some]
  | some digits =>
    obtain ⟨n, small, number⟩ := a.numbered digits port
    rw [portText, port, List.cons_append,
      Url.authority?_of_name_and_port rfl a.named number small a.rooted_rest, read,
      Option.bind_some, if_neg named]
    exact ⟨_, rfl⟩

theorem ofScheme?_secured {host : Url.Host} (read : Url.host? a.host = some host)
    (named : host ≠ .name []) :
    ∃ u rest, Url.ofScheme? "https".toList ('/' :: '/' :: (a.host ++ (a.portText ++ a.rest))) =
        some u ∧ u.text = "https".toList ++ ':' :: '/' :: '/' :: (host.text ++ rest) := by
  have plain : ∀ c ∈ a.host ++ a.portText, c ≠ '?' ∧ c ≠ '#' := by
    intro c member
    rcases a.mem_front member with rfl | ofName
    · decide
    · exact ⟨Url.ne_of_isNameChar ofName rfl, Url.ne_of_isNameChar ofName rfl⟩
  have begins : ∀ c ∈ (a.host ++ a.portText ++ (Url.splitTail a.rest).1).head?,
      Url.isSlash .web c = false := by
    rw [List.append_assoc]
    exact Url.unslashed_append a.named a.host_ne_nil .web _
  have parts := Url.ofScheme?_append_of_web Url.schemeKind_https ['/', '/']
    (List.all_eq_true.mp rfl) plain begins
  obtain ⟨port, authority⟩ := a.authority?_secured read named
    ((Url.splitTail a.rest).2.1.isSome || (Url.splitTail a.rest).2.2.isSome)
  rw [List.append_assoc, List.append_assoc, authority] at parts
  obtain ⟨rest, text⟩ := Url.text_eq_host_append (u := ⟨_, some ⟨[], [], host, port⟩, _, _, _⟩)
    rfl rfl rfl
  exact ⟨_, rest, parts, text⟩

/-- Digits behind the scheme of the secure web are an address of four octets, if anything. -/
theorem ofScheme?_digits {digits : List Char} {u : Url} (port : a.port = some digits)
    (read : Url.ofScheme? "https".toList (digits ++ a.rest) = some u) :
    ∃ address rest,
      u.text = "https".toList ++ ':' :: '/' :: '/' :: (Url.ipv4Text address ++ rest) := by
  obtain ⟨n, -, number⟩ := a.numbered digits port
  have named := isNameChar_of_port port
  have plain : ∀ c ∈ digits, c ≠ '?' ∧ c ≠ '#' := fun c member =>
    ⟨Url.ne_of_isNameChar (named c member) rfl, Url.ne_of_isNameChar (named c member) rfl⟩
  have parts := Url.ofScheme?_append_of_web Url.schemeKind_https [] nofun plain
    (Url.unslashed_append named (Url.ne_nil_of_digits? number) .web (Url.splitTail a.rest).1)
  rw [Url.authority?_of_name_and_path rfl named a.rooted_rest, Url.host?_of_digits? number,
    List.nil_append, read] at parts
  cases octets : Url.ipv4? digits with
  | none =>
    rw [octets] at parts
    cases parts
  | some address =>
    rw [octets] at parts
    cases parts
    exact ⟨address, Url.text_eq_host_append (a := ⟨[], [], .ipv4 address, none⟩) rfl rfl rfl⟩

theorem colon_notMem_scheme : ':' ∉ a.host.map Text.lowerAscii := by
  intro member
  obtain ⟨c, place, lower⟩ := List.mem_map.mp member
  have permitted := Url.isForbidden_lowerAscii (a.named c place)
  rw [lower] at permitted
  cases permitted

/-- With a port, the address is another URL than behind the scheme of the secure web, or none. -/
theorem normalizeUrl_ne_of_port {digits : List Char} (port : a.port = some digits) :
    normalizeUrl a.text ≠ normalizeUrl a.secured := by
  rw [normalizeUrl_of_port a port, normalizeUrl_secured]
  intro same
  have named : Url.Host.name (a.host.map Text.lowerAscii) ≠ .name [] := by
    simpa using a.host_ne_nil
  have ofWeb (web : Url.schemeKind (a.host.map Text.lowerAscii) = .web) :=
    a.ofScheme?_secured (Url.host?_of_scheme a.named web) named
  cases left : Url.ofScheme? (a.host.map Text.lowerAscii) (digits ++ a.rest) with
  | none =>
    -- Only under a scheme of the web can digits fail, and such a scheme is itself a host.
    have web : Url.schemeKind (a.host.map Text.lowerAscii) = .web := by
      by_contra unweb
      obtain ⟨n, -, number⟩ := a.numbered digits port
      have answered := Url.isSome_ofScheme?_of_unslashed unweb (Url.unslashed_append
        (isNameChar_of_port port) (Url.ne_nil_of_digits? number) .file a.rest)
      rw [left] at answered
      cases answered
    obtain ⟨v, -, right, -⟩ := ofWeb web
    rw [left, right] at same
    cases same
  | some u =>
    rw [left, Option.map_some] at same
    obtain ⟨v, right, texts⟩ := Option.map_eq_some_iff.mp same.symm
    have sameText : u.text = v.text := String.ofList_injective texts.symm
    have scheme : a.host.map Text.lowerAscii = "https".toList := by
      obtain ⟨after, leftText⟩ := u.text_eq_scheme_append
      obtain ⟨rest, rightText⟩ := v.text_eq_scheme_append
      rw [Url.scheme_of_ofScheme? left] at leftText
      rw [Url.scheme_of_ofScheme? right] at rightText
      have pieces := congrArg (Text.splitAt ':') (leftText.symm.trans (sameText.trans rightText))
      rw [Text.splitAt_append_sep a.colon_notMem_scheme, Text.splitAt_append_sep (by decide)]
        at pieces
      exact (List.cons.inj pieces).1
    -- Under the same scheme the hosts differ: an address begins with a digit.
    obtain ⟨w, rest, again, rightText⟩ := ofWeb (scheme ▸ Url.schemeKind_https)
    obtain rfl : v = w := Option.some.inj (right.symm.trans again)
    obtain ⟨address, after, leftText⟩ := a.ofScheme?_digits port (scheme ▸ left)
    obtain ⟨d, more, octets, digit⟩ := Url.ipv4Text_eq_digit_append address
    rw [sameText, rightText, Url.Host.text, scheme, octets] at leftText
    have first : some 'h' = some d :=
      congrArg (fun s => (s.drop 3).head?) (List.append_cancel_left leftText)
    obtain rfl := Option.some.inj first
    cases digit

end Ports

end BareAddress

/-- A member under another identifier, if its own is a certain one. -/
def Entity.respelled (old new : String) (e : Entity) : Entity :=
  if e.entityId = old then { e with entityId := new } else e

/-- Metadata in which another identifier stands for a certain one. -/
def Metadata.respelled (old new : String) (m : Metadata) : Metadata :=
  { m with entities := m.entities.map (·.respelled old new) }

/-- The end points of a member and their certificates do not depend on its identifier. -/
theorem connect_respelled (old new : String) (e : Entity) (selector : ServerSelector)
    (found : List EndPoint) (certificates : String) :
    (∃ name, (e.respelled old new).connect selector = .ok ⟨name, found, certificates⟩) ↔
      ∃ name, e.connect selector = .ok ⟨name, found, certificates⟩ := by
  unfold Entity.respelled
  split
  · simp only [Entity.connect_eq_ok_iff]
    constructor
    · rintro ⟨-, servers, chosen, given, issued, -, bundle⟩
      exact ⟨_, servers, chosen, given, issued, rfl, bundle⟩
    · rintro ⟨-, servers, chosen, given, issued, -, bundle⟩
      exact ⟨_, servers, chosen, given, issued, rfl, bundle⟩
  · rfl

section Spellings

/-! Texts with the same normal form find, list and name the same members. -/

variable {old new : String} (same : normalizeUrl old = normalizeUrl new)

include same

theorem urlEquals_left_congr (other : String) : urlEquals old other = urlEquals new other := by
  rw [urlEquals, urlEquals, same]

theorem urlEquals_right_congr (other : String) : urlEquals other old = urlEquals other new := by
  rw [urlEquals, urlEquals, same]

theorem urlEquals_respelled (wanted : String) (e : Entity) :
    urlEquals (e.respelled old new).entityId wanted = urlEquals e.entityId wanted := by
  unfold Entity.respelled
  split
  · rename_i named
    rw [named, urlEquals_left_congr same]
  · rfl

theorem findEntity?_congr (m : Metadata) : m.findEntity? old = m.findEntity? new := by
  simp only [Metadata.findEntity?, urlEquals_right_congr same]

/-- Both spellings of a wanted identifier are resolved alike; a failure that names it does so as
it was spelled. -/
theorem resolve_congr (m : Metadata) (selector : ServerSelector) :
    m.resolve old selector = m.resolve new selector ∨
      m.resolve old selector = .error (.noEntity old) ∧
        m.resolve new selector = .error (.noEntity new) := by
  rw [Metadata.resolve, Metadata.resolve, findEntity?_congr same m]
  cases m.findEntity? new with
  | none => exact .inr ⟨rfl, rfl⟩
  | some e => exact .inl rfl

theorem listInto_congr (sink : Sink) (o : ListOptions) (m : Metadata) :
    listInto sink (o.filteredBy old) m = listInto sink (o.filteredBy new) m := by
  have printed : (o.filteredBy old).printed m = (o.filteredBy new).printed m :=
    List.filter_congr fun e _ => urlEquals_right_congr same e.entityId
  rw [listInto, listInto, ListOptions.write_eq_forM, ListOptions.write_eq_forM, printed]
  rfl

theorem findEntity?_respelled (m : Metadata) (wanted : String) :
    (m.respelled old new).findEntity? wanted =
      (m.findEntity? wanted).map (·.respelled old new) := by
  have asked : (fun e : Entity => urlEquals e.entityId wanted) ∘ Entity.respelled old new =
      fun e => urlEquals e.entityId wanted := by
    funext e
    rw [Function.comp_apply, urlEquals_respelled same]
  rw [Metadata.findEntity?, Metadata.respelled, ← List.map_reverse, List.find?_map, asked]
  rfl

theorem printed_respelled (o : ListOptions) (m : Metadata) (wanted : String) :
    (o.filteredBy wanted).printed (m.respelled old new) =
      ((o.filteredBy wanted).printed m).map (·.respelled old new) := by
  have asked : (o.filteredBy wanted).selects ∘ Entity.respelled old new =
      (o.filteredBy wanted).selects := by
    funext e
    simp only [Function.comp_apply, ListOptions.selects, ListOptions.filteredBy,
      EntityMatch.matches, urlEquals_respelled same]
  rw [ListOptions.printed, Metadata.respelled, List.filter_map, asked]
  rfl

theorem resolve_respelled (m : Metadata) (wanted : String) (selector : ServerSelector)
    (found : List EndPoint) (certificates : String) :
    (∃ name, (m.respelled old new).resolve wanted selector = .ok ⟨name, found, certificates⟩) ↔
      ∃ name, m.resolve wanted selector = .ok ⟨name, found, certificates⟩ := by
  simp only [Metadata.resolve, findEntity?_respelled same]
  cases m.findEntity? wanted with
  | none => exact Iff.rfl
  | some e => exact connect_respelled old new e selector found certificates

end Spellings

/-- An address without a scheme is the one that `https` in front of it makes exactly when it has
no port. Then both spellings ask for the same members of all metadata, and both stand for the same
member in metadata, whoever asks. -/
theorem schemeless_address_secured_iff_no_port (a : BareAddress) :
    (normalizeUrl a.text = normalizeUrl a.secured ↔ a.port = none) ∧
    (urlEquals a.text a.secured = true ↔
      a.port = none ∧ (normalizeUrl a.secured).isSome = true) ∧
    (a.port = none →
      ∀ (m : Metadata) (o : ListOptions) (selector : ServerSelector),
        (m.resolve a.text selector = m.resolve a.secured selector ∨
          m.resolve a.text selector = .error (.noEntity a.text) ∧
            m.resolve a.secured selector = .error (.noEntity a.secured)) ∧
        (∀ sink, listInto sink (o.filteredBy a.text) m = listInto sink (o.filteredBy a.secured) m) ∧
        ∀ wanted,
          (∀ found certificates,
            (∃ name, (m.respelled a.text a.secured).resolve wanted selector =
                .ok ⟨name, found, certificates⟩) ↔
              ∃ name, m.resolve wanted selector = .ok ⟨name, found, certificates⟩) ∧
          (o.filteredBy wanted).printed (m.respelled a.text a.secured) =
            ((o.filteredBy wanted).printed m).map (·.respelled a.text a.secured)) := by
  have alike : normalizeUrl a.text = normalizeUrl a.secured ↔ a.port = none := by
    refine ⟨fun same => ?_, a.normalizeUrl_of_no_port⟩
    cases port : a.port with
    | none => rfl
    | some digits => exact absurd same (a.normalizeUrl_ne_of_port port)
  refine ⟨alike, ?_, fun unported m o selector => ?_⟩
  · rw [urlEquals_eq_true_iff, alike]
  · have same := alike.mpr unported
    exact ⟨resolve_congr same m selector, fun sink => listInto_congr same sink o m, fun wanted =>
      ⟨resolve_respelled same m wanted selector, printed_respelled same o m wanted⟩⟩

namespace Sample

def bareAddress : BareAddress where
  host := "IdP.example.org".toList
  port := none
  tail := "/path".toList
  begins := rfl
  named := List.all_eq_true.mp rfl
  numbered := nofun
  ends := by
    rintro _ ⟨⟩
    exact .inl rfl

end Sample

theorem host_with_path_secured :
    normalizeUrl Sample.bareAddress.text = some "https://idp.example.org/path" ∧
      normalizeUrl Sample.bareAddress.text = normalizeUrl Sample.bareAddress.secured ∧
      urlEquals Sample.bareAddress.text Sample.bareAddress.secured = true := by
  have told := schemeless_address_secured_iff_no_port Sample.bareAddress
  have form : normalizeUrl Sample.bareAddress.text = some "https://idp.example.org/path" := rfl
  have same := told.1.mpr rfl
  refine ⟨form, same, told.2.1.mpr ⟨rfl, ?_⟩⟩
  rw [← same, form]
  rfl

/-- The name of a host with a port passes for a scheme with something behind it. -/
theorem host_with_port_not_secured :
    normalizeUrl "idp.example.org:8443" = some "idp.example.org:8443" ∧
      normalizeUrl "https://idp.example.org:8443" = some "https://idp.example.org:8443/" ∧
      urlEquals "idp.example.org:8443" "https://idp.example.org:8443" = false := by
  decide +kernel

end FederationTrust
