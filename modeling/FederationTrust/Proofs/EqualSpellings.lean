import FederationTrust.Proofs.WrittenUrls

/-!
# Spellings of one URL

An address of the secure web may be written with its scheme and its host in capitals or not, with
the port that the scheme implies or without, with a slash between its host and a query or a
fragment, and with white space around it. Either none of these spellings stands for a URL, or all
have the same normal form, which is a spelling of that URL too.
-/

namespace FederationTrust

/-- An address of the secure web: the name of a host without encoded labels, and what follows it,
which is nothing or a path, a query or a fragment. -/
structure SecureAddress where
  host : List Char
  tail : List Char
  something : host ≠ []
  named : ∀ c ∈ host, Url.isNameChar c = true
  unencoded : (Text.splitAt '.' (host.map Text.lowerAscii)).any Idna.isEncoded = false
  ends : ∀ c ∈ tail.head?, c = '/' ∨ c = '?' ∨ c = '#'

namespace SecureAddress

variable {a : SecureAddress}

/-- A way to write an address: white space around it, its scheme and its host in any letter case,
perhaps the port that the scheme implies, and perhaps a slash where no path begins. -/
structure Spelling (a : SecureAddress) where
  before : List Char
  scheme : List Char
  host : List Char
  port : List Char
  slash : List Char
  after : List Char
  blank : ∀ c ∈ before ++ after, Text.isBlank c = true
  sameScheme : scheme.map Text.lowerAscii = "https".toList
  sameHost : host.map Text.lowerAscii = a.host.map Text.lowerAscii
  implied : port = [] ∨ port = ":443".toList
  slashed : slash = [] ∨ slash = ['/'] ∧ a.tail.head? ≠ some '/'

def Spelling.text (s : a.Spelling) : String :=
  String.ofList (s.before ++
    (s.scheme ++ "://".toList ++ s.host ++ s.port ++ s.slash ++ a.tail) ++ s.after)

def rest (a : SecureAddress) : List Char :=
  Url.strip (Text.trim a.tail)

/-- The URL that the address stands for on the host that its name is read as. -/
def url (a : SecureAddress) (host : Url.Host) : Url :=
  Url.secure host (Url.rootedPath .web (Url.splitTail a.rest).1)
    ((Url.splitTail a.rest).2.1.map (Url.encode Url.inSpecialQuerySet))
    ((Url.splitTail a.rest).2.2.map (Url.encode Url.inFragmentSet))

theorem visible_tail (a : SecureAddress) : ∀ c ∈ a.tail.head?, Url.isVisible c = true :=
  Url.isVisible_of_ends a.ends

theorem head?_rest (a : SecureAddress) : a.rest.head? = a.tail.head? :=
  Url.head?_strip_trim a.visible_tail

theorem rooted_rest (a : SecureAddress) : ∀ c ∈ (Url.splitTail a.rest).1.head?, c = '/' :=
  Url.rooted_splitTail (a.head?_rest ▸ a.ends)

/-- The text of the URL is its own normal form. -/
theorem normalizeUrl_text_url {host : Url.Host} (read : Url.host? a.host = some host) :
    normalizeUrl (String.ofList (a.url host).text) = some (String.ofList (a.url host).text) :=
  normalizeUrl_text_secure (Url.writtenHost_of_host? a.named a.unencoded read)
    (Url.writtenTail_encode _ _ _)

namespace Spelling

variable (s : a.Spelling)

theorem named : ∀ c ∈ s.host, Url.isNameChar c = true := by
  intro c member
  have lower : Text.lowerAscii c ∈ a.host.map Text.lowerAscii :=
    s.sameHost ▸ List.mem_map_of_mem member
  obtain ⟨d, place, same⟩ := List.mem_map.mp lower
  exact Url.isNameChar_of_lowerAscii (same ▸ Url.isNameChar_lowerAscii (a.named d place))

theorem something : s.host ≠ [] := by
  intro empty
  have same := s.sameHost
  rw [empty] at same
  exact a.something (List.map_eq_nil_iff.mp same.symm)

/-- The letter case of a host does not count. -/
theorem host?_host : Url.host? s.host = Url.host? a.host := by
  rw [Url.host?_of_named s.named (s.sameHost ▸ a.unencoded),
    Url.host?_of_named a.named a.unencoded, s.sameHost, if_neg s.something, if_neg a.something]

theorem isLetter_of_mem_scheme {c : Char} (member : c ∈ s.scheme) : Url.isLetter c = true := by
  rcases Url.isLetter_or_lowerAscii_eq c with letter | same
  · exact letter
  · have lower : c ∈ "https".toList := by
      rw [← s.sameScheme, ← same]
      exact List.mem_map_of_mem member
    have letters : "https".toList.all Url.isLetter = true := rfl
    exact List.all_eq_true.mp letters c lower

theorem eq_slash_of_mem {c : Char} (member : c ∈ s.slash) : c = '/' := by
  rcases s.slashed with absent | ⟨slash, -⟩
  · rw [absent] at member
    cases member
  · exact List.mem_singleton.mp (slash ▸ member)

theorem visible_front :
    ∀ c ∈ s.scheme ++ "://".toList ++ s.host ++ s.port ++ s.slash, Url.isVisible c = true := by
  simp only [List.forall_mem_append]
  refine ⟨⟨⟨⟨fun c member => ?_, List.all_eq_true.mp rfl⟩, fun c member => ?_⟩, ?_⟩,
    fun c member => ?_⟩
  · refine Url.isVisible_of_isNameChar ?_
    rw [Url.isNameChar, s.isLetter_of_mem_scheme member]
    rfl
  · exact Url.isVisible_of_isNameChar (s.named c member)
  · rcases s.implied with absent | implied
    · simp [absent]
    · rw [implied]
      exact List.all_eq_true.mp rfl
  · rw [s.eq_slash_of_mem member]
    rfl

/-- What is read of a spelling. -/
theorem splitScheme?_text :
    Url.splitScheme? (Url.strip (Text.trim s.text.toList)) =
      some ("https".toList, ['/', '/'] ++ (s.host ++ (s.port ++ (s.slash ++ a.rest)))) := by
  have letter : s.scheme.head?.any Url.isLetter = true := by
    cases scheme : s.scheme with
    | nil =>
      have same := s.sameScheme
      rw [scheme] at same
      cases same
    | cons c rest => exact s.isLetter_of_mem_scheme (scheme ▸ List.mem_cons_self)
  have named : ∀ c ∈ s.scheme, Url.isSchemeChar c = true := by
    intro c member
    rw [Url.isSchemeChar, s.isLetter_of_mem_scheme member]
    rfl
  have colon (after : List Char) : ∀ c ∈ (':' :: after).head?, Url.isSchemeChar c = false := by
    rintro _ ⟨⟩
    rfl
  rw [text, String.toList_ofList, Text.trim_append_append s.blank,
    Url.strip_trim_append s.visible_front a.visible_tail, ← s.sameScheme, ← rest]
  simp only [List.append_assoc]
  exact Url.splitScheme?_append letter named (colon _)

theorem splitTail_slash :
    Url.splitTail (s.slash ++ a.rest) =
      (s.slash ++ (Url.splitTail a.rest).1, (Url.splitTail a.rest).2) := by
  refine Url.splitTail_append (fun c member => ?_) _
  rw [s.eq_slash_of_mem member]
  decide

/-- A slash where no path begins is the path that would be there without it. -/
theorem rootedPath_slash :
    Url.rootedPath .web (s.slash ++ (Url.splitTail a.rest).1) =
      Url.rootedPath .web (Url.splitTail a.rest).1 := by
  rcases s.slashed with absent | ⟨slash, noPath⟩
  · rw [absent, List.nil_append]
  · have nothing : (Url.splitTail a.rest).1 = [] := by
      by_contra something
      obtain ⟨c, more, path⟩ := List.exists_cons_of_ne_nil something
      have first : (Url.splitTail a.rest).1.head? = some c := congrArg List.head? path
      obtain rfl := a.rooted_rest c first
      rw [Url.splitTail_fst, List.head?_takeWhile] at first
      exact noPath (a.head?_rest ▸ (Option.filter_eq_some_iff.mp first).1)
    rw [slash, nothing]
    rfl

theorem rooted_slash : ∀ c ∈ (s.slash ++ (Url.splitTail a.rest).1).head?, c = '/' := by
  rcases s.slashed with absent | ⟨slash, -⟩
  · rw [absent, List.nil_append]
    exact a.rooted_rest
  · rw [slash]
    rintro _ ⟨⟩
    rfl

/-- Every spelling stands for the URL of the address. -/
theorem normalizeUrl_text :
    normalizeUrl s.text = (Url.host? a.host).map fun host => String.ofList (a.url host).text := by
  have named : Url.host? s.host ≠ some (.name []) := by
    rw [s.host?_host]
    exact fun read => (Url.writtenHost_of_host? a.named a.unencoded read).something rfl
  have rooted : ∀ c ∈ (Url.splitTail (s.slash ++ a.rest)).1.head?, c = '/' := by
    rw [s.splitTail_slash]
    exact s.rooted_slash
  rw [normalizeUrl_of_scheme s.splitScheme?_text,
    Url.ofScheme?_secure s.named s.something s.implied named rooted, s.host?_host,
    s.splitTail_slash, s.rootedPath_slash, Option.map_map]
  rfl

end Spelling

theorem host?_eq_none_iff (a : SecureAddress) :
    Url.host? a.host = none ↔
      Url.endsInNumber (a.host.map Text.lowerAscii) = true ∧
        Url.ipv4? (a.host.map Text.lowerAscii) = none := by
  rw [Url.host?_of_named a.named a.unencoded, if_neg a.something]
  split
  · rename_i number
    simp [number]
  · rename_i name
    simp [name]

end SecureAddress

/-- All spellings of an address of the secure web have the same normal form, or none of them has
one, which is so exactly when the name of the host ends in a number and writes no address of four
octets. The normal form is the text of the URL on the host that the name is read as; it is its own
normal form, and all spellings equal it. -/
theorem spellings_normalized_alike {a : SecureAddress} (s : a.Spelling) :
    (normalizeUrl s.text = none ↔
      Url.endsInNumber (a.host.map Text.lowerAscii) = true ∧
        Url.ipv4? (a.host.map Text.lowerAscii) = none) ∧
    (∀ t : a.Spelling, normalizeUrl t.text = normalizeUrl s.text) ∧
    ∀ n, normalizeUrl s.text = some n →
      (∃ host, Url.host? a.host = some host ∧ n = String.ofList (a.url host).text) ∧
        normalizeUrl n = some n ∧ ∀ t : a.Spelling, urlEquals t.text n = true := by
  have alike (t : a.Spelling) : normalizeUrl t.text = normalizeUrl s.text :=
    t.normalizeUrl_text.trans s.normalizeUrl_text.symm
  refine ⟨?_, alike, fun n normal => ?_⟩
  · rw [s.normalizeUrl_text, Option.map_eq_none_iff, a.host?_eq_none_iff]
  · have form := normal
    rw [s.normalizeUrl_text] at form
    obtain ⟨host, read, rfl⟩ := Option.map_eq_some_iff.mp form
    have fixed := a.normalizeUrl_text_url read
    refine ⟨⟨host, read, rfl⟩, fixed, fun t => ?_⟩
    rw [urlEquals_eq_true_iff, alike t, normal, fixed]
    exact ⟨rfl, rfl⟩

namespace Sample

def numericAddress : SecureAddress where
  host := "0X7f.1".toList
  tail := "/a/%2E./\\b?x y".toList
  something := nofun
  named := List.all_eq_true.mp rfl
  unencoded := by decide
  ends := by
    rintro _ ⟨⟩
    exact .inl rfl

def numericSpelling : numericAddress.Spelling where
  before := " ".toList
  scheme := "HTTPS".toList
  host := "0x7F.1".toList
  port := ":443".toList
  slash := []
  after := "\n".toList
  blank := List.all_eq_true.mp rfl
  sameScheme := by decide
  sameHost := by decide
  implied := .inr rfl
  slashed := .inl rfl

end Sample

theorem numeric_address_normalized :
    normalizeUrl Sample.numericSpelling.text = some "https://127.0.0.1//b?x%20y" ∧
      normalizeUrl "https://127.0.0.1//b?x%20y" = some "https://127.0.0.1//b?x%20y" ∧
      urlEquals Sample.numericSpelling.text "https://127.0.0.1//b?x%20y" = true := by
  have normal : normalizeUrl Sample.numericSpelling.text = some "https://127.0.0.1//b?x%20y" := by
    decide +kernel
  obtain ⟨-, -, told⟩ := spellings_normalized_alike Sample.numericSpelling
  obtain ⟨-, fixed, equal⟩ := told _ normal
  exact ⟨normal, fixed, equal Sample.numericSpelling⟩

end FederationTrust
