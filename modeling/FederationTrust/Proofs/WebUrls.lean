import FederationTrust.Proofs.HostNames
import FederationTrust.Url.Normal

/-!
# How a text is read as a URL

The scheme of a URL is what its text begins with up to the first colon, and the text of the URL
begins with it again. A URL of the web goes on with its authority.
-/

namespace FederationTrust

namespace Url

def isVisible (c : Char) : Bool :=
  0x20 < c.toNat && c.toNat < 0x7F

section Reading

variable {c : Char} {s front rest scheme : List Char}

theorem isBlank_of_isVisible (visible : isVisible c = true) : Text.isBlank c = false := by
  simp only [isVisible, Bool.and_eq_true, decide_eq_true_eq] at visible
  simp only [Text.isBlank, Bool.or_eq_false_iff, Bool.and_eq_false_iff, decide_eq_false_iff_not]
  omega

theorem isMargin_of_isVisible (visible : isVisible c = true) : isMargin c = false := by
  simp only [isVisible, Bool.and_eq_true, decide_eq_true_eq] at visible
  exact decide_eq_false (Nat.not_le_of_lt visible.1)

theorem isVisible_of_isNameChar (named : isNameChar c = true) : isVisible c = true :=
  forall_isNameChar (P := fun c => isVisible c = true) (by decide +kernel) named

theorem isCounted_of_isVisible (visible : isVisible c = true) :
    (c ≠ '\t' && c ≠ '\n' && c ≠ '\r') = true := by
  have other {d : Char} (unseen : isVisible d = false) : c ≠ d := by
    rintro rfl
    rw [visible] at unseen
    cases unseen
  rw [decide_eq_true (other rfl), decide_eq_true (other rfl), decide_eq_true (other rfl)]
  rfl

theorem head?_strip (begins : ∀ c ∈ s.head?, isVisible c = true) : (strip s).head? = s.head? := by
  cases s with
  | nil => rfl
  | cons c rest =>
    have visible : isVisible c = true := begins c rfl
    have solid : ∀ d ∈ [c], isMargin d = false := fun d member =>
      List.mem_singleton.mp member ▸ isMargin_of_isVisible visible
    rw [strip, Text.dropWhile_of_head fun d first => isMargin_of_isVisible (begins d first),
      ← List.singleton_append, Text.dropEndWhile_append solid, List.singleton_append,
      List.filter_cons, if_pos (isCounted_of_isVisible visible)]
    rfl

/-- Margins, tabs and line ends of a text are those of what follows visible characters. -/
theorem strip_append (visible : ∀ c ∈ front, isVisible c = true)
    (begins : ∀ c ∈ rest.head?, isVisible c = true) :
    strip (front ++ rest) = front ++ strip rest := by
  have solid : ∀ c ∈ front, isMargin c = false := fun c member =>
    isMargin_of_isVisible (visible c member)
  have head : ∀ c ∈ (front ++ rest).head?, isMargin c = false := by
    cases front with
    | nil => exact fun c first => isMargin_of_isVisible (begins c first)
    | cons c rest => rintro _ ⟨⟩; exact solid c List.mem_cons_self
  rw [strip, strip, Text.dropWhile_of_head head,
    Text.dropWhile_of_head fun c first => isMargin_of_isVisible (begins c first),
    Text.dropEndWhile_append solid, List.filter_append,
    List.filter_eq_self.mpr fun c member => isCounted_of_isVisible (visible c member)]

theorem head?_strip_trim (begins : ∀ c ∈ s.head?, isVisible c = true) :
    (strip (Text.trim s)).head? = s.head? := by
  have trimmed : (Text.trim s).head? = s.head? :=
    Text.head?_trim fun c first => isBlank_of_isVisible (begins c first)
  rw [head?_strip (trimmed ▸ begins), trimmed]

/-- What is read of a text behind visible characters. -/
theorem strip_trim_append (visible : ∀ c ∈ front, isVisible c = true)
    (begins : ∀ c ∈ rest.head?, isVisible c = true) :
    strip (Text.trim (front ++ rest)) = front ++ strip (Text.trim rest) := by
  have blank : ∀ c ∈ rest.head?, Text.isBlank c = false := fun c first =>
    isBlank_of_isVisible (begins c first)
  rw [Text.trim_append (fun c member => isBlank_of_isVisible (visible c member)) blank,
    strip_append visible (Text.head?_trim blank ▸ begins)]

/-- A text has a scheme exactly when the characters of one are followed by a colon. -/
theorem splitScheme?_append (letter : scheme.head?.any isLetter = true)
    (named : ∀ c ∈ scheme, isSchemeChar c = true)
    (ends : ∀ c ∈ rest.head?, isSchemeChar c = false) :
    splitScheme? (scheme ++ rest) =
      if rest.head? = some ':' then some (scheme.map Text.lowerAscii, rest.drop 1) else none := by
  cases scheme with
  | nil => cases letter
  | cons c more =>
    have letter : isLetter c = true := letter
    have whole := Text.takeWhile_append_of_head named ends
    have left : ((c :: more) ++ rest).dropWhile isSchemeChar = rest := by
      rw [List.dropWhile_append_of_pos named, Text.dropWhile_of_head ends]
    rw [List.cons_append] at whole left ⊢
    rw [splitScheme?, if_pos letter, left, whole]
    split
    · rfl
    · rename_i uncoloned
      rw [if_neg]
      intro colon
      obtain ⟨after, rfl⟩ := List.head?_eq_some_iff.mp colon
      exact uncoloned after rfl

theorem splitTail_append (plain : ∀ c ∈ front, c ≠ '?' ∧ c ≠ '#') (rest : List Char) :
    splitTail (front ++ rest) = (front ++ (splitTail rest).1, (splitTail rest).2) := by
  have inside : ∀ c ∈ front, (c ≠ '?' && c ≠ '#') = true := by
    intro c member
    rw [decide_eq_true (plain c member).1, decide_eq_true (plain c member).2]
    rfl
  simp only [splitTail, List.takeWhile_append_of_pos inside, List.length_append,
    List.drop_length_add_append]
  split
  · split <;> rfl
  · rfl
  · rfl

theorem schemeKind_https : schemeKind "https".toList = .web := rfl

theorem ofScheme?_eq_of_web (web : schemeKind scheme = .web) (s : List Char) :
    ofScheme? scheme s =
      (authority? scheme ((splitTail s).2.1.isSome || (splitTail s).2.2.isSome)
        ((splitTail s).1.dropWhile (isSlash .web))).map fun found =>
          ⟨scheme, some found.1, rootedPath .web found.2,
            (splitTail s).2.1.map (encode inSpecialQuerySet),
            (splitTail s).2.2.map (encode inFragmentSet)⟩ := by
  simp only [ofScheme?, web, Option.bind_eq_bind, Option.map_eq_bind]
  rfl

/-- A URL of the web has its authority behind any slashes, and its path, query and fragment from
what follows. -/
theorem ofScheme?_append_of_web {body : List Char} (web : schemeKind scheme = .web)
    (slashes : List Char) (slashed : ∀ c ∈ slashes, isSlash .web c = true)
    (plain : ∀ c ∈ body, c ≠ '?' ∧ c ≠ '#')
    (begins : ∀ c ∈ (body ++ (splitTail rest).1).head?, isSlash .web c = false) :
    ofScheme? scheme (slashes ++ (body ++ rest)) =
      (authority? scheme ((splitTail rest).2.1.isSome || (splitTail rest).2.2.isSome)
        (body ++ (splitTail rest).1)).map fun found =>
          ⟨scheme, some found.1, rootedPath .web found.2,
            (splitTail rest).2.1.map (encode inSpecialQuerySet),
            (splitTail rest).2.2.map (encode inFragmentSet)⟩ := by
  have front : ∀ c ∈ slashes, c ≠ '?' ∧ c ≠ '#' := by
    intro c member
    constructor <;> rintro rfl <;> cases slashed _ member
  have main : (slashes ++ (body ++ (splitTail rest).1)).dropWhile (isSlash .web) =
      body ++ (splitTail rest).1 := by
    rw [List.dropWhile_append_of_pos slashed, Text.dropWhile_of_head begins]
  rw [ofScheme?_eq_of_web web, splitTail_append front, splitTail_append plain, main]

theorem scheme_of_ofScheme? {u : Url} (read : ofScheme? scheme s = some u) : u.scheme = scheme := by
  have built {α : Type} {found : Option α} {url : α → Url} (same : ∀ a, (url a).scheme = scheme)
      (read : (found.bind fun a => some (url a)) = some u) : u.scheme = scheme := by
    obtain ⟨a, _, rfl⟩ := Option.map_eq_some_iff.mp ((Option.map_eq_bind ..).trans read)
    exact same a
  simp only [ofScheme?, Option.bind_eq_bind] at read
  split at read
  · exact built (fun _ => rfl) read
  · exact built (fun _ => rfl) read
  · split at read
    · exact built (fun _ => rfl) read
    · cases read
      rfl
    · cases read
      rfl

theorem splitTail_fst (s : List Char) :
    (splitTail s).1 = s.takeWhile fun c => c ≠ '?' && c ≠ '#' := by
  unfold splitTail
  dsimp only
  split
  · split <;> rfl
  · rfl
  · rfl

theorem isVisible_of_ends (ends : ∀ c ∈ s.head?, c = '/' ∨ c = '?' ∨ c = '#') :
    ∀ c ∈ s.head?, isVisible c = true := by
  intro c first
  rcases ends c first with rfl | rfl | rfl <;> rfl

/-- Up to a query or a fragment there is nothing, or what begins with a slash. -/
theorem rooted_splitTail (ends : ∀ c ∈ s.head?, c = '/' ∨ c = '?' ∨ c = '#') :
    ∀ c ∈ (splitTail s).1.head?, c = '/' := by
  rw [splitTail_fst, List.head?_takeWhile]
  intro c first
  obtain ⟨here, inside⟩ := Option.filter_eq_some_iff.mp first
  rcases ends c here with rfl | rfl | rfl
  · rfl
  · cases inside
  · cases inside

theorem isSome_file?_of_unslashed (begins : ∀ c ∈ s.head?, isSlash .file c = false) :
    (file? s).isSome = true := by
  unfold file?
  dsimp only
  split
  · rename_i a b rest
    have unslashed : ¬(isSlash .file a && isSlash .file b) = true := by
      rw [begins a rfl]
      exact Bool.false_ne_true
    rw [if_neg unslashed]
    rfl
  · rfl

/-- Outside the web, a text without a slash at its beginning always stands for a URL. -/
theorem isSome_ofScheme?_of_unslashed (unweb : schemeKind scheme ≠ .web)
    (begins : ∀ c ∈ s.head?, isSlash .file c = false) : (ofScheme? scheme s).isSome = true := by
  have main : ∀ c ∈ (splitTail s).1.head?, isSlash .file c = false := by
    rw [splitTail_fst, List.head?_takeWhile]
    exact fun c member => begins c (Option.filter_eq_some_iff.mp member).1
  simp only [ofScheme?]
  cases kind : schemeKind scheme with
  | web => exact absurd kind unweb
  | file =>
    obtain ⟨found, read⟩ := Option.isSome_iff_exists.mp (isSome_file?_of_unslashed main)
    simp [read]
  | other =>
    dsimp only
    split
    · rename_i slashed
      have slash := main '/' (slashed ▸ rfl)
      cases slash
    · rfl
    · rfl

end Reading

section Writing

/-- The text of a URL begins with its scheme and a colon. -/
theorem text_eq_scheme_append (u : Url) : ∃ rest, u.text = u.scheme ++ ':' :: rest := by
  simp only [text, List.append_assoc, List.cons_append]
  exact ⟨_, rfl⟩

/-- Without credentials, two slashes and the host follow. -/
theorem text_eq_host_append {u : Url} {a : Authority} (authority : u.authority = some a)
    (user : a.user = []) (password : a.password = []) :
    ∃ rest, u.text = u.scheme ++ ':' :: '/' :: '/' :: (a.host.text ++ rest) := by
  simp only [text, authority, Authority.text, user, password, List.isEmpty_nil, if_true,
    List.append_nil, List.nil_append, List.append_assoc, List.cons_append]
  exact ⟨_, rfl⟩

theorem ipv4Text_eq_digit_append (address : Nat) :
    ∃ c rest, ipv4Text address = c :: rest ∧ c.isDigit = true := by
  obtain ⟨c, rest, digits⟩ := List.exists_cons_of_ne_nil
    (Nat.toDigits_ne_nil (n := address / Nat.pow 256 3 % 256) (b := 10))
  have digit : c.isDigit = true :=
    Nat.isDigit_of_mem_toDigits (b := 10) (by decide) (by decide)
      (digits ▸ List.mem_cons_self)
  simp only [ipv4Text, digits, List.cons_append]
  exact ⟨c, _, rfl, digit⟩

end Writing

end Url

section Normal

variable {s : String} {scheme after : List Char}

theorem normalizeUrl_of_scheme
    (read : Url.splitScheme? (Url.strip (Text.trim s.toList)) = some (scheme, after)) :
    normalizeUrl s = (Url.ofScheme? scheme after).map fun u => String.ofList u.text := by
  simp only [normalizeUrl, Url.parse, read]
  cases Url.ofScheme? scheme after <;> rfl

/-- Without a scheme, the URL is the one of the text behind the scheme of the secure web. -/
theorem normalizeUrl_of_no_scheme
    (absent : Url.splitScheme? (Url.strip (Text.trim s.toList)) = none)
    (read : Url.splitScheme? (Url.strip ("https://".toList ++ Text.trim s.toList)) =
      some (scheme, after)) :
    normalizeUrl s = (Url.ofScheme? scheme after).map fun u => String.ofList u.text := by
  simp only [normalizeUrl, Url.parse, absent, read]
  cases Url.ofScheme? scheme after <;> rfl

theorem urlEquals_eq_true_iff (s t : String) :
    urlEquals s t = true ↔ normalizeUrl s = normalizeUrl t ∧ (normalizeUrl t).isSome = true := by
  rw [urlEquals]
  cases normalizeUrl s <;> cases normalizeUrl t <;> simp

end Normal

end FederationTrust
