import FederationTrust.Proofs.DecimalTexts
import FederationTrust.Proofs.WrittenPaths

/-!
# Written URLs read back

The text of a URL of the secure web without credentials and port stands for that URL, and is its
own normal form: its host is the name or the address of four octets that it was, and its path, its
query and its fragment were written with what is not encoded again.
-/

namespace FederationTrust

namespace Url

section Addresses

variable {name : List Char} {n : Nat}

/-- The octets of an address, the highest first. -/
def addressOctets (n : Nat) : List Nat :=
  [n / 256 ^ 3 % 256, n / 256 ^ 2 % 256, n / 256 % 256, n % 256]

theorem ipv4Text_eq (n : Nat) :
    ipv4Text n = ['.'].intercalate ((addressOctets n).map (Nat.toDigits 10)) := by
  simp [ipv4Text, addressOctets, List.intercalate_cons_cons, List.intercalate_singleton]

theorem ipv4Text_ne_nil (n : Nat) : ipv4Text n ≠ [] := by
  obtain ⟨c, rest, begins, -⟩ := ipv4Text_eq_digit_append n
  exact begins ▸ List.cons_ne_nil c rest

theorem lt_of_mem_addressOctets {k : Nat} (member : k ∈ addressOctets n) : k < 256 := by
  simp only [addressOctets, List.mem_cons, List.not_mem_nil, or_false] at member
  omega

/-- Decimal forms of octets are labels that write these octets. -/
theorem labelNumber?_toDigits {k : Nat} (small : k < 256) :
    labelNumber? (Nat.toDigits 10 k) = some k :=
  (by decide +kernel : ∀ k < 256, labelNumber? (Nat.toDigits 10 k) = some k) k small

theorem exists_digits?_of_mem {label : List Char}
    (member : label ∈ (addressOctets n).map (Nat.toDigits 10)) :
    ∃ k, Text.digits? label = some k := by
  obtain ⟨k, -, rfl⟩ := List.mem_map.mp member
  exact ⟨k, Text.digits?_toDigits k⟩

theorem splitAt_ipv4Text (n : Nat) :
    Text.splitAt '.' (ipv4Text n) = (addressOctets n).map (Nat.toDigits 10) := by
  rw [ipv4Text_eq]
  refine Text.splitAt_intercalate ?_ (by simp [addressOctets])
  intro label among
  obtain ⟨k, read⟩ := exists_digits?_of_mem among
  exact notMem_of_digits? read rfl

theorem mem_ipv4Text {c : Char} (member : c ∈ ipv4Text n) :
    c = '.' ∨ (Text.digit? c).isSome = true := by
  rw [ipv4Text_eq] at member
  refine (Text.mem_of_mem_intercalate member).imp_right ?_
  rintro ⟨label, among, inside⟩
  obtain ⟨k, read⟩ := exists_digits?_of_mem among
  exact Text.isSome_digit?_of_digits? read c inside

theorem isNameChar_of_mem_ipv4Text {c : Char} (member : c ∈ ipv4Text n) : isNameChar c = true := by
  rcases mem_ipv4Text member with rfl | digit
  · rfl
  · exact isNameChar_of_digit? digit

theorem map_lowerAscii_ipv4Text (n : Nat) : (ipv4Text n).map Text.lowerAscii = ipv4Text n := by
  refine (List.map_congr_left fun c member => ?_).trans (List.map_id _)
  rcases mem_ipv4Text member with rfl | digit
  · rfl
  · exact lowerAscii_of_digit? digit

theorem hostLabels_ipv4Text (n : Nat) :
    hostLabels (ipv4Text n) = (addressOctets n).map (Nat.toDigits 10) := by
  rw [hostLabels, splitAt_ipv4Text, if_neg]
  intro last
  have empty : Nat.toDigits 10 (n % 256) = [] := Option.some.inj last
  exact Nat.toDigits_ne_nil empty

/-- Octets of an address join to that address. -/
theorem joinAddress?_addressOctets (small : n < 256 ^ 4) :
    joinAddress? (addressOctets n) = some n := by
  have limit : Nat.pow 256 (4 - 3) = 256 := rfl
  have fits : ¬(3 < 3 ∨ [n / 256 % 256, n / 256 ^ 2 % 256, n / 256 ^ 3 % 256].any (255 < ·) = true ∨
      Nat.pow 256 (4 - 3) ≤ n % 256) := by
    simp only [List.any_cons, List.any_nil, Bool.or_false, Bool.or_eq_true, decide_eq_true_eq]
    omega
  have joined : (((0 * 256 + n / 256 ^ 3 % 256) * 256 + n / 256 ^ 2 % 256) * 256 +
      n / 256 % 256) * 256 + n % 256 = n := by omega
  exact (if_neg fits).trans (congrArg some joined)

/-- An address is read from its text. -/
theorem ipv4?_ipv4Text (small : n < 256 ^ 4) : ipv4? (ipv4Text n) = some n := by
  have numbers : ((addressOctets n).map (Nat.toDigits 10)).mapM labelNumber? =
      some (addressOctets n) := by
    rw [Json.mapM_eq_some_iff, List.map_map]
    exact List.map_congr_left fun k member =>
      labelNumber?_toDigits (lt_of_mem_addressOctets member)
  rw [ipv4?, hostLabels_ipv4Text, numbers, Option.bind_some, joinAddress?_addressOctets small]

/-- Octets with a number before them stay below the next power of 256. -/
theorem foldl_octets_lt {l : List Nat} (octets : ∀ d ∈ l, d < 256) (start : Nat) :
    l.foldl (fun n d => n * 256 + d) start < (start + 1) * 256 ^ l.length := by
  induction l generalizing start with
  | nil => simp
  | cons d rest ih =>
    rw [List.forall_mem_cons] at octets
    rw [List.foldl_cons, List.length_cons, Nat.pow_succ', ← Nat.mul_assoc]
    refine Nat.lt_of_lt_of_le (ih octets.2 _) (Nat.mul_le_mul_right _ ?_)
    omega

/-- Four octets hold what numbers join to. -/
theorem lt_of_joinAddress? {numbers : List Nat} (joined : joinAddress? numbers = some n) :
    n < 256 ^ 4 := by
  unfold joinAddress? at joined
  split at joined
  · cases joined
  · rename_i last before reversed
    dsimp only at joined
    split at joined
    · cases joined
    · rename_i fits
      obtain rfl := Option.some.inj joined
      simp only [not_or, Nat.not_lt, Nat.not_le] at fits
      obtain ⟨few, notLarge, small⟩ := fits
      have octets : ∀ d ∈ before.reverse, d < 256 := by
        intro d member
        have within := mt (List.any_eq_true.mpr ⟨d, List.mem_reverse.mp member, ·⟩) notLarge
        simpa [Nat.lt_succ_iff] using within
      have front := foldl_octets_lt octets 0
      rw [Nat.zero_add, Nat.one_mul, List.length_reverse] at front
      calc before.reverse.foldl (fun n d => n * 256 + d) 0 * 256 ^ (4 - before.length) + last
          < (before.reverse.foldl (fun n d => n * 256 + d) 0 + 1) * 256 ^ (4 - before.length) := by
            rw [Nat.add_mul, Nat.one_mul]
            exact Nat.add_lt_add_left small _
        _ ≤ 256 ^ before.length * 256 ^ (4 - before.length) := Nat.mul_le_mul_right _ front
        _ = 256 ^ 4 := by
            rw [← Nat.pow_add]
            congr 1
            omega

theorem lt_of_ipv4? (read : ipv4? name = some n) : n < 256 ^ 4 := by
  obtain ⟨numbers, -, joined⟩ := Option.bind_eq_some_iff.mp read
  exact lt_of_joinAddress? joined

theorem endsInNumber_ipv4Text (n : Nat) : endsInNumber (ipv4Text n) = true := by
  rw [endsInNumber, hostLabels_ipv4Text]
  show (isDigits (Nat.toDigits 10 (n % 256)) || _) = true
  rw [isDigits_of_digits? (Text.digits?_toDigits _), Bool.true_or]

theorem host?_ipv4Text (small : n < 256 ^ 4) : host? (ipv4Text n) = some (.ipv4 n) := by
  have unencoded : (Text.splitAt '.' (ipv4Text n)).any Idna.isEncoded = false := by
    rw [splitAt_ipv4Text, List.any_eq_false]
    intro label among
    obtain ⟨k, read⟩ := exists_digits?_of_mem among
    exact Bool.eq_false_iff.mp (isEncoded_of_digits? read)
  rw [host?_of_named (fun _ => isNameChar_of_mem_ipv4Text) (by rwa [map_lowerAscii_ipv4Text]),
    map_lowerAscii_ipv4Text, if_neg (ipv4Text_ne_nil n), if_pos (endsInNumber_ipv4Text n),
    ipv4?_ipv4Text small, Option.map_some]

end Addresses

section Hosts

variable {name : List Char} {host : Host}

/-- A host that was read from a name, as URLs have it: its text is a name without encoded labels,
and stands for the host. -/
structure WrittenHost (host : Host) : Prop where
  named : ∀ c ∈ host.text, isNameChar c = true
  something : host.text ≠ []
  reads : host? host.text = some host

theorem writtenHost_of_host? (named : ∀ c ∈ name, isNameChar c = true)
    (unencoded : (Text.splitAt '.' (name.map Text.lowerAscii)).any Idna.isEncoded = false)
    (read : host? name = some host) : WrittenHost host := by
  have lowerNamed : ∀ c ∈ name.map Text.lowerAscii, isNameChar c = true :=
    List.forall_mem_map.mpr fun c member => isNameChar_lowerAscii (named c member)
  have lower : (name.map Text.lowerAscii).map Text.lowerAscii = name.map Text.lowerAscii := by
    rw [List.map_map]
    exact List.map_congr_left fun c member => lowerAscii_lowerAscii (named c member)
  rw [host?_of_named named unencoded] at read
  split at read
  · cases read
  · rename_i something
    have something : name.map Text.lowerAscii ≠ [] := mt List.map_eq_nil_iff.mp something
    split at read
    · obtain ⟨n, octets, rfl⟩ := Option.map_eq_some_iff.mp read
      exact ⟨fun _ => isNameChar_of_mem_ipv4Text, ipv4Text_ne_nil n,
        host?_ipv4Text (lt_of_ipv4? octets)⟩
    · rename_i unnumbered
      obtain rfl := Option.some.inj read
      refine ⟨lowerNamed, something, ?_⟩
      rw [Host.text, host?_of_named lowerNamed (by rwa [lower]), lower, if_neg something,
        if_neg unnumbered]

end Hosts

section Secure

variable {host : Host} {path : Path} {query fragment : Option (List Char)} {c : Char}
  {name port rest : List Char}

def secure (host : Host) (path : Path) (query fragment : Option (List Char)) : Url :=
  ⟨"https".toList, some ⟨[], [], host, none⟩, path, query, fragment⟩

def tailText : Option (List Char) → Option (List Char) → List Char
  | none, none => []
  | none, some fragment => '#' :: fragment
  | some query, none => '?' :: query
  | some query, some fragment => '?' :: (query ++ '#' :: fragment)

theorem text_secure (host : Host) (path : Path) (query fragment : Option (List Char)) :
    (secure host path query fragment).text =
      "https".toList ++
        ':' :: (['/', '/'] ++ (host.text ++ (path.text ++ tailText query fragment))) := by
  cases query <;> cases fragment <;> simp [secure, text, Authority.text, tailText]

theorem splitTail_query (rest : List Char) :
    splitTail ('?' :: rest) =
      match rest.drop (rest.takeWhile (· ≠ '#')).length with
      | _ :: fragment => ([], some (rest.takeWhile (· ≠ '#')), some fragment)
      | [] => ([], some (rest.takeWhile (· ≠ '#')), none) :=
  rfl

/-- Query and fragment are read back. -/
theorem splitTail_tailText (plain : ∀ q ∈ query, '#' ∉ q) :
    splitTail (tailText query fragment) = ([], query, fragment) := by
  cases query with
  | none => cases fragment <;> rfl
  | some q =>
    have inside : ∀ c ∈ q, (decide (c ≠ '#')) = true := fun c member =>
      decide_eq_true (ne_of_mem_of_not_mem member (plain q rfl))
    cases fragment with
    | none =>
      have whole : q.takeWhile (· ≠ '#') = q := List.takeWhile_eq_self_iff.mpr inside
      rw [tailText, splitTail_query, whole, List.drop_length]
    | some f =>
      have whole : (q ++ '#' :: f).takeWhile (· ≠ '#') = q :=
        Text.takeWhile_append_of_head inside (by rintro _ ⟨⟩; rfl)
      rw [tailText, splitTail_query, whole, List.drop_left]

/-- Path, query and fragment of a URL of the web as they are written. -/
structure WrittenTail (path : Path) (query fragment : Option (List Char)) : Prop where
  path : WrittenPath path
  query : ∀ q ∈ query, ∀ c ∈ q, Stays inSpecialQuerySet c
  fragment : ∀ f ∈ fragment, ∀ c ∈ f, Stays inFragmentSet c

theorem writtenTail_encode (text : List Char) (query fragment : Option (List Char)) :
    WrittenTail (rootedPath .web text) (query.map (encode inSpecialQuerySet))
      (fragment.map (encode inFragmentSet)) := by
  refine ⟨writtenPath_rootedPath text, ?_, ?_⟩
  · rintro _ written
    obtain ⟨q, -, rfl⟩ := Option.map_eq_some_iff.mp written
    exact fun _ => encodedSet_specialQuery.stays_of_mem
  · rintro _ written
    obtain ⟨f, -, rfl⟩ := Option.map_eq_some_iff.mp written
    exact fun _ => encodedSet_fragment.stays_of_mem

theorem mem_tailText (member : c ∈ tailText query fragment) :
    c = '?' ∨ c = '#' ∨ (∃ q ∈ query, c ∈ q) ∨ ∃ f ∈ fragment, c ∈ f := by
  cases query <;> cases fragment <;> simp [tailText] at member ⊢ <;> grind

namespace WrittenTail

variable (tail : WrittenTail path query fragment)

include tail

theorem isVisible_of_mem_text (member : c ∈ path.text ++ tailText query fragment) :
    isVisible c = true := by
  rcases List.mem_append.mp member with ofPath | behind
  · rcases tail.path.mem_text ofPath with rfl | stays
    · rfl
    · exact encodedSet_path.isVisible_of_stays stays
  · rcases mem_tailText behind with rfl | rfl | ⟨q, written, inside⟩ | ⟨f, written, inside⟩
    · rfl
    · rfl
    · exact encodedSet_specialQuery.isVisible_of_stays (tail.query q written c inside)
    · exact encodedSet_fragment.isVisible_of_stays (tail.fragment f written c inside)

theorem splitTail_text :
    splitTail (path.text ++ tailText query fragment) = (path.text, query, fragment) := by
  have plain : ∀ c ∈ path.text, c ≠ '?' ∧ c ≠ '#' := by
    intro c member
    rcases tail.path.mem_text member with rfl | stays
    · decide
    · constructor <;> rintro rfl <;> cases stays.2
  have whole : ∀ q ∈ query, '#' ∉ q := fun q written member =>
    absurd (tail.query q written '#' member).2 (by decide)
  rw [splitTail_append plain, splitTail_tailText whole, List.append_nil]

theorem encode_query : query.map (encode inSpecialQuerySet) = query := by
  cases query with
  | none => rfl
  | some q => exact congrArg some (encode_eq_self (tail.query q rfl))

theorem encode_fragment : fragment.map (encode inFragmentSet) = fragment := by
  cases fragment with
  | none => rfl
  | some f => exact congrArg some (encode_eq_self (tail.fragment f rfl))

end WrittenTail

/-- The scheme of the secure web implies its port, which is not written. -/
theorem authority?_of_implied_port (named : ∀ c ∈ name, isNameChar c = true)
    (implied : port = [] ∨ port = ":443".toList)
    (something : host? name ≠ some (.name []))
    (rooted : ∀ c ∈ rest.head?, c = '/') (hasMore : Bool) :
    authority? "https".toList hasMore (name ++ (port ++ rest)) =
      (host? name).map fun host => (⟨[], [], host, none⟩, rest) := by
  rcases implied with rfl | rfl
  · exact authority?_of_name_and_path rfl named rooted hasMore
  · have digits : Text.digits? "443".toList = some 443 := rfl
    refine (authority?_of_name_and_port rfl named digits (by decide) rooted hasMore).trans ?_
    cases read : host? name with
    | none => rfl
    | some host =>
      rw [Option.bind_some, if_neg fun nameless => something (read.trans (congrArg some nameless))]
      rfl

/-- A name behind the scheme of the secure web, with the port that this implies or without, is the
host of a URL that has its path, query and fragment from what follows. -/
theorem ofScheme?_secure (named : ∀ c ∈ name, isNameChar c = true) (something : name ≠ [])
    (implied : port = [] ∨ port = ":443".toList) (read : host? name ≠ some (.name []))
    (rooted : ∀ c ∈ (splitTail rest).1.head?, c = '/') :
    ofScheme? "https".toList (['/', '/'] ++ (name ++ (port ++ rest))) =
      (host? name).map fun host =>
        secure host (rootedPath .web (splitTail rest).1)
          ((splitTail rest).2.1.map (encode inSpecialQuerySet))
          ((splitTail rest).2.2.map (encode inFragmentSet)) := by
  have plain : ∀ c ∈ name ++ port, c ≠ '?' ∧ c ≠ '#' := by
    rw [List.forall_mem_append]
    refine ⟨fun c member => ⟨ne_of_isNameChar (named c member) rfl,
      ne_of_isNameChar (named c member) rfl⟩, ?_⟩
    rcases implied with rfl | rfl <;> simp
  have begins : ∀ c ∈ (name ++ port ++ (splitTail rest).1).head?, isSlash .web c = false := by
    rw [List.append_assoc]
    exact unslashed_append named something .web _
  have parts := ofScheme?_append_of_web schemeKind_https ['/', '/'] (List.all_eq_true.mp rfl)
    plain begins
  rw [List.append_assoc, List.append_assoc,
    authority?_of_implied_port named implied read rooted, Option.map_map] at parts
  exact parts

theorem splitScheme?_https (rest : List Char) :
    splitScheme? ("https".toList ++ ':' :: rest) = some ("https".toList, rest) :=
  splitScheme?_append rfl (List.all_eq_true.mp rfl) (by rintro _ ⟨⟩; rfl)

end Secure

end Url

/-- The text of a URL of the secure web is its own normal form. -/
theorem normalizeUrl_text_secure {host : Url.Host} {path : Url.Path}
    {query fragment : Option (List Char)} (written : Url.WrittenHost host)
    (tail : Url.WrittenTail path query fragment) :
    normalizeUrl (String.ofList (Url.secure host path query fragment).text) =
      some (String.ofList (Url.secure host path query fragment).text) := by
  have visible : ∀ c ∈ (Url.secure host path query fragment).text, Url.isVisible c = true := by
    rw [Url.text_secure]
    simp only [List.forall_mem_append, List.forall_mem_cons]
    exact ⟨List.all_eq_true.mp rfl, rfl, ⟨rfl, rfl, nofun⟩,
      fun c member => Url.isVisible_of_isNameChar (written.named c member),
      List.forall_mem_append.mp fun c => tail.isVisible_of_mem_text⟩
  have whole : Url.strip (Text.trim (Url.secure host path query fragment).text) =
      (Url.secure host path query fragment).text := by
    rw [Text.trim_eq_self fun c member => Url.isBlank_of_isVisible (visible c member)]
    have nothing : ∀ c ∈ ([] : List Char).head?, Url.isVisible c = true := nofun
    have stripped := Url.strip_append visible nothing
    rwa [show Url.strip [] = [] from rfl, List.append_nil] at stripped
  have scheme : Url.splitScheme? (Url.strip (Text.trim
      (String.ofList (Url.secure host path query fragment).text).toList)) =
      some ("https".toList,
        ['/', '/'] ++ (host.text ++ ([] ++ (path.text ++ Url.tailText query fragment)))) := by
    rw [String.toList_ofList, whole, Url.text_secure, Url.splitScheme?_https]
    rfl
  have rooted : ∀ c ∈ (Url.splitTail (path.text ++ Url.tailText query fragment)).1.head?,
      c = '/' := by
    rw [tail.splitTail_text, tail.path.head?_text]
    rintro _ ⟨⟩
    rfl
  have named : Url.host? host.text ≠ some (.name []) := by
    rw [written.reads]
    rintro ⟨⟩
    exact written.something rfl
  rw [normalizeUrl_of_scheme scheme,
    Url.ofScheme?_secure written.named written.something (.inl rfl) named rooted, written.reads,
    tail.splitTail_text, tail.path.rootedPath_text, tail.encode_query, tail.encode_fragment]
  rfl


end FederationTrust
