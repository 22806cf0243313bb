import FederationTrust.Proofs.Octets
import FederationTrust.Proofs.Texts
import FederationTrust.Url.Basic
import Mathlib.Data.List.TakeWhile

/-!
# Names of hosts

A name of letters, digits, hyphens and points holds nothing that a URL sets apart: neither a
separator nor the beginning of an encoded octet. So in a URL of the web the name up to a colon, a
slash or the end is the host, in lower case, or the address that it writes.
-/

namespace FederationTrust

namespace Url

def isNameChar (c : Char) : Bool :=
  isLetter c || (48 ≤ c.toNat && c.toNat ≤ 57) || c = '-' || c = '.'

section Characters

variable {c d : Char} {name : List Char}

theorem isNameChar_ascii (named : isNameChar c = true) : c.toNat < 128 := by
  simp only [isNameChar, isLetter, Bool.or_eq_true, Bool.and_eq_true, decide_eq_true_eq] at named
  rcases named with ((letter | digit) | rfl) | rfl
  · omega
  · omega
  · decide
  · decide

/-- What holds of the ASCII characters among those of names holds of them all. -/
theorem forall_isNameChar {P : Char → Prop}
    (ascii : ∀ n < 128, isNameChar (Char.ofNat n) = true → P (Char.ofNat n))
    (named : isNameChar c = true) : P c := by
  rw [← Char.ofNat_toNat c] at named ⊢
  exact ascii _ (isNameChar_ascii (by rwa [Char.ofNat_toNat] at named)) named

theorem isSchemeChar_of_isNameChar (named : isNameChar c = true) : isSchemeChar c = true :=
  forall_isNameChar (P := fun c => isSchemeChar c = true) (by decide +kernel) named

theorem isForbidden_lowerAscii (named : isNameChar c = true) :
    Idna.isForbidden (Text.lowerAscii c) = false :=
  forall_isNameChar (P := fun c => Idna.isForbidden (Text.lowerAscii c) = false)
    (by decide +kernel) named

/-- Only letters have a letter case. -/
theorem isLetter_or_lowerAscii_eq (c : Char) : isLetter c = true ∨ Text.lowerAscii c = c := by
  unfold Text.lowerAscii
  split
  · rename_i upper
    simp [isLetter, upper]
  · exact .inr rfl

theorem isNameChar_lowerAscii (named : isNameChar c = true) :
    isNameChar (Text.lowerAscii c) = true :=
  forall_isNameChar (P := fun c => isNameChar (Text.lowerAscii c) = true) (by decide +kernel) named

theorem isNameChar_of_lowerAscii (named : isNameChar (Text.lowerAscii c) = true) :
    isNameChar c = true := by
  rcases isLetter_or_lowerAscii_eq c with letter | same
  · rw [isNameChar, letter]
    rfl
  · rwa [same] at named

theorem lowerAscii_lowerAscii (named : isNameChar c = true) :
    Text.lowerAscii (Text.lowerAscii c) = Text.lowerAscii c :=
  forall_isNameChar (P := fun c => Text.lowerAscii (Text.lowerAscii c) = Text.lowerAscii c)
    (by decide +kernel) named

theorem percent_notMem_octets (named : isNameChar c = true) : 0x25 ∉ String.utf8EncodeChar c :=
  forall_isNameChar (P := fun c => 0x25 ∉ String.utf8EncodeChar c) (by decide +kernel) named

theorem ne_of_isNameChar (named : isNameChar c = true) (other : isNameChar d = false) : c ≠ d := by
  rintro rfl
  rw [named] at other
  cases other

theorem notMem_of_named (named : ∀ c ∈ name, isNameChar c = true) (other : isNameChar d = false) :
    d ∉ name :=
  fun member => ne_of_isNameChar (named d member) other rfl

theorem isSlash_of_isNameChar {kind : SchemeKind} (named : isNameChar c = true) :
    isSlash kind c = false :=
  forall_isNameChar (P := fun c => isSlash kind c = false) (by cases kind <;> decide +kernel) named

theorem unslashed_append (named : ∀ c ∈ name, isNameChar c = true) (something : name ≠ [])
    (kind : SchemeKind) (after : List Char) :
    ∀ c ∈ (name ++ after).head?, isSlash kind c = false := by
  obtain ⟨first, more, rfl⟩ := List.exists_cons_of_ne_nil something
  rintro _ ⟨⟩
  exact isSlash_of_isNameChar (named first List.mem_cons_self)

end Characters

/-- Octets without a percent sign stand for themselves. -/
theorem decodeBytes_eq_self {b : Bytes} (plain : 0x25 ∉ b) : decodeBytes b = b := by
  fun_induction decodeBytes b with
  | case1 => rfl
  | case2 => rfl
  | case3 => rfl
  | case4 h l rest x y _ _ ih => simp_all
  | case5 b h l rest _ ih => simp_all

section Names

variable {name : List Char}

theorem text?_decodeBytes_of_named (named : ∀ c ∈ name, isNameChar c = true) :
    Bytes.text? (decodeBytes (Bytes.ofText (String.ofList name))) = some (String.ofList name) := by
  have plain : 0x25 ∉ Bytes.ofText (String.ofList name) := by
    rw [Bytes.ofText_ofList]
    intro member
    obtain ⟨c, place, octet⟩ := List.mem_flatMap.mp member
    exact percent_notMem_octets (named c place) octet
  rw [decodeBytes_eq_self plain, Bytes.text?_ofText]

theorem toAscii?_of_named (named : ∀ c ∈ name, isNameChar c = true)
    (unencoded : (Text.splitAt '.' (name.map Text.lowerAscii)).any Idna.isEncoded = false) :
    Idna.toAscii? name = some (name.map Text.lowerAscii) := by
  have ascii : name.all Idna.isAscii = true :=
    List.all_eq_true.mpr fun c member => decide_eq_true (isNameChar_ascii (named c member))
  have permitted : (name.map Text.lowerAscii).any Idna.isForbidden = false := by
    rw [List.any_map, List.any_eq_false]
    intro c member
    exact Bool.eq_false_iff.mp (isForbidden_lowerAscii (named c member))
  rw [Idna.toAscii?, ascii, unencoded, permitted]
  rfl

/-- A name without encoded labels is the host in lower case, unless its last label is a number. -/
theorem host?_of_named (named : ∀ c ∈ name, isNameChar c = true)
    (unencoded : (Text.splitAt '.' (name.map Text.lowerAscii)).any Idna.isEncoded = false) :
    host? name =
      if name = [] then none
      else if endsInNumber (name.map Text.lowerAscii) then
        (ipv4? (name.map Text.lowerAscii)).map .ipv4
      else some (.name (name.map Text.lowerAscii)) := by
  have unbracketed : ∀ rest, name ≠ '[' :: rest := by
    rintro rest rfl
    exact notMem_of_named named rfl List.mem_cons_self
  rw [host?.eq_2 _ unbracketed, text?_decodeBytes_of_named named, Option.bind_eq_bind,
    Option.bind_some, String.toList_ofList, toAscii?_of_named named unencoded, Option.bind_eq_bind,
    Option.bind_some, List.isEmpty_map]
  simp only [List.isEmpty_iff]

/-- The schemes of the web are names of hosts too. -/
theorem host?_of_scheme (named : ∀ c ∈ name, isNameChar c = true)
    (web : schemeKind (name.map Text.lowerAscii) = .web) :
    host? name = some (.name (name.map Text.lowerAscii)) := by
  have each : ∀ scheme ∈ ["http".toList, "ws".toList, "https".toList, "wss".toList, "ftp".toList],
      (Text.splitAt '.' scheme).any Idna.isEncoded = false ∧ endsInNumber scheme = false ∧
        scheme ≠ [] := by
    decide +kernel
  have known : name.map Text.lowerAscii ∈
      ["http".toList, "ws".toList, "https".toList, "wss".toList, "ftp".toList] := by
    unfold schemeKind defaultPort? at web
    simp only [List.mem_cons, List.not_mem_nil, or_false]
    grind
  obtain ⟨unencoded, unnumbered, something⟩ := each _ known
  rw [host?_of_named named unencoded, if_neg (mt List.map_eq_nil_iff.mpr something), unnumbered]
  rfl

theorem takeHost_append {after : List Char} (kind : SchemeKind)
    (named : ∀ c ∈ name, isNameChar c = true) (apart : ∀ c ∈ after.head?, c = ':' ∨ c = '/') :
    takeHost kind false (name ++ after) = name := by
  induction name with
  | nil =>
    cases after with
    | nil => rfl
    | cons c rest => rcases apart c rfl with rfl | rfl <;> rfl
  | cons c rest ih =>
    have first := named c List.mem_cons_self
    rw [List.cons_append, takeHost, isSlash_of_isNameChar first,
      decide_eq_false (ne_of_isNameChar first rfl), if_neg (ne_of_isNameChar first rfl),
      if_neg (ne_of_isNameChar first rfl),
      ih fun d later => named d (List.mem_cons_of_mem c later)]
    rfl

theorem splitLastAt?_of_notMem {s : List Char} (absent : '@' ∉ s) : splitLastAt? s = none := by
  have whole : s.reverse.takeWhile (· ≠ '@') = s.reverse := by
    rw [List.takeWhile_eq_self_iff]
    rintro c member
    exact decide_eq_true fun same => absent (same ▸ List.mem_reverse.mp member)
  rw [splitLastAt?, whole, List.length_reverse, if_pos rfl]

/-- A name is the host of an authority of the web; what follows its colon is the port. -/
theorem authority?_of_named {scheme after : List Char} (web : schemeKind scheme = .web)
    (named : ∀ c ∈ name, isNameChar c = true) (bare : '@' ∉ after.takeWhile (!isSlash .web ·))
    (apart : ∀ c ∈ after.head?, c = ':' ∨ c = '/') (hasMore : Bool) :
    authority? scheme hasMore (name ++ after) = (host? name).bind fun host =>
      (if after.head? = some ':' then port? scheme (after.drop 1) else some (none, after)).bind
        fun found =>
          if host = .name [] ∧ after.head? = some ':' then none
          else some (⟨[], [], host, found.1⟩, found.2) := by
  have inside : ∀ c ∈ name, (!isSlash .web c) = true := fun c member =>
    congrArg not (isSlash_of_isNameChar (named c member))
  have noLogin : '@' ∉ (name ++ after).takeWhile (!isSlash .web ·) := by
    rw [List.takeWhile_append_of_pos inside, List.mem_append, not_or]
    exact ⟨notMem_of_named named rfl, bare⟩
  have host := takeHost_append .web named apart
  unfold authority?
  simp only [web, splitLastAt?_of_notMem noLogin, Option.bind_eq_bind, Option.bind_some,
    show credentials [] = ([], []) from rfl, host, List.drop_left, ne_eq, not_true_eq_false,
    or_false, reduceCtorEq, if_false]
  congr 1
  funext host
  split
  · rfl
  · rw [Option.bind_some]

end Names

section Numbers

variable {c : Char} {digits : List Char} {n : Nat}

theorem isNameChar_of_digit? (digit : (Text.digit? c).isSome = true) : isNameChar c = true := by
  have range := Text.range_of_digit? digit
  simp [isNameChar, range]

theorem lowerAscii_of_digit? (digit : (Text.digit? c).isSome = true) : Text.lowerAscii c = c := by
  have range := Text.range_of_digit? digit
  rw [Text.lowerAscii, if_neg (by omega)]

theorem ne_nil_of_digits? (read : Text.digits? digits = some n) : digits ≠ [] := by
  rintro rfl
  cases read

theorem notMem_of_digits? (read : Text.digits? digits = some n)
    (other : (Text.digit? c).isSome = false) : c ∉ digits := by
  intro member
  rw [Text.isSome_digit?_of_digits? read c member] at other
  cases other

theorem isDigits_of_digits? (read : Text.digits? digits = some n) : isDigits digits = true := by
  simpa [isDigits, ne_nil_of_digits? read] using Text.isSome_digit?_of_digits? read

/-- The mark of an encoded label is made of letters. -/
theorem isEncoded_of_digits? (read : Text.digits? digits = some n) :
    Idna.isEncoded digits = false := by
  unfold Idna.isEncoded
  split
  · exact absurd List.mem_cons_self (notMem_of_digits? read rfl)
  · rfl

/-- Digits are no name: they write an address or are no host. -/
theorem host?_of_digits? (read : Text.digits? digits = some n) :
    host? digits = (ipv4? digits).map .ipv4 := by
  have each := Text.isSome_digit?_of_digits? read
  have named : ∀ c ∈ digits, isNameChar c = true := fun c member =>
    isNameChar_of_digit? (each c member)
  have lower : digits.map Text.lowerAscii = digits :=
    (List.map_congr_left fun c member => lowerAscii_of_digit? (each c member)).trans
      (List.map_id digits)
  have one : Text.splitAt '.' digits = [digits] :=
    Text.splitAt_of_not_mem (notMem_of_digits? read rfl)
  have number : endsInNumber digits = true := by
    have labels : hostLabels digits = [digits] := by
      simp [hostLabels, one, ne_nil_of_digits? read]
    simp [endsInNumber, labels, isDigits_of_digits? read]
  rw [host?_of_named named (by simp [lower, one, isEncoded_of_digits? read]), lower, number,
    if_neg (ne_nil_of_digits? read), if_pos rfl]

theorem port?_of_digits? {scheme path : List Char} (read : Text.digits? digits = some n)
    (small : n < 65536) (rooted : ∀ c ∈ path.head?, c = '/') :
    port? scheme (digits ++ path) =
      some (if defaultPort? scheme = some n then none else some n, path) := by
  have whole : (digits ++ path).takeWhile (fun c => c ≠ '/' && c ≠ '\\') = digits := by
    refine Text.takeWhile_append_of_head (fun c member => ?_) fun c first => ?_
    · have slash : c ≠ '/' := ne_of_mem_of_not_mem member (notMem_of_digits? read rfl)
      have backslash : c ≠ '\\' := ne_of_mem_of_not_mem member (notMem_of_digits? read rfl)
      simp [slash, backslash]
    · rw [rooted c first]
      rfl
  have something : digits.isEmpty = false :=
    Bool.eq_false_iff.mpr fun empty => ne_nil_of_digits? read (List.isEmpty_iff.mp empty)
  simp only [port?, whole, List.drop_left, something, read, Option.bind_some, if_pos small]
  rfl

end Numbers

section Authorities

variable {scheme name path : List Char}

/-- What stands before a path without slashes is taken up to the path. -/
theorem takeWhile_append_path {front : List Char} (inside : ∀ c ∈ front, isSlash .web c = false)
    (rooted : ∀ c ∈ path.head?, c = '/') :
    (front ++ path).takeWhile (!isSlash .web ·) = front := by
  refine Text.takeWhile_append_of_head (fun c member => congrArg not (inside c member)) ?_
  intro c first
  rw [rooted c first]
  rfl

theorem authority?_of_name_and_path (web : schemeKind scheme = .web)
    (named : ∀ c ∈ name, isNameChar c = true) (rooted : ∀ c ∈ path.head?, c = '/')
    (hasMore : Bool) :
    authority? scheme hasMore (name ++ path) =
      (host? name).map fun host => (⟨[], [], host, none⟩, path) := by
  have bare : '@' ∉ path.takeWhile (!isSlash .web ·) := by
    rw [← List.nil_append path, takeWhile_append_path (by simp) rooted]
    exact List.not_mem_nil
  have uncoloned : path.head? ≠ some ':' := by
    intro colon
    cases rooted ':' colon
  rw [authority?_of_named web named bare fun c first => .inr (rooted c first)]
  simp only [uncoloned, if_false, and_false, Option.bind_some, Option.map_eq_bind]
  rfl

theorem authority?_of_name_and_port {digits : List Char} {n : Nat}
    (web : schemeKind scheme = .web) (named : ∀ c ∈ name, isNameChar c = true)
    (read : Text.digits? digits = some n) (small : n < 65536)
    (rooted : ∀ c ∈ path.head?, c = '/') (hasMore : Bool) :
    authority? scheme hasMore (name ++ ':' :: (digits ++ path)) =
      (host? name).bind fun host =>
        if host = .name [] then none
        else
          some (⟨[], [], host, if defaultPort? scheme = some n then none else some n⟩, path) := by
  have inside : ∀ c ∈ ':' :: digits, isSlash .web c = false := by
    intro c member
    rcases List.mem_cons.mp member with rfl | digit
    · rfl
    · exact isSlash_of_isNameChar
        (isNameChar_of_digit? (Text.isSome_digit?_of_digits? read c digit))
  have bare : '@' ∉ (':' :: (digits ++ path)).takeWhile (!isSlash .web ·) := by
    rw [← List.cons_append, takeWhile_append_path inside rooted, List.mem_cons, not_or]
    exact ⟨by decide, notMem_of_digits? read rfl⟩
  have colon : ∀ c ∈ (':' :: (digits ++ path)).head?, c = ':' ∨ c = '/' := by
    rintro _ ⟨⟩
    exact .inl rfl
  rw [authority?_of_named web named bare colon]
  simp only [List.head?_cons, if_true, and_true, List.drop_one, List.tail_cons,
    port?_of_digits? read small rooted, Option.bind_some]

end Authorities

end Url

end FederationTrust
