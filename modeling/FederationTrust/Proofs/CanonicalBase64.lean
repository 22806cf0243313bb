import FederationTrust.Proofs.Base64
import Mathlib.Algebra.Group.Nat.Defs

/-!
# Texts that base64 accepts

A text without padding is decoded exactly if it is the code of the octets, so octets have one code.
The code regroups their bits: eight for each octet become six for each letter, and zeros fill up the
last letter. Hence a text is no code if a character is no letter, if a letter stands alone in the
last group, or if a bit that fills up the last letter is set.

The tolerant reader accepts, besides, equals signs after the code and white space around both, in
this order, and nothing else.
-/

namespace FederationTrust

namespace Base64

/-- A letter is the one that its number is written with. -/
theorem Alphabet.eq_letter_of_value? {a : Alphabet} {c : Char} {n : Nat}
    (read : a.value? c = some n) : n < 64 ∧ c = a.letter n := by
  rw [value?] at read
  split at read
  · rename_i upper
    cases read
    refine ⟨by omega, ?_⟩
    rw [letter, if_pos (by omega), Nat.add_sub_of_le upper.1, Char.ofNat_toNat]
  · split at read
    · rename_i lower
      cases read
      refine ⟨by omega, ?_⟩
      rw [letter, if_neg (by omega), if_pos (by omega), Nat.add_sub_of_le (by omega),
        Char.ofNat_toNat]
    · split at read
      · rename_i digit
        cases read
        refine ⟨by omega, ?_⟩
        rw [letter, if_neg (by omega), if_neg (by omega), if_pos (by omega), Nat.add_sub_cancel,
          Char.ofNat_toNat]
      · split at read
        · rename_i plus
          cases read
          exact ⟨by decide, plus⟩
        · split at read
          · rename_i slash
            cases read
            exact ⟨by decide, slash⟩
          · cases read

/-- Numbers that octets are put together from are those of the octets. -/
theorem eq_sextets_of_join? {numbers : List Nat} {b : Bytes} (small : ∀ n ∈ numbers, n < 64)
    (joined : join? numbers = some b) : numbers = sextets b := by
  fun_induction join? numbers generalizing b with
  | case1 =>
    cases joined
    rfl
  | case2 => cases joined
  | case3 p q zero =>
    cases joined
    simp only [List.forall_mem_cons] at small
    simp [sextets]
    omega
  | case4 | case6 => cases joined
  | case5 p q r zero =>
    cases joined
    simp only [List.forall_mem_cons] at small
    simp [sextets]
    omega
  | case7 p q r s rest ih =>
    obtain ⟨more, found, rfl⟩ := Option.map_eq_some_iff.mp joined
    simp only [List.forall_mem_cons] at small
    simp [sextets, ← ih small.2.2.2.2 found]
    omega

/-- Letters that are read as numbers are the letters of these numbers. -/
theorem Alphabet.eq_map_letter {a : Alphabet} {text : List Char} {numbers : List Nat}
    (values : text.map a.value? = numbers.map some) :
    text = numbers.map a.letter ∧ ∀ n ∈ numbers, n < 64 := by
  induction text generalizing numbers with
  | nil =>
    obtain rfl := List.map_eq_nil_iff.mp values.symm
    exact ⟨rfl, nofun⟩
  | cons c text ih =>
    cases numbers with
    | nil => cases values
    | cons n numbers =>
      obtain ⟨first, others⟩ := List.cons.inj values
      obtain ⟨small, rfl⟩ := a.eq_letter_of_value? first
      obtain ⟨rfl, smaller⟩ := ih others
      exact ⟨rfl, List.forall_mem_cons.mpr ⟨small, smaller⟩⟩

/-- A text is decoded exactly if it is the code of the octets. -/
theorem decode?_eq_some_iff {a : Alphabet} (faithful : a.Faithful) {text : List Char} {b : Bytes} :
    decode? a text = some b ↔ text = encode a b := by
  refine ⟨fun decoded => ?_, fun written => written ▸ decode?_encode faithful b⟩
  obtain ⟨numbers, values, joined⟩ := Option.bind_eq_some_iff.mp decoded
  obtain ⟨letters, small⟩ := a.eq_map_letter ((Json.mapM_eq_some_iff _ _ _).mp values)
  rw [letters, encode_eq_map_letter, eq_sextets_of_join? small joined]

/-- Numbers make up no octets exactly if one stands alone in the last group, or if the last one has
a bit set that belongs to no octet. -/
theorem join?_eq_none_iff (numbers : List Nat) :
    join? numbers = none ↔ numbers.length % 4 = 1 ∨
      ∃ n, numbers.getLast? = some n ∧ n % 2 ^ (6 * numbers.length % 8) ≠ 0 := by
  fun_induction join? numbers with
  | case1 => simp
  | case2 => simp
  | case3 p q zero => simp [zero]
  | case4 p q rest => simp [rest]
  | case5 p q r zero => simp [zero]
  | case6 p q r rest => simp [rest]
  | case7 p q r s rest ih =>
    have group : 6 * (rest.length + 4) % 8 = 6 * rest.length % 8 := by omega
    cases rest with
    | nil => simp [join?, Nat.mod_one]
    | cons t more =>
      have whole : (more.length + 1 + 4) % 4 = (more.length + 1) % 4 := Nat.add_mod_right ..
      simp only [Option.map_eq_none_iff, ih, List.length_cons, List.getLast?_cons_cons] at group ⊢
      rw [group, whole]

/-- The lowest bits of a number, the most significant of them first. -/
def bits : Nat → Nat → List Bool
  | 0, _ => []
  | width + 1, n => bits width (n / 2) ++ [decide (n % 2 = 1)]

theorem bits_add (high low n : Nat) :
    bits (high + low) n = bits high (n / 2 ^ low) ++ bits low (n % 2 ^ low) := by
  induction low generalizing n with
  | zero => simp [bits]
  | succ low ih =>
    rw [← Nat.add_assoc, bits, ih, bits, List.append_assoc, Nat.div_div_eq_div_mul, ← Nat.pow_succ']
    have front : n / 2 % 2 ^ low = n % 2 ^ (low + 1) / 2 := by
      rw [Nat.pow_succ', Nat.mod_mul_right_div_self]
    have last : n % 2 ^ (low + 1) % 2 = n % 2 :=
      Nat.mod_mod_of_dvd n (Nat.pow_succ' ▸ Nat.dvd_mul_right 2 (2 ^ low))
    rw [front, last]

/-- The six-bit numbers have the bits of the octets, and zeros after them. -/
theorem flatMap_bits_sextets (b : Bytes) :
    (sextets b).flatMap (bits 6) =
      b.flatMap (fun x => bits 8 x.toNat) ++ List.replicate (6 * (sextets b).length % 8) false := by
  -- An octet is cut where a letter ends, and a letter where an octet ends.
  have first (x : Nat) : bits 8 x = bits 6 (x / 4) ++ bits 2 (x % 4) := bits_add 6 2 x
  have second (x : Nat) : bits 8 x = bits 4 (x / 16) ++ bits 4 (x % 16) := bits_add 4 4 x
  have third (x : Nat) : bits 8 x = bits 2 (x / 64) ++ bits 6 (x % 64) := bits_add 2 6 x
  have secondLetter (p : Nat) {q : Nat} (small : q < 16) :
      bits 6 (p * 16 + q) = bits 2 p ++ bits 4 q := by
    rw [bits_add 2 4, show (p * 16 + q) / 2 ^ 4 = p by omega,
      show (p * 16 + q) % 2 ^ 4 = q by omega]
  have thirdLetter (p : Nat) {q : Nat} (small : q < 4) :
      bits 6 (p * 4 + q) = bits 4 p ++ bits 2 q := by
    rw [bits_add 4 2, show (p * 4 + q) / 2 ^ 2 = p by omega,
      show (p * 4 + q) % 2 ^ 2 = q by omega]
  fun_induction sextets b with
  | case1 => rfl
  | case2 x =>
    have last := secondLetter (x.toNat % 4) (q := 0) (by decide)
    rw [Nat.add_zero] at last
    simp only [List.flatMap_cons, List.flatMap_nil, first, last, List.append_assoc,
      List.length_cons, List.length_nil]
    rfl
  | case3 x y =>
    have middle := secondLetter (x.toNat % 4) (q := y.toNat / 16) (by have := y.toNat_lt; omega)
    have last := thirdLetter (y.toNat % 16) (q := 0) (by decide)
    rw [Nat.add_zero] at last
    simp only [List.flatMap_cons, List.flatMap_nil, first x.toNat, second y.toNat, middle, last,
      List.append_assoc, List.length_cons, List.length_nil]
    rfl
  | case4 x y z rest ih =>
    have := y.toNat_lt
    have := z.toNat_lt
    have middle := secondLetter (x.toNat % 4) (q := y.toNat / 16) (by omega)
    have last := thirdLetter (y.toNat % 16) (q := z.toNat / 64) (by omega)
    have group : 6 * ((sextets rest).length + 4) % 8 = 6 * (sextets rest).length % 8 := by omega
    simp only [List.flatMap_cons, ih, first x.toNat, second y.toNat, third z.toNat, middle, last,
      List.append_assoc, List.length_cons, group]

/-- What keeps a text without padding from being the code of octets. -/
inductive Faulty (text : List Char) : Prop
  | stranger {c : Char} (among : c ∈ text) (strange : ¬ (c.isAlphanum = true ∨ c = '-' ∨ c = '_'))
  | single (alone : text.length % 4 = 1)
  | surplus {c : Char} {n : Nat} (last : text.getLast? = some c)
      (value : urlSafe.value? c = some n) (set : n % 2 ^ (6 * text.length % 8) ≠ 0)

theorem isSome_value?_urlSafe_iff (c : Char) :
    (urlSafe.value? c).isSome = true ↔ c.isAlphanum = true ∨ c = '-' ∨ c = '_' := by
  have alphanumeric : c.isAlphanum = true ↔
      (65 ≤ c.toNat ∧ c.toNat ≤ 90) ∨ (97 ≤ c.toNat ∧ c.toNat ≤ 122) ∨
        (48 ≤ c.toNat ∧ c.toNat ≤ 57) := by
    delta Char.isAlphanum Char.isAlpha Char.isUpper Char.isLower Char.isDigit
    simp [UInt32.le_iff_toNat_le, or_assoc]
  rw [alphanumeric, Alphabet.value?, show urlSafe.plus = '-' from rfl,
    show urlSafe.slash = '_' from rfl]
  split
  · simp [*]
  · split
    · simp [*]
    · split
      · simp [*]
      · split
        · simp [*]
        · split <;> simp [*]

/-- The last of the numbers is that of the last letter. -/
theorem getLast?_eq_some_iff_of_values {a : Alphabet} {text : List Char} {numbers : List Nat}
    (values : text.map a.value? = numbers.map some) (n : Nat) :
    numbers.getLast? = some n ↔ ∃ c, text.getLast? = some c ∧ a.value? c = some n := by
  have lasts := congrArg List.getLast? values
  rw [List.getLast?_map, List.getLast?_map] at lasts
  rw [← Option.map_eq_some_iff, lasts]
  simp

/-- No other text fails to be decoded than one with one of these faults. -/
theorem decode?_urlSafe_eq_none_iff (text : List Char) :
    decode? urlSafe text = none ↔ Faulty text := by
  rw [decode?]
  cases read : text.mapM urlSafe.value? with
  | none =>
    rw [Option.bind_none, eq_self, true_iff]
    have unread : ¬ ∀ c ∈ text, (urlSafe.value? c).isSome = true := by
      rw [← Json.mapM_isSome_iff, read]
      exact Bool.false_ne_true
    obtain ⟨c, among, strange⟩ : ∃ c ∈ text, ¬ (urlSafe.value? c).isSome = true := by
      simpa using unread
    exact .stranger among fun letter => strange ((isSome_value?_urlSafe_iff c).mpr letter)
  | some numbers =>
    have values := (Json.mapM_eq_some_iff _ _ _).mp read
    have letters : ∀ c ∈ text, (urlSafe.value? c).isSome = true := by
      rw [← Json.mapM_isSome_iff, read]
      rfl
    have length : numbers.length = text.length := by
      simpa using congrArg List.length values.symm
    have last := getLast?_eq_some_iff_of_values values
    rw [Option.bind_some, join?_eq_none_iff, length]
    constructor
    · rintro (alone | ⟨n, ends, set⟩)
      · exact .single alone
      · obtain ⟨c, final, value⟩ := (last n).mp ends
        exact .surplus final value set
    · rintro (⟨among, strange⟩ | alone | ⟨final, value, set⟩)
      · exact absurd ((isSome_value?_urlSafe_iff _).mp (letters _ among)) strange
      · exact .inl alone
      · exact .inr ⟨_, (last _).mpr ⟨_, final, value⟩, set⟩

end Base64

/-- A text with any number of equals signs after it and white space around both. -/
def Bordered (core s : String) : Prop :=
  ∃ (before : String) (k : Nat) (after : String),
    (∀ c ∈ before.toList ++ after.toList, Text.isBlank c = true) ∧
    s = before ++ core ++ String.ofList (List.replicate k '=') ++ after

/-- What is left of a text without the white space around it and the equals signs that end it. -/
def coreOf (s : String) : List Char :=
  Text.dropEndWhile (· = '=') (Text.trim s.toList)

theorem bordered_coreOf (s : String) : Bordered (String.ofList (coreOf s)) s := by
  obtain ⟨before, after, blank, whole⟩ := Text.exists_eq_append_trim s.toList
  obtain ⟨equals, each, inner⟩ := Text.exists_eq_dropEndWhile_append (· = '=') (Text.trim s.toList)
  have alike : equals = List.replicate equals.length '=' :=
    List.eq_replicate_of_mem fun c member => of_decide_eq_true (each c member)
  refine ⟨String.ofList before, equals.length, String.ofList after, ?_, ?_⟩
  · simpa using blank
  · rw [← alike, ← String.ofList_append, ← String.ofList_append, ← String.ofList_append,
      List.append_assoc before, coreOf, ← inner, ← whole, String.ofList_toList]

/-- The borders of a code are what is taken away from around it. -/
theorem coreOf_of_bordered {b : Bytes} {s : String} (bordered : Bordered (encodeUrlSafe b) s) :
    coreOf s = Base64.encode Base64.urlSafe b := by
  obtain ⟨before, k, after, blank, rfl⟩ := bordered
  have plain : ∀ c ∈ Base64.encode Base64.urlSafe b, Text.isBlank c = false ∧ c ≠ '=' :=
    fun _ => Base64.plain_of_mem_encode_urlSafe
  have solid : ∀ c ∈ Base64.encode Base64.urlSafe b ++ List.replicate k '=',
      Text.isBlank c = false := by
    rw [List.forall_mem_append]
    refine ⟨fun c member => (plain c member).1, fun c member => ?_⟩
    rw [(List.mem_replicate.mp member).2]
    rfl
  have equals : ∀ c ∈ List.replicate k '=', decide (c = '=') = true :=
    fun c member => decide_eq_true (List.mem_replicate.mp member).2
  rw [coreOf, String.toList_append, String.toList_append, String.toList_append,
    String.toList_ofList, encodeUrlSafe, String.toList_ofList, List.append_assoc before.toList,
    Text.trim_append_append blank, Text.trim_eq_self solid, Text.dropEndWhile_append_of_all equals,
    Text.dropEndWhile_eq_self fun c member => decide_eq_false (plain c member).2]

theorem decodeTolerant?_eq_some_iff (s : String) (b : Bytes) :
    decodeTolerant? s = some b ↔ Bordered (encodeUrlSafe b) s := by
  have inner : decodeTolerant? s = Base64.decode? Base64.urlSafe (coreOf s) := rfl
  rw [inner, Base64.decode?_eq_some_iff Base64.urlSafe_faithful]
  constructor
  · intro code
    rw [encodeUrlSafe, ← code]
    exact bordered_coreOf s
  · exact coreOf_of_bordered

/-- The texts that are decoded are the codes of octets, with equals signs after them and white space
around both, and no others: of a text that is not decoded, what is left without these borders has a
fault. So two texts of the same octets differ in their borders only. The code of octets has their
bits, filled up with zeros to the next whole letter. -/
theorem decoded_texts_are_bordered_codes :
    (∀ s b, decodeTolerant? s = some b ↔ Bordered (encodeUrlSafe b) s) ∧
    (∀ b k, decodeTolerant? (encodeUrlSafe b ++ String.ofList (List.replicate k '=')) = some b) ∧
    (∀ s, Bordered (String.ofList (coreOf s)) s ∧
      (decodeTolerant? s = none ↔ Base64.Faulty (coreOf s))) ∧
    (∀ s t b, decodeTolerant? s = some b → decodeTolerant? t = some b →
      ∃ core, Bordered core s ∧ Bordered core t) ∧
    ∀ b, ∃ numbers : List Nat, (∀ n ∈ numbers, n < 64) ∧ numbers.length % 4 ≠ 1 ∧
      encodeUrlSafe b = String.ofList (numbers.map Base64.urlSafe.letter) ∧
      numbers.flatMap (Base64.bits 6) = b.flatMap (fun x => Base64.bits 8 x.toNat) ++
        List.replicate (6 * numbers.length % 8) false := by
  refine ⟨decodeTolerant?_eq_some_iff, ?_, ?_, ?_, ?_⟩
  · intro b k
    refine (decodeTolerant?_eq_some_iff _ b).mpr ⟨"", k, "", by simp, ?_⟩
    rw [String.empty_append, String.append_empty]
  · exact fun s => ⟨bordered_coreOf s, Base64.decode?_urlSafe_eq_none_iff (coreOf s)⟩
  · intro s t b first second
    exact ⟨encodeUrlSafe b, (decodeTolerant?_eq_some_iff s b).mp first,
      (decodeTolerant?_eq_some_iff t b).mp second⟩
  · intro b
    refine ⟨Base64.sextets b, Base64.sextets_lt b, ?_, ?_, Base64.flatMap_bits_sextets b⟩
    · intro alone
      have refused := (Base64.join?_eq_none_iff (Base64.sextets b)).mpr (.inl alone)
      rw [Base64.join?_sextets] at refused
      cases refused
    · rw [encodeUrlSafe, Base64.encode_eq_map_letter]

end FederationTrust
