import FederationTrust.Json.Printer
import FederationTrust.Json.Reader
import FederationTrust.Proofs.Octets
import Mathlib.Tactic.IntervalCases

/-!
# Written tokens read back

Strings and numbers are read octet by octet, so what is shown here is where a reader stands
after the octets that one of them is written with: between the quotation marks a string is
spelled by the pieces read so far, and a number is known up to its last octet.
-/

namespace FederationTrust

namespace Json

/-- The octets of a character that stands for itself neither end a string nor escape. -/
theorem plain_of_mem_utf8EncodeChar {c : Char} (quote : c ≠ '"') (solidus : c ≠ '\\')
    (visible : 0x20 ≤ c.toNat) {x : UInt8} (member : x ∈ String.utf8EncodeChar c) :
    x ≠ 0x22 ∧ x ≠ 0x5C ∧ ¬ x < 0x20 := by
  simp only [ne_eq, ← UInt8.toNat_inj, UInt8.lt_iff_toNat_lt, UInt8.reduceToNat]
  by_cases ascii : c.toNat < 128
  · have notQuote : c.toNat ≠ 0x22 := fun h => quote (Char.ext (UInt32.toNat_inj.mp h))
    have notSolidus : c.toNat ≠ 0x5C := fun h => solidus (Char.ext (UInt32.toNat_inj.mp h))
    rw [Bytes.utf8EncodeChar_of_ascii ascii] at member
    rw [List.mem_singleton.mp member, UInt8.toNat_ofNat_of_lt' (Nat.lt_trans ascii (by decide))]
    omega
  · have beyond := Bytes.le_of_mem_utf8EncodeChar (Nat.le_of_not_lt ascii) member
    omega

namespace Piece

theorem map_append_append (a b : Bytes) (o : Option Bytes) :
    (o.map (b ++ ·)).map (a ++ ·) = o.map (a ++ b ++ ·) := by
  cases o with
  | none => rfl
  | some more => simp only [Option.map_some, List.append_assoc]

/-- Pieces that spell something leave no surrogate open for the pieces after them. -/
theorem bytes?_append {front : List Piece} {spelled : Bytes} (h : bytes? front = some spelled)
    (rest : List Piece) : bytes? (front ++ rest) = (bytes? rest).map (spelled ++ ·) := by
  fun_induction bytes? front generalizing spelled with
  | case1 =>
    obtain rfl := Option.some.inj h
    simp
  | case2 b front ih =>
    obtain ⟨tail, spells, rfl⟩ := Option.map_eq_some_iff.mp h
    rw [List.cons_append, bytes?, ih spells]
    exact map_append_append [b] tail (bytes? rest)
  | case3 u high v front low c =>
    rename_i ih
    obtain ⟨tail, spells, rfl⟩ := Option.map_eq_some_iff.mp h
    rw [List.cons_append, List.cons_append, bytes?.eq_def]
    dsimp only
    rw [if_pos high, if_pos low, ih spells, map_append_append]
  | case4 | case5 | case6 => cases h
  | case7 u front high low ih =>
    obtain ⟨tail, spells, rfl⟩ := Option.map_eq_some_iff.mp h
    rw [List.cons_append, bytes?.eq_def]
    dsimp only
    rw [if_neg high, if_neg low, ih spells, map_append_append]

theorem bytes?_octets (b : Bytes) : bytes? (b.map .octet) = some b := by
  induction b with
  | nil => rfl
  | cons x rest ih => rw [List.map_cons, bytes?, ih, Option.map_some]

end Piece

namespace Reader

def feedAll? (r : Reader) (b : Bytes) : Option Reader :=
  b.foldlM feed? r

variable {builder : Builder}

theorem feedAll?_cons (r : Reader) (x : UInt8) (rest : Bytes) :
    r.feedAll? (x :: rest) = (r.feed? x).bind fun r => r.feedAll? rest := rfl

theorem feedAll?_append (r : Reader) (front rest : Bytes) :
    r.feedAll? (front ++ rest) = (r.feedAll? front).bind fun r => r.feedAll? rest :=
  List.foldlM_append

/-- An octet that completes no token. -/
theorem feed?_of_step {s next : Scanner} {x : UInt8} (h : s.step? x = some ([], next)) :
    feed? ⟨s, builder⟩ x = some ⟨next, builder⟩ := by
  simp [feed?, h]

/-- An octet that completes a token. -/
theorem feed?_of_token {s next : Scanner} {x : UInt8} {t : Token}
    (h : s.step? x = some ([t], next)) :
    feed? ⟨s, builder⟩ x = (builder.take? t).map fun b => ⟨next, b⟩ := by
  simp only [feed?, h, Option.bind_eq_bind, Option.bind_some, List.foldlM_cons, List.foldlM_nil,
    Option.pure_def]
  cases builder.take? t <;> rfl

theorem feedAll?_of_step {s next : Scanner} {x : UInt8} (h : s.step? x = some ([], next))
    (rest : Bytes) : feedAll? ⟨s, builder⟩ (x :: rest) = feedAll? ⟨next, builder⟩ rest := by
  rw [feedAll?_cons, feed?_of_step h, Option.bind_some]

/-- Octets that stand for themselves become pieces of a string. -/
theorem feedAll?_plain (pieces : List Piece) (b : Bytes)
    (plain : ∀ x ∈ b, x ≠ 0x22 ∧ x ≠ 0x5C ∧ ¬ x < 0x20) :
    feedAll? ⟨.string pieces, builder⟩ b =
      some ⟨.string ((b.map .octet).reverse ++ pieces), builder⟩ := by
  induction b generalizing pieces with
  | nil => rfl
  | cons x rest ih =>
    obtain ⟨quote, solidus, visible⟩ := plain x List.mem_cons_self
    have step : (Scanner.string pieces).step? x = some ([], .string (.octet x :: pieces)) := by
      simp [Scanner.step?, quote, solidus, visible]
    rw [feedAll?_of_step step, ih _ fun y member => plain y (List.mem_cons_of_mem x member)]
    simp

/-- A reversed solidus and a letter become one piece. -/
theorem feedAll?_escaped (pieces : List Piece) {c : Char} {letter x : UInt8}
    (octet : String.utf8EncodeChar c = [x]) (h : Scanner.escaped? letter = some x)
    (unit : letter ≠ 0x75) :
    ∃ more, Piece.bytes? more = some (String.utf8EncodeChar c) ∧
      feedAll? ⟨.string pieces, builder⟩ [0x5C, letter] =
        some ⟨.string (more.reverse ++ pieces), builder⟩ := by
  have begins : (Scanner.string pieces).step? 0x5C = some ([], .escape pieces) := rfl
  have step : (Scanner.escape pieces).step? letter = some ([], .string (.octet x :: pieces)) := by
    simp [Scanner.step?, h, unit]
  refine ⟨[.octet x], by rw [octet]; rfl, ?_⟩
  rw [feedAll?_of_step begins, feedAll?_of_step step]
  rfl

/-- Four hexadecimal digits after a reversed solidus become one piece. -/
theorem feedAll?_unit (builder : Builder) (pieces : List Piece) {a b c d : UInt8} {p q r s : Nat}
    (ha : Bytes.hexValue? a = some p) (hb : Bytes.hexValue? b = some q)
    (hc : Bytes.hexValue? c = some r) (hd : Bytes.hexValue? d = some s) :
    feedAll? ⟨.string pieces, builder⟩ [0x5C, 0x75, a, b, c, d] =
      some ⟨.string (.unit (((p * 16 + q) * 16 + r) * 16 + s) :: pieces), builder⟩ := by
  have begins : (Scanner.string pieces).step? 0x5C = some ([], .escape pieces) := rfl
  have unit : (Scanner.escape pieces).step? 0x75 = some ([], .unit pieces 0 0) := rfl
  have first : (Scanner.unit pieces 0 0).step? a = some ([], .unit pieces 1 p) := by
    simp [Scanner.step?, ha]
  have second : (Scanner.unit pieces 1 p).step? b = some ([], .unit pieces 2 (p * 16 + q)) := by
    simp [Scanner.step?, hb]
  have third : (Scanner.unit pieces 2 (p * 16 + q)).step? c =
      some ([], .unit pieces 3 ((p * 16 + q) * 16 + r)) := by
    simp [Scanner.step?, hc]
  have fourth : (Scanner.unit pieces 3 ((p * 16 + q) * 16 + r)).step? d =
      some ([], .string (.unit (((p * 16 + q) * 16 + r) * 16 + s) :: pieces)) := by
    simp [Scanner.step?, hd]
  rw [feedAll?_of_step begins, feedAll?_of_step unit, feedAll?_of_step first,
    feedAll?_of_step second, feedAll?_of_step third, feedAll?_of_step fourth]
  rfl

/-- A control that has no letter is written as a UTF-16 unit. -/
theorem feedAll?_control (pieces : List Piece) {c : Char} (control : c.toNat < 0x20) :
    feedAll? ⟨.string pieces, builder⟩ (Bytes.ofChars
      ['\\', 'u', '0', '0', Bytes.hexDigit (c.toNat / 16), Bytes.hexDigit (c.toNat % 16)]) =
        some ⟨.string (.unit c.toNat :: pieces), builder⟩ := by
  obtain ⟨x, first, high⟩ := Bytes.utf8EncodeChar_hexDigit (d := c.toNat / 16) (by omega)
  obtain ⟨y, second, low⟩ := Bytes.utf8EncodeChar_hexDigit (d := c.toNat % 16) (by omega)
  have read := feedAll?_unit builder pieces (a := 0x30) (b := 0x30) (p := 0) (q := 0)
    rfl rfl high low
  have value : ((0 * 16 + 0) * 16 + c.toNat / 16) * 16 + c.toNat % 16 = c.toNat := by omega
  rw [value] at read
  simp only [Bytes.ofChars_cons, first, second]
  exact read

/-- The pieces of a written character spell its octets. -/
theorem feedAll?_escapeChar (builder : Builder) (pieces : List Piece) (c : Char) :
    ∃ more, Piece.bytes? more = some (String.utf8EncodeChar c) ∧
      feedAll? ⟨.string pieces, builder⟩ (Bytes.ofChars (escapeChar c)) =
        some ⟨.string (more.reverse ++ pieces), builder⟩ := by
  fun_cases escapeChar c with
  | case1 h => exact feedAll?_escaped pieces (x := 0x22) (by rw [h]; rfl) rfl (by decide)
  | case2 _ h => exact feedAll?_escaped pieces (x := 0x5C) (by rw [h]; rfl) rfl (by decide)
  | case3 quote solidus visible =>
    refine ⟨(String.utf8EncodeChar c).map .octet, Piece.bytes?_octets _, ?_⟩
    rw [Bytes.ofChars_cons, Bytes.ofChars_nil, List.append_nil]
    exact feedAll?_plain pieces _ fun x => plain_of_mem_utf8EncodeChar quote solidus visible
  | case4 _ _ _ h => exact feedAll?_escaped pieces (x := 0x08) (by rw [h]; rfl) rfl (by decide)
  | case5 _ _ _ _ h => exact feedAll?_escaped pieces (x := 0x09) (by rw [h]; rfl) rfl (by decide)
  | case6 _ _ _ _ _ h => exact feedAll?_escaped pieces (x := 0x0A) (by rw [h]; rfl) rfl (by decide)
  | case7 _ _ _ _ _ _ h =>
    exact feedAll?_escaped pieces (x := 0x0C) (by rw [h]; rfl) rfl (by decide)
  | case8 _ _ _ _ _ _ _ h =>
    exact feedAll?_escaped pieces (x := 0x0D) (by rw [h]; rfl) rfl (by decide)
  | case9 quote solidus control =>
    have control : c.toNat < 0x20 := Nat.lt_of_not_le control
    refine ⟨[.unit c.toNat], ?_, feedAll?_control pieces control⟩
    rw [Piece.bytes?.eq_def]
    dsimp only
    rw [if_neg (by omega), if_neg (by omega), Char.ofNat_toNat]
    simp [Piece.bytes?]

theorem feedAll?_escapeChars (builder : Builder) (cs : List Char) (pieces : List Piece) :
    ∃ more, Piece.bytes? more = some (Bytes.ofChars cs) ∧
      feedAll? ⟨.string pieces, builder⟩ (Bytes.ofChars (cs.flatMap escapeChar)) =
        some ⟨.string (more.reverse ++ pieces), builder⟩ := by
  induction cs generalizing pieces with
  | nil => exact ⟨[], rfl, rfl⟩
  | cons c rest ih =>
    obtain ⟨front, spells, first⟩ := feedAll?_escapeChar builder pieces c
    obtain ⟨more, spell, then_⟩ := ih (front.reverse ++ pieces)
    refine ⟨front ++ more, ?_, ?_⟩
    · rw [Piece.bytes?_append spells, spell]
      rfl
    · rw [List.flatMap_cons, Bytes.ofChars_append, feedAll?_append, first, Option.bind_some, then_,
        List.reverse_append, List.append_assoc]

/-- A written string is read as the token of that string. -/
theorem feedAll?_printString (s : Option String) :
    feedAll? ⟨.between, builder⟩ (Bytes.ofChars (printString s)) =
      (builder.take? (.string s)).map fun b => ⟨.between, b⟩ := by
  have begins : Scanner.between.step? 0x22 = some ([], .string []) := rfl
  have ends {pieces : List Piece} (h : Piece.text? pieces.reverse = s) :
      feedAll? ⟨.string pieces, builder⟩ [0x22] =
        (builder.take? (.string s)).map fun b => ⟨.between, b⟩ := by
    have step : (Scanner.string pieces).step? 0x22 = some ([.string s], .between) := by
      rw [← h]
      rfl
    rw [feedAll?_cons, feed?_of_token step]
    cases builder.take? (.string s) <;> rfl
  cases s with
  | none =>
    have read := feedAll?_unit builder [] (a := 0x64) (b := 0x38) (c := 0x30)
      (d := 0x30) (p := 13) (q := 8) (r := 0) (s := 0) rfl rfl rfl rfl
    change feedAll? ⟨.between, builder⟩
      (0x22 :: ([0x5C, 0x75, 0x64, 0x38, 0x30, 0x30] ++ [0x22])) = _
    rw [feedAll?_of_step begins, feedAll?_append, read]
    exact ends rfl
  | some s =>
    obtain ⟨pieces, spells, read⟩ := feedAll?_escapeChars builder s.toList []
    change feedAll? ⟨.between, builder⟩
      (0x22 :: Bytes.ofChars (s.toList.flatMap escapeChar ++ ['"'])) = _
    rw [feedAll?_of_step begins, Bytes.ofChars_append, feedAll?_append, read]
    refine ends ?_
    rw [List.append_nil, List.reverse_reverse, Piece.text?, spells]
    exact Bytes.text?_ofChars s

end Reader

namespace NumeralSoFar

/-- The number after octets that belong to it. -/
def extendAll? (n : NumeralSoFar) (b : Bytes) : Option NumeralSoFar :=
  b.foldlM extend? n

/-- A number of which at most the sign is read. -/
def signed (negative : Bool) : NumeralSoFar :=
  ⟨.sign, negative, 0, [], false, 0⟩

theorem extendAll?_append (n : NumeralSoFar) (front rest : Bytes) :
    n.extendAll? (front ++ rest) = (n.extendAll? front).bind fun n => n.extendAll? rest :=
  List.foldlM_append

def digit (d : Nat) : UInt8 :=
  UInt8.ofNat (48 + d)

theorem utf8EncodeChar_digitChar {d : Nat} (h : d < 10) :
    String.utf8EncodeChar (Nat.digitChar d) = [digit d] := by
  have each : ∀ d : Fin 10, String.utf8EncodeChar (Nat.digitChar d) = [digit d] := by decide
  exact each ⟨d, h⟩

theorem digit_range {d : Nat} (h : d < 10) :
    (0x30 ≤ digit d ∧ digit d ≤ 0x39) ∧ (digit d).toNat - 48 = d := by
  have each : ∀ d : Fin 10,
      (0x30 ≤ digit d ∧ digit d ≤ 0x39) ∧ (digit d).toNat - 48 = d.val := by decide
  exact each ⟨d, h⟩

/-- The digits of a number are read one by one, whatever it is that they are the digits of. -/
theorem extendAll?_digits {m : NumeralSoFar} (after : Nat → NumeralSoFar)
    (first : ∀ d < 10, m.extend? (digit d) = some (after d))
    (next : ∀ n d, 0 < n → d < 10 → (after n).extend? (digit d) = some (after (n * 10 + d)))
    (n : Nat) : m.extendAll? (Bytes.ofChars (Nat.toDigits 10 n)) = some (after n) := by
  induction n using Nat.strongRecOn with
  | ind n ih =>
    by_cases small : n < 10
    · rw [Nat.toDigits_of_lt_base small, Bytes.ofChars_cons, utf8EncodeChar_digitChar small]
      change (m.extend? (digit n)).bind some = _
      rw [first n small, Option.bind_some]
    · have last : n % 10 < 10 := Nat.mod_lt n (by decide)
      rw [Nat.toDigits_of_base_le (by decide) (Nat.le_of_not_lt small), Bytes.ofChars_append,
        extendAll?_append, ih (n / 10) (by omega), Option.bind_some, Bytes.ofChars_cons,
        utf8EncodeChar_digitChar last]
      change ((after (n / 10)).extend? (digit (n % 10))).bind some = _
      rw [next (n / 10) (n % 10) (by omega) last, Option.bind_some, Nat.div_add_mod']

theorem extendAll?_whole (negative : Bool) (n : Nat) :
    (signed negative).extendAll? (Bytes.ofChars (Nat.toDigits 10 n)) =
      some ⟨if n = 0 then .zero else .whole, negative, n, [], false, 0⟩ := by
  apply extendAll?_digits
    fun n => ⟨if n = 0 then .zero else .whole, negative, n, [], false, 0⟩
  · intro d small
    obtain ⟨range, value⟩ := digit_range small
    simp [extend?, range, value, signed]
  · intro n d positive small
    obtain ⟨range, value⟩ := digit_range small
    rw [if_neg (by omega), if_neg (by omega)]
    simp [extend?, range, value]

theorem extendAll?_exponent {m : NumeralSoFar} (part : m.part = .mark ∨ m.part = .markSign)
    (empty : m.exponent = 0) (n : Nat) :
    m.extendAll? (Bytes.ofChars (Nat.toDigits 10 n)) =
      some { m with part := .exponent, exponent := n } := by
  apply extendAll?_digits fun n => { m with part := .exponent, exponent := n }
  · intro d small
    obtain ⟨range, value⟩ := digit_range small
    rcases part with part | part <;> simp [extend?, range, value, part, empty]
  · intro n d _ small
    obtain ⟨range, value⟩ := digit_range small
    simp [extend?, range, value]

theorem extend?_fraction {m : NumeralSoFar} (part : m.part = .point ∨ m.part = .fraction)
    (d : Fin 10) :
    m.extend? (digit d) = some { m with part := .fraction, fraction := d :: m.fraction } := by
  obtain ⟨range, value⟩ := digit_range d.isLt
  rcases part with part | part <;> simp [extend?, range, value, part]

theorem extendAll?_fraction (m : NumeralSoFar) (digits : List (Fin 10)) :
    extendAll? { m with part := .fraction }
        (Bytes.ofChars (digits.map fun d => Nat.digitChar d.val)) =
      some { m with part := .fraction, fraction := digits.reverse ++ m.fraction } := by
  induction digits generalizing m with
  | nil => rfl
  | cons d rest ih =>
    rw [List.map_cons, Bytes.ofChars_cons, utf8EncodeChar_digitChar d.isLt, extendAll?_append]
    change ((extend? { m with part := .fraction } (digit d)).bind some).bind _ = _
    rw [extend?_fraction (.inr rfl), Option.bind_some, Option.bind_some]
    refine (ih { m with fraction := d :: m.fraction }).trans ?_
    rw [List.reverse_cons, List.append_assoc, List.singleton_append]

/-- The fraction of a number, if it has one, is read after its whole part. -/
theorem exists_extendAll?_point {m : NumeralSoFar} (part : m.part = .zero ∨ m.part = .whole)
    (empty : m.fraction = []) (digits : List (Fin 10)) :
    ∃ p, (p = .zero ∨ p = .whole ∨ p = .fraction) ∧
      m.extendAll? (Bytes.ofChars
        (if digits.isEmpty then [] else '.' :: digits.map fun d => Nat.digitChar d.val)) =
        some { m with part := p, fraction := digits.reverse } := by
  cases digits with
  | nil =>
    refine ⟨m.part, part.imp_right .inl, ?_⟩
    obtain ⟨_, _, _, fraction, _, _⟩ := m
    obtain rfl : fraction = [] := empty
    rfl
  | cons d rest =>
    have point : m.extend? 0x2E = some { m with part := .point } := by
      rcases part with part | part <;> simp [extend?, part]
    refine ⟨.fraction, .inr (.inr rfl), ?_⟩
    rw [List.isEmpty_cons, if_neg Bool.false_ne_true, List.map_cons, Bytes.ofChars_cons,
      Bytes.ofChars_cons, utf8EncodeChar_digitChar d.isLt]
    change (m.extend? 0x2E).bind (fun m => (m.extend? (digit d)).bind fun m => m.extendAll? _) = _
    rw [point, Option.bind_some, extend?_fraction (.inl rfl), Option.bind_some]
    refine (extendAll?_fraction { m with fraction := d :: m.fraction } rest).trans ?_
    rw [empty, List.reverse_cons]

/-- The exponent of a number, if it has one, is read last. -/
theorem exists_extendAll?_mark {m : NumeralSoFar}
    (part : m.part = .zero ∨ m.part = .whole ∨ m.part = .fraction)
    (plain : m.exponentNegative = false) (empty : m.exponent = 0) (exponent : Option Exponent) :
    ∃ after, after.finish? = some ⟨m.negative, m.whole, m.fraction.reverse, exponent⟩ ∧
      m.extendAll? (Bytes.ofChars (match exponent with
        | none => []
        | some e => 'e' :: ((if e.negative then ['-'] else []) ++ Nat.toDigits 10 e.size))) =
        some after := by
  cases exponent with
  | none =>
    refine ⟨m, ?_, rfl⟩
    rcases part with part | part | part <;> simp [finish?, part]
  | some e =>
    have mark : m.extend? 0x65 = some { m with part := .mark } := by
      rcases part with part | part | part <;> simp [extend?, part]
    refine ⟨{ m with part := .exponent, exponentNegative := e.negative, exponent := e.size },
      rfl, ?_⟩
    change (m.extend? 0x65).bind (fun m => m.extendAll? (Bytes.ofChars _)) = _
    rw [mark, Option.bind_some, Bytes.ofChars_append, extendAll?_append]
    cases sign : e.negative with
    | false =>
      refine (extendAll?_exponent (m := { m with part := .mark }) (.inl rfl) empty e.size).trans ?_
      rw [plain]
    | true =>
      exact extendAll?_exponent (m := { m with part := .markSign, exponentNegative := true })
        (.inr rfl) empty e.size

def unsigned (n : Numeral) : List Char :=
  printNumber { n with negative := false }

theorem printNumber_eq (n : Numeral) :
    printNumber n = (if n.negative then ['-'] else []) ++ unsigned n := by
  simp only [unsigned, printNumber, Bool.false_eq_true, if_false, List.nil_append,
    List.append_assoc]

/-- The whole of a written number is read as that number. -/
theorem exists_extendAll?_unsigned (n : Numeral) :
    ∃ after, after.finish? = some n ∧
      (signed n.negative).extendAll? (Bytes.ofChars (unsigned n)) = some after := by
  obtain ⟨p, part, point⟩ := exists_extendAll?_point
    (m := ⟨if n.whole = 0 then .zero else .whole, n.negative, n.whole, [], false, 0⟩)
    (by split <;> simp) rfl n.fraction
  obtain ⟨after, ends, mark⟩ := exists_extendAll?_mark
    (m := ⟨p, n.negative, n.whole, n.fraction.reverse, false, 0⟩) part rfl rfl n.exponent
  refine ⟨after, by rw [ends, List.reverse_reverse], ?_⟩
  rw [unsigned, printNumber, Bytes.ofChars_append, extendAll?_append, Bytes.ofChars_append,
    extendAll?_append, if_neg Bool.false_ne_true, List.nil_append, extendAll?_whole,
    Option.bind_some, point, Option.bind_some]
  exact mark

/-- No octet that follows a value belongs to a number. -/
theorem extend?_delimiter (n : NumeralSoFar) {x : UInt8} (h : x = 0x2C ∨ x = 0x5D ∨ x = 0x7D) :
    n.extend? x = none := by
  rcases h with rfl | rfl | rfl <;> rfl

/-- The first octet of a number without a sign is a digit. -/
theorem digit_of_extend? {x : UInt8} {m : NumeralSoFar} (h : (signed false).extend? x = some m) :
    ∃ d < 10, x = digit d := by
  by_cases range : 0x30 ≤ x ∧ x ≤ 0x39
  · obtain ⟨least, most⟩ := range
    have least : 48 ≤ x.toNat := UInt8.le_iff_toNat_le.mp least
    have most : x.toNat ≤ 57 := UInt8.le_iff_toNat_le.mp most
    refine ⟨x.toNat - 48, by omega, ?_⟩
    rw [digit, Nat.add_sub_cancel' least, UInt8.ofNat_toNat]
  · rw [extend?, if_neg range] at h
    simp [signed] at h

theorem fresh?_of_extend? {x : UInt8} {m : NumeralSoFar} (h : (signed false).extend? x = some m) :
    Scanner.fresh? x = some ([], .number m) := by
  obtain ⟨d, small, rfl⟩ := digit_of_extend? h
  interval_cases d <;> cases h <;> rfl

end NumeralSoFar

namespace Reader

variable {builder : Builder}

theorem feedAll?_of_extendAll? {m after : NumeralSoFar} {b : Bytes}
    (h : m.extendAll? b = some after) :
    feedAll? ⟨.number m, builder⟩ b = some ⟨.number after, builder⟩ := by
  induction b generalizing m with
  | nil =>
    obtain rfl := Option.some.inj h
    rfl
  | cons x rest ih =>
    obtain ⟨next, extends_, more⟩ := Option.bind_eq_some_iff.mp h
    have step : (Scanner.number m).step? x = some ([], .number next) := by
      simp [Scanner.step?, extends_]
    rw [feedAll?_of_step step, ih more]

/-- A written number is read but for its end, which shows only in what follows. -/
theorem exists_feedAll?_printNumber (builder : Builder) (n : Numeral) :
    ∃ after : NumeralSoFar, after.finish? = some n ∧
      feedAll? ⟨.between, builder⟩ (Bytes.ofChars (printNumber n)) =
        some ⟨.number after, builder⟩ := by
  obtain ⟨after, ends, read⟩ := NumeralSoFar.exists_extendAll?_unsigned n
  refine ⟨after, ends, ?_⟩
  rw [NumeralSoFar.printNumber_eq, Bytes.ofChars_append]
  cases sign : n.negative with
  | true =>
    rw [sign] at read
    change feedAll? ⟨.between, builder⟩ (0x2D :: Bytes.ofChars (NumeralSoFar.unsigned n)) = _
    have step : Scanner.between.step? 0x2D = some ([], .number (NumeralSoFar.signed true)) := rfl
    rw [feedAll?_of_step step, feedAll?_of_extendAll? read]
  | false =>
    rw [sign] at read
    change feedAll? ⟨.between, builder⟩ (Bytes.ofChars (NumeralSoFar.unsigned n)) = _
    cases octets : Bytes.ofChars (NumeralSoFar.unsigned n) with
    | nil =>
      -- No octet, no number: the digits of the whole part are never missing.
      rw [octets] at read
      obtain rfl := Option.some.inj read
      cases ends
    | cons x rest =>
      rw [octets] at read
      obtain ⟨first, begins, more⟩ := Option.bind_eq_some_iff.mp read
      rw [feedAll?_of_step (s := .between) (NumeralSoFar.fresh?_of_extend? begins),
        feedAll?_of_extendAll? more]

end Reader

end Json

end FederationTrust
