import FederationTrust.Proofs.Json.Tokens

/-!
# Written documents read back

Every value is read back from its compact text, whatever its strings, numbers and depth.
The proof follows the value: where a value may come, the octets of its compact text leave the
value with the innermost array or object that is open. Only the end of a number is not seen in
the number itself, so after a number the reader is still about to take it.
-/

namespace FederationTrust

namespace Json

namespace Builder

/-- Whether a value may come that joins these open arrays and objects. -/
def Awaits (b : Builder) (frames : List Frame) : Prop :=
  ∀ t, t ≠ .closeArray → b.take? t = begin? frames t

theorem awaits_value (frames : List Frame) : (value frames).Awaits frames :=
  fun _ _ => rfl

theorem awaits_firstItem (frames : List Frame) :
    (firstItem frames).Awaits (.array [] :: frames) := by
  intro t open_
  cases t with
  | closeArray => exact absurd rfl open_
  | openArray | openObject | closeObject | comma | colon | null | bool | number | string => rfl

/-- Whether the name of a member may come after these members. -/
def AwaitsName (b : Builder) (members : List (Option String × Json)) (frames : List Frame) : Prop :=
  ∀ name, b.take? (.string name) = some (.colon members name frames)

theorem awaitsName_firstName (frames : List Frame) : (firstName frames).AwaitsName [] frames :=
  fun _ => rfl

theorem awaitsName_nextName (members : List (Option String × Json)) (frames : List Frame) :
    (nextName members frames).AwaitsName members frames :=
  fun _ => rfl

end Builder

namespace Reader

/-- The reader has read enough for the builder to stand as given once the next token begins. -/
inductive Settled : Reader → Builder → Prop
  | between (b : Builder) : Settled ⟨.between, b⟩ b
  | number {n : NumeralSoFar} {numeral : Numeral} {b after : Builder}
    (ends : n.finish? = some numeral) (takes : b.take? (.number numeral) = some after) :
    Settled ⟨.number n, b⟩ after

/-- A delimiter ends what comes before it and is taken as a token itself. -/
theorem Settled.feed? {r : Reader} {b : Builder} (h : Settled r b) {x : UInt8} {t : Token}
    (delimiter : x = 0x2C ∨ x = 0x5D ∨ x = 0x7D)
    (token : Scanner.fresh? x = some ([t], .between)) :
    r.feed? x = (b.take? t).map fun b => ⟨.between, b⟩ := by
  cases h with
  | between => exact feed?_of_token (s := .between) token
  | @number n numeral b after ends takes =>
    have step : (Scanner.number n).step? x = some ([.number numeral, t], .between) := by
      simp [Scanner.step?, n.extend?_delimiter delimiter, ends, token]
    simp only [Reader.feed?, step, Option.bind_eq_bind, Option.bind_some, List.foldlM_cons, takes,
      List.foldlM_nil, Option.pure_def, Option.bind_fun_some]
    exact (Option.map_eq_bind ..).symm

theorem Settled.finish? {r : Reader} {j : Json} (h : Settled r (.done j)) :
    r.finish? = some j := by
  cases h with
  | between => rfl
  | number ends takes => simp [Reader.finish?, Scanner.finish?, ends, takes]

/-- A word that stands for a token. -/
theorem feedAll?_word {b : Builder} {x : UInt8} {rest : Bytes} {t : Token}
    (begins : Scanner.fresh? x = some ([], .word rest t)) (more : rest ≠ []) :
    feedAll? ⟨.between, b⟩ (x :: rest) = (b.take? t).map fun b => ⟨.between, b⟩ := by
  rw [feedAll?_of_step (s := .between) begins]
  clear begins
  induction rest with
  | nil => exact absurd rfl more
  | cons y rest ih =>
    cases rest with
    | nil =>
      have step : (Scanner.word [y] t).step? y = some ([t], .between) := by simp [Scanner.step?]
      rw [feedAll?_cons, feed?_of_token step]
      cases b.take? t <;> rfl
    | cons z rest =>
      have step : (Scanner.word (y :: z :: rest) t).step? y = some ([], .word (z :: rest) t) := by
        simp [Scanner.step?]
      rw [feedAll?_of_step step]
      exact ih (List.cons_ne_nil z rest)

theorem null_begins : Scanner.fresh? 0x6E = some ([], .word [0x75, 0x6C, 0x6C] .null) := rfl

theorem true_begins : Scanner.fresh? 0x74 = some ([], .word [0x72, 0x75, 0x65] (.bool true)) := rfl

theorem false_begins :
    Scanner.fresh? 0x66 = some ([], .word [0x61, 0x6C, 0x73, 0x65] (.bool false)) := rfl

/-- A value that is one token. -/
theorem exists_settled_of_token {b : Builder} {frames : List Frame} {octets : Bytes} {t : Token}
    {j : Json} (awaits : b.Awaits frames)
    (read : feedAll? ⟨.between, b⟩ octets = (b.take? t).map fun b => ⟨.between, b⟩)
    (value : Builder.begin? frames t = some (Builder.put j frames)) (opens : t ≠ .closeArray) :
    ∃ r, feedAll? ⟨.between, b⟩ octets = some r ∧ Settled r (Builder.put j frames) := by
  refine ⟨_, read.trans ?_, .between _⟩
  rw [awaits t opens, value]
  rfl

theorem feedAll?_of_token {b after : Builder} {x : UInt8} {t : Token}
    (token : Scanner.fresh? x = some ([t], .between)) (takes : b.take? t = some after)
    (rest : Bytes) : feedAll? ⟨.between, b⟩ (x :: rest) = feedAll? ⟨.between, after⟩ rest := by
  rw [feedAll?_cons, feed?_of_token (s := .between) token, takes, Option.map_some, Option.bind_some]

/-- What is read up to a delimiter is read with it. -/
theorem Settled.feedAll?_append {r₀ r : Reader} {b after : Builder} {front : Bytes}
    (read : r₀.feedAll? front = some r) (h : Settled r b) {x : UInt8} {t : Token}
    (delimiter : x = 0x2C ∨ x = 0x5D ∨ x = 0x7D)
    (token : Scanner.fresh? x = some ([t], .between)) (takes : b.take? t = some after)
    (rest : Bytes) : r₀.feedAll? (front ++ x :: rest) = feedAll? ⟨.between, after⟩ rest := by
  rw [Reader.feedAll?_append, read, Option.bind_some, feedAll?_cons, h.feed? delimiter token, takes,
    Option.map_some, Option.bind_some]

theorem ofChars_print_array (items : List Json) : Bytes.ofChars (print (.array items)) =
    0x5B :: (Bytes.ofChars (printItems items) ++ [0x5D]) := by
  rw [print, Bytes.ofChars_append]
  rfl

theorem ofChars_print_object (members : List (Option String × Json)) :
    Bytes.ofChars (print (.object members)) =
      0x7B :: (Bytes.ofChars (printMembers members) ++ [0x7D]) := by
  rw [print, Bytes.ofChars_append]
  rfl

mutual

/-- The compact text of a value is read as that value, where one may come. -/
theorem exists_settled_print (j : Json) {b : Builder} {frames : List Frame}
    (awaits : b.Awaits frames) :
    ∃ r, feedAll? ⟨.between, b⟩ (Bytes.ofChars (print j)) = some r ∧
      Settled r (Builder.put j frames) := by
  match j with
  | .null => exact exists_settled_of_token awaits (feedAll?_word null_begins nofun) rfl nofun
  | .bool true => exact exists_settled_of_token awaits (feedAll?_word true_begins nofun) rfl nofun
  | .bool false => exact exists_settled_of_token awaits (feedAll?_word false_begins nofun) rfl nofun
  | .number n =>
    obtain ⟨after, ends, read⟩ := exists_feedAll?_printNumber b n
    exact ⟨_, read, .number ends (awaits _ nofun)⟩
  | .string s => exact exists_settled_of_token awaits (feedAll?_printString s) rfl nofun
  | .array items =>
    rw [ofChars_print_array, feedAll?_of_token rfl (awaits .openArray nofun)]
    cases items with
    | nil => exact ⟨_, rfl, .between _⟩
    | cons item rest =>
      obtain ⟨r, read, settled⟩ := exists_settled_printItems (item :: rest) nofun
        (Builder.awaits_firstItem frames)
      refine ⟨_, settled.feedAll?_append read (.inr (.inl rfl)) rfl rfl [], ?_⟩
      rw [List.append_nil, List.reverse_reverse]
      exact .between _
  | .object members =>
    rw [ofChars_print_object, feedAll?_of_token rfl (awaits .openObject nofun)]
    cases members with
    | nil => exact ⟨_, rfl, .between _⟩
    | cons m rest =>
      obtain ⟨r, name, read, settled⟩ := exists_settled_printMembers (m :: rest) nofun
        (Builder.awaitsName_firstName frames)
      refine ⟨_, settled.feedAll?_append read (.inr (.inr rfl)) rfl rfl [], ?_⟩
      rw [List.append_nil, List.reverse_reverse]
      exact .between _

/-- The elements of an array join those that were read before them. -/
theorem exists_settled_printItems (items : List Json) (more : items ≠ []) {b : Builder}
    {before : List Json} {frames : List Frame} (awaits : b.Awaits (.array before :: frames)) :
    ∃ r, feedAll? ⟨.between, b⟩ (Bytes.ofChars (printItems items)) = some r ∧
      Settled r (.after (.array (items.reverse ++ before)) frames) := by
  match items with
  | [] => exact absurd rfl more
  | item :: rest =>
    obtain ⟨r, read, settled⟩ := exists_settled_print item awaits
    rw [printItems, Bytes.ofChars_append]
    cases rest with
    | nil =>
      refine ⟨r, ?_, settled⟩
      rw [List.isEmpty_nil, if_pos rfl, Bytes.ofChars_nil, List.append_nil, read]
    | cons next rest =>
      obtain ⟨last, more, ends⟩ := exists_settled_printItems (next :: rest) nofun
        (Builder.awaits_value (.array (item :: before) :: frames))
      refine ⟨last, ?_, ?_⟩
      · rw [List.isEmpty_cons, if_neg Bool.false_ne_true]
        exact (settled.feedAll?_append read (.inl rfl) rfl rfl _).trans more
      · rw [List.reverse_cons, List.append_assoc]
        exact ends

/-- The members of an object join those that were read before them. -/
theorem exists_settled_printMembers (members : List (Option String × Json)) (more : members ≠ [])
    {b : Builder} {before : List (Option String × Json)} {frames : List Frame}
    (awaits : b.AwaitsName before frames) :
    ∃ r name, feedAll? ⟨.between, b⟩ (Bytes.ofChars (printMembers members)) = some r ∧
      Settled r (.after (.object (members.reverse ++ before) name) frames) := by
  match members with
  | [] => exact absurd rfl more
  | (name, value) :: rest =>
    obtain ⟨r, read, settled⟩ := exists_settled_print value
      (Builder.awaits_value (.object before name :: frames))
    have named : feedAll? ⟨.between, b⟩ (Bytes.ofChars (printString name ++ ':' :: print value)) =
        some r := by
      rw [Bytes.ofChars_append, feedAll?_append, feedAll?_printString, awaits name, Option.map_some,
        Option.bind_some]
      exact (feedAll?_of_token (x := 0x3A) rfl rfl _).trans read
    rw [printMembers, Bytes.ofChars_append]
    cases rest with
    | nil =>
      refine ⟨r, name, ?_, settled⟩
      rw [List.isEmpty_nil, if_pos rfl, Bytes.ofChars_nil, List.append_nil, named]
    | cons next rest =>
      obtain ⟨last, final, more, ends⟩ := exists_settled_printMembers (next :: rest) nofun
        (Builder.awaitsName_nextName ((name, value) :: before) frames)
      refine ⟨last, final, ?_, ?_⟩
      · rw [List.isEmpty_cons, if_neg Bool.false_ne_true]
        exact (settled.feedAll?_append named (.inl rfl) rfl rfl _).trans more
      · rw [List.reverse_cons, List.append_assoc]
        exact ends

end

end Reader

/-- A document in compact form holds the value it was written from. -/
theorem parse?_render (j : Json) : parse? (Bytes.ofText j.render) = some j := by
  obtain ⟨r, read, settled⟩ := Reader.exists_settled_print j (Builder.awaits_value [])
  rw [render, Bytes.ofText_ofList]
  exact (congrArg (·.bind Reader.finish?) read).trans settled.finish?

end Json

end FederationTrust
