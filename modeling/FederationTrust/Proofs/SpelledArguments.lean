import FederationTrust.Proofs.Attempts
import FederationTrust.Proofs.EnvironmentOptions
import Mathlib.Data.List.TakeWhile

/-!
# What arguments spell

The arguments of a command spell options with the texts of their values, flags and operands.
Whatever they spell, reading them is taking in these words one after another, and arguments that
are read do spell some. What is read of them is therefore all that the words say.
-/

namespace FederationTrust

namespace CommandLine

/-- A part of what arguments say: an option with the text of its value, a flag, or an operand. -/
inductive Word where
  | value (o : OptionSpec) (text : String)
  | flag (o : OptionSpec)
  | operand (text : String)
  deriving DecidableEq, Repr

def Given.addWord (grammar : Grammar) (g : Given) : Word → Except Interruption Given
  | .value o text => g.addText o text
  | .flag o => g.add o [.flag]
  | .operand text => g.addOperand grammar text

namespace Grammar

variable {grammar : Grammar} {g next : Given} {argument : String} {arguments : List String}
  {words : List Word} {o : OptionSpec}

/-- A grammar whose options can be told apart by their names and letters, and in which only flags
have letters. -/
structure Plain (grammar : Grammar) : Prop where
  names : ∀ o ∈ grammar.options, ∀ other ∈ grammar.options, o.name = other.name → o = other
  letters : ∀ o ∈ grammar.options, ∀ other ∈ grammar.options, o.letter.isSome →
    o.letter = other.letter → o = other
  named : ∀ o ∈ grammar.options, o.name ≠ "" ∧ '=' ∉ o.name.toList
  flags : ∀ o ∈ grammar.options, o.letter.isSome → o.kind = .flag ∧ o.letter ≠ some '-'

def IsLetter (grammar : Grammar) (c : Char) (o : OptionSpec) : Prop :=
  o ∈ grammar.options ∧ o.letter = some c

/-- What one argument that is an option spells by itself. -/
inductive OptionSpelled (grammar : Grammar) : String → List Word → Prop where
  | joined {o : OptionSpec} (known : o ∈ grammar.options) (takes : o.kind ≠ .flag)
    (text : String) : OptionSpelled grammar ("--" ++ o.name ++ "=" ++ text) [.value o text]
  | long {o : OptionSpec} (known : o ∈ grammar.options) (isFlag : o.kind = .flag) :
    OptionSpelled grammar ("--" ++ o.name) [.flag o]
  | letters {letters : List Char} {flags : List OptionSpec} (nonempty : letters ≠ [])
    (each : List.Forall₂ grammar.IsLetter letters flags) :
    OptionSpelled grammar ("-" ++ String.ofList letters) (flags.map .flag)

/-- What arguments spell. -/
inductive Spelled (grammar : Grammar) : List String → List Word → Prop where
  | nil : Spelled grammar [] []
  | apart {o : OptionSpec} {text : String} {rest : List String} {words : List Word}
    (known : o ∈ grammar.options) (takes : o.kind ≠ .flag) (plain : isOption text = false)
    (more : Spelled grammar rest words) :
    Spelled grammar (("--" ++ o.name) :: text :: rest) (.value o text :: words)
  | option {argument : String} {first words : List Word} {rest : List String}
    (spelled : OptionSpelled grammar argument first) (more : Spelled grammar rest words) :
    Spelled grammar (argument :: rest) (first ++ words)
  | operand {text : String} {rest : List String} {words : List Word}
    (plain : isOption text = false) (more : Spelled grammar rest words) :
    Spelled grammar (text :: rest) (.operand text :: words)
  | ended (rest : List String) : Spelled grammar ("--" :: rest) (rest.map .operand)

namespace Plain

theorem find?_name (plain : grammar.Plain) (known : o ∈ grammar.options) :
    grammar.options.find? (·.name == o.name) = some o := by
  cases found : grammar.options.find? (·.name == o.name) with
  | none => exact absurd (beq_self_eq_true o.name) (List.find?_eq_none.mp found o known)
  | some other =>
    have named := List.find?_some found
    rw [plain.names other (List.mem_of_find?_eq_some found) o known (eq_of_beq named)]

theorem find?_letter (plain : grammar.Plain) {c : Char} (letter : grammar.IsLetter c o) :
    grammar.options.find? (·.letter == some c) = some o := by
  obtain ⟨known, lettered⟩ := letter
  cases found : grammar.options.find? (·.letter == some c) with
  | none => exact absurd (beq_iff_eq.mpr lettered) (List.find?_eq_none.mp found o known)
  | some other =>
    have alike := List.find?_some found
    have same : other.letter = some c := eq_of_beq alike
    rw [plain.letters other (List.mem_of_find?_eq_some found) o known (by rw [same]; rfl)
      (same.trans lettered.symm)]

theorem flag_of_letter (plain : grammar.Plain) {c : Char} (letter : grammar.IsLetter c o) :
    o.kind = .flag ∧ c ≠ '-' := by
  obtain ⟨known, lettered⟩ := letter
  obtain ⟨isFlag, other⟩ := plain.flags o known (by rw [lettered]; rfl)
  refine ⟨isFlag, ?_⟩
  rintro rfl
  exact other lettered

theorem name_whole (plain : grammar.Plain) (known : o ∈ grammar.options) :
    ∀ c ∈ o.name.toList, decide (c ≠ '=') = true :=
  fun _ member => decide_eq_true fun same => (plain.named o known).2 (same ▸ member)

/-- A name alone is that of a flag, or of an option that waits for its value. -/
theorem readLong_name (plain : grammar.Plain) (known : o ∈ grammar.options) (g : Given) :
    grammar.readLong g o.name.toList =
      if o.kind = .flag then (g.add o [.flag]).map fun g => (none, g) else .ok (some o, g) := by
  have whole := plain.name_whole known
  rw [readLong, List.takeWhile_eq_self_iff.mpr whole, List.dropWhile_eq_nil_iff.mpr whole,
    String.ofList_toList, plain.find?_name known]

/-- Behind an equals sign stands the text of the value. -/
theorem readLong_joined (plain : grammar.Plain) (known : o ∈ grammar.options) (g : Given)
    (text : String) :
    grammar.readLong g (o.name.toList ++ '=' :: text.toList) =
      (g.addText o text).map fun g => (none, g) := by
  have whole := plain.name_whole known
  rw [readLong, List.takeWhile_append_of_pos whole, List.dropWhile_append_of_pos whole,
    List.takeWhile_cons_of_neg (by simp), List.dropWhile_cons_of_neg (by simp), List.append_nil,
    String.ofList_toList, plain.find?_name known]
  dsimp only
  rw [String.ofList_toList]

/-- Letters are the flags that have them. -/
theorem readLetters_eq (plain : grammar.Plain) {letters : List Char} {flags : List OptionSpec}
    (each : List.Forall₂ grammar.IsLetter letters flags) (g : Given) :
    grammar.readLetters g letters =
      ((flags.map Word.flag).foldlM (Given.addWord grammar) g).map fun g => (none, g) := by
  induction each generalizing g with
  | nil => rfl
  | @cons c o letters flags letter _ ih =>
    have isFlag := (plain.flag_of_letter letter).1
    rw [readLetters.eq_def]
    dsimp only
    rw [plain.find?_letter letter]
    dsimp only
    rw [if_pos isFlag, List.map_cons, List.foldlM_cons, Given.addWord]
    cases g.add o [.flag] with
    | error e => rfl
    | ok g' => exact ih g'

end Plain

theorem toList_dashed (name : String) : ("--" ++ name).toList = '-' :: '-' :: name.toList :=
  String.toList_append

theorem toList_dash (letters : List Char) :
    ("-" ++ String.ofList letters).toList = '-' :: letters := by
  simp

theorem readOption_dashed (name : String) (g : Given) :
    grammar.readOption g ("--" ++ name) = grammar.readLong g name.toList := by
  rw [readOption, toList_dashed]
  rfl

theorem isOption_dashed {name : String} : isOption ("--" ++ name) = true := by
  rw [isOption, toList_dashed]
  rfl

theorem Plain.dashed_ne (plain : grammar.Plain) (known : o ∈ grammar.options) (tail : String) :
    "--" ++ (o.name ++ tail) ≠ "--" := by
  intro same
  have letters := congrArg String.toList same
  rw [toList_dashed] at letters
  have empty : o.name = "" ∧ tail = "" := by simpa using letters
  exact (plain.named o known).1 empty.1

/-- An argument that is an option is read as what it spells. -/
theorem OptionSpelled.readOption_eq (plain : grammar.Plain) {first : List Word}
    (spelled : grammar.OptionSpelled argument first) (g : Given) :
    argument ≠ "--" ∧ isOption argument = true ∧ grammar.readOption g argument =
      (first.foldlM (Given.addWord grammar) g).map fun g => (none, g) := by
  cases spelled with
  | @joined o known takes text =>
    rw [String.append_assoc, String.append_assoc]
    refine ⟨plain.dashed_ne known _, isOption_dashed, ?_⟩
    rw [readOption_dashed, String.toList_append, String.toList_append]
    refine (plain.readLong_joined known g text).trans ?_
    rw [List.foldlM_cons, Given.addWord]
    cases g.addText o text <;> rfl
  | @long o known isFlag =>
    have apart := plain.dashed_ne known ""
    rw [String.append_empty] at apart
    refine ⟨apart, isOption_dashed, ?_⟩
    rw [readOption_dashed, plain.readLong_name known, if_pos isFlag, List.foldlM_cons,
      Given.addWord]
    cases g.add o [.flag] <;> rfl
  | @letters letters flags nonempty each =>
    obtain ⟨c, rest, rfl⟩ := List.exists_cons_of_ne_nil nonempty
    have dashed := toList_dash (c :: rest)
    have single : c ≠ '-' := by
      cases each with
      | cons letter _ => exact (plain.flag_of_letter letter).2
    refine ⟨fun same => ?_, ?_, ?_⟩
    · have whole := dashed.symm.trans (congrArg String.toList same)
      exact single (List.cons.inj (List.cons.inj whole).2).1
    · rw [isOption, dashed]
      rfl
    · rw [← plain.readLetters_eq each, readOption, dashed]
      split
      · rename_i same
        exact absurd (List.cons.inj (List.cons.inj same).2).1 single
      · rename_i same
        rw [(List.cons.inj same).2]
      · rename_i same
        cases same

theorem readOperands_eq (texts : List String) (g : Given) :
    grammar.readOperands g texts =
      (texts.map Word.operand).foldlM (Given.addWord grammar) g := by
  induction texts generalizing g with
  | nil => rfl
  | cons text rest ih =>
    rw [readOperands, List.map_cons, List.foldlM_cons, Given.addWord]
    exact bind_congr ih

/-- Arguments are read by taking in the words that they spell, with the same error if there is
any. -/
theorem Spelled.read_eq (plain : grammar.Plain) (spelled : grammar.Spelled arguments words)
    (g : Given) :
    grammar.read none g arguments = words.foldlM (Given.addWord grammar) g := by
  induction spelled generalizing g with
  | nil => rfl
  | @apart o text rest words known takes noOption _ ih =>
    have apart := plain.dashed_ne known ""
    rw [String.append_empty] at apart
    rw [read_option apart isOption_dashed, readOption_dashed, plain.readLong_name known,
      if_neg takes]
    show grammar.read (some o) g (text :: rest) = _
    rw [read_value noOption, List.foldlM_cons, Given.addWord]
    exact bind_congr ih
  | @option argument first words rest spelled _ ih =>
    obtain ⟨apart, anOption, read⟩ := spelled.readOption_eq plain g
    rw [read_option apart anOption, read, List.foldlM_append]
    cases first.foldlM (Given.addWord grammar) g with
    | error e => rfl
    | ok g' => exact ih g'
  | @operand text rest words noOption _ ih =>
    rw [read_operand noOption, List.foldlM_cons, Given.addWord]
    exact bind_congr ih
  | ended rest =>
    rw [read_ended]
    exact readOperands_eq rest g

/-- An argument that is read as letters spells flags. -/
theorem exists_letters_of_readLetters (plain : grammar.Plain) {letters : List Char}
    {waiting : Option OptionSpec} (read : grammar.readLetters g letters = .ok (waiting, next)) :
    waiting = none ∧ ∃ flags, List.Forall₂ grammar.IsLetter letters flags := by
  induction letters generalizing g with
  | nil =>
    cases read
    exact ⟨rfl, [], .nil⟩
  | cons c rest ih =>
    rw [readLetters.eq_def] at read
    dsimp only at read
    split at read
    · rename_i o found
      have lettered := List.find?_some found
      have letter : grammar.IsLetter c o :=
        ⟨List.mem_of_find?_eq_some found, eq_of_beq lettered⟩
      rw [if_pos (plain.flag_of_letter letter).1] at read
      obtain ⟨g', -, further⟩ := (exceptBind_eq_ok_iff _ _ _).mp read
      obtain ⟨none, flags, each⟩ := ih further
      exact ⟨none, o :: flags, .cons letter each⟩
    · split at read
      · cases read
      · split at read <;> cases read

/-- What is read behind two dashes spells a word, or is the name of an option that waits for its
value. -/
theorem spelled_of_readLong {waiting : Option OptionSpec} {whole : List Char}
    (read : grammar.readLong g whole = .ok (waiting, next)) :
    (waiting = none ∧ ∃ first, grammar.OptionSpelled ("--" ++ String.ofList whole) first) ∨
      ∃ o ∈ grammar.options, waiting = some o ∧ o.kind ≠ .flag ∧ String.ofList whole = o.name := by
  have parts : whole.takeWhile (· ≠ '=') ++ whole.dropWhile (· ≠ '=') = whole :=
    List.takeWhile_append_dropWhile
  have head := List.head?_dropWhile_not (· ≠ '=') whole
  rw [readLong] at read
  generalize whole.takeWhile (· ≠ '=') = name at read parts
  generalize whole.dropWhile (· ≠ '=') = tail at read parts head
  split at read
  · rename_i o found none
    cases tail with
    | cons c value => cases none
    | nil =>
      have named := List.find?_some found
      have known := List.mem_of_find?_eq_some found
      have same : String.ofList whole = o.name := by
        rw [← parts, List.append_nil, eq_of_beq named]
      split at read
      · rename_i isFlag
        obtain ⟨g', -, ⟨⟩⟩ := (exceptMap_eq_ok_iff _ _ _).mp read
        rw [same]
        exact .inl ⟨rfl, _, .long known isFlag⟩
      · rename_i takes
        cases read
        exact .inr ⟨o, known, rfl, takes, same⟩
  · rename_i o text found some
    cases tail with
    | nil => cases some
    | cons c value =>
      cases some
      have named := List.find?_some found
      have known := List.mem_of_find?_eq_some found
      obtain rfl : c = '=' := by simpa using head
      have same : "--" ++ String.ofList whole = "--" ++ o.name ++ "=" ++ String.ofList value := by
        rw [← parts, String.ofList_append, ← eq_of_beq named]
        simp [← String.toList_inj]
      obtain ⟨g', taken, ⟨⟩⟩ := (exceptMap_eq_ok_iff _ _ _).mp read
      obtain ⟨values, ofKind, -⟩ := Given.addText_ok taken
      rw [same]
      refine .inl ⟨rfl, _, .joined known (fun isFlag => ?_) _⟩
      rw [isFlag] at ofKind
      cases ofKind
  · split at read
    · cases read
    · split at read <;> cases read
  · cases read

/-- An argument that is read as an option spells words, or is the name of an option that waits for
its value. -/
theorem spelled_of_readOption (plain : grammar.Plain) {waiting : Option OptionSpec}
    (anOption : isOption argument = true)
    (read : grammar.readOption g argument = .ok (waiting, next)) :
    (waiting = none ∧ ∃ first, grammar.OptionSpelled argument first) ∨
      ∃ o ∈ grammar.options, waiting = some o ∧ o.kind ≠ .flag ∧ argument = "--" ++ o.name := by
  rw [readOption] at read
  split at read
  · rename_i whole letters
    have same : argument = "--" ++ String.ofList whole := by
      rw [← String.toList_inj, letters, toList_dashed, String.toList_ofList]
    rw [same]
    rcases spelled_of_readLong read with spelled | ⟨o, known, waits, takes, named⟩
    · exact .inl spelled
    · exact .inr ⟨o, known, waits, takes, congrArg _ named⟩
  · rename_i first whole _ letters
    obtain ⟨rfl, flags, each⟩ := exists_letters_of_readLetters plain read
    rw [isOption, letters] at anOption
    split at anOption
    · rename_i c more begins
      obtain ⟨rfl, rfl⟩ := List.cons.inj begins
      have same : argument = "-" ++ String.ofList (c :: more) := by
        rw [← String.toList_inj, letters, toList_dash]
      rw [same]
      exact .inl ⟨rfl, _, .letters (List.cons_ne_nil c more) each⟩
    · cases anOption
  · cases read

/-- Arguments that spell words, behind the value that an option waits for. -/
def SpelledBehind (grammar : Grammar) (waiting : Option OptionSpec) (arguments : List String) :
    Prop :=
  match waiting with
  | none => ∃ words, grammar.Spelled arguments words
  | some _ => ∃ text rest words, arguments = text :: rest ∧ isOption text = false ∧
      grammar.Spelled rest words

/-- Arguments that are read spell words. -/
theorem spelledBehind_of_read (plain : grammar.Plain) {waiting : Option OptionSpec}
    (read : grammar.read waiting g arguments = .ok next) :
    grammar.SpelledBehind waiting arguments := by
  induction arguments generalizing g waiting with
  | nil =>
    cases waiting with
    | none => exact ⟨[], .nil⟩
    | some o => cases read
  | cons argument rest ih =>
    cases waiting with
    | some o =>
      cases anOption : isOption argument with
      | true =>
        rw [read_value_of_option anOption] at read
        cases read
      | false =>
        rw [read_value anOption] at read
        obtain ⟨g', -, further⟩ := (exceptBind_eq_ok_iff _ _ _).mp read
        obtain ⟨words, spelled⟩ := ih further
        exact ⟨argument, rest, words, rfl, anOption, spelled⟩
    | none =>
      by_cases last : argument = "--"
      · subst last
        exact ⟨_, .ended rest⟩
      · cases anOption : isOption argument with
        | true =>
          rw [read_option last anOption] at read
          obtain ⟨⟨waiting, g'⟩, ofOption, further⟩ := (exceptBind_eq_ok_iff _ _ _).mp read
          rcases spelled_of_readOption plain anOption ofOption with
            ⟨rfl, first, spelled⟩ | ⟨o, known, rfl, takes, rfl⟩
          · obtain ⟨words, more⟩ := ih further
            exact ⟨first ++ words, .option spelled more⟩
          · obtain ⟨text, others, words, rfl, noOption, more⟩ := ih further
            exact ⟨.value o text :: words, .apart known takes noOption more⟩
        | false =>
          rw [read_operand anOption] at read
          obtain ⟨g', -, further⟩ := (exceptBind_eq_ok_iff _ _ _).mp read
          obtain ⟨words, spelled⟩ := ih further
          exact ⟨.operand argument :: words, .operand anOption spelled⟩

/-- Arguments are read exactly if they spell words that can be taken in, and the words say what is
read. -/
theorem read_eq_ok_iff (plain : grammar.Plain) :
    grammar.read none g arguments = .ok next ↔
      ∃ words, grammar.Spelled arguments words ∧
        words.foldlM (Given.addWord grammar) g = .ok next := by
  constructor
  · intro read
    obtain ⟨words, spelled⟩ := spelledBehind_of_read plain read
    exact ⟨words, spelled, (spelled.read_eq plain g).symm.trans read⟩
  · rintro ⟨words, spelled, taken⟩
    exact (spelled.read_eq plain g).trans taken

end Grammar

def Word.textFor? (name : String) : Word → Option String
  | .value o text => if o.name = name then some text else none
  | _ => none

def Word.operand? : Word → Option String
  | .operand text => some text
  | _ => none

def textsOf (name : String) (words : List Word) : List String :=
  words.filterMap (Word.textFor? name)

def commaPieces (text : String) : List String :=
  (Text.splitAt ',' text.toList).map String.ofList

def operandsOf (words : List Word) : List String :=
  words.filterMap Word.operand?

@[simp] theorem textsOf_concat (name : String) (words : List Word) (word : Word) :
    textsOf name (words ++ [word]) = textsOf name words ++ (word.textFor? name).toList := by
  rw [textsOf, List.filterMap_append, List.filterMap_cons]
  cases word.textFor? name <;> rfl

@[simp] theorem operandsOf_concat (words : List Word) (word : Word) :
    operandsOf (words ++ [word]) = operandsOf words ++ word.operand?.toList := by
  rw [operandsOf, List.filterMap_append, List.filterMap_cons]
  cases word.operand? <;> rfl

theorem OptionKind.ne_nil_of_read? {kind : OptionKind} {s : String} {values : List OptionValue}
    (read : kind.read? s = some values) : values ≠ [] := by
  rintro rfl
  cases kind with
  | flag | text => cases read
  | path | policy =>
    rw [read?] at read
    split at read <;> cases read
  | word =>
    obtain ⟨n, -, more⟩ := Option.map_eq_some_iff.mp read
    cases more
  | texts => exact Text.splitAt_ne_nil ',' s.toList (List.map_eq_nil_iff.mp (Option.some.inj read))

/-- A word with an option of the grammar, which takes a value exactly if the word has one. -/
def Word.Known (grammar : Grammar) : Word → Prop
  | .value o _ => o ∈ grammar.options ∧ o.kind ≠ .flag
  | .flag o => o ∈ grammar.options ∧ o.kind = .flag
  | .operand _ => True

theorem Grammar.OptionSpelled.known {grammar : Grammar} (plain : grammar.Plain)
    {argument : String} {first : List Word} (spelled : grammar.OptionSpelled argument first) :
    ∀ word ∈ first, word.Known grammar := by
  cases spelled with
  | joined known takes text => exact List.forall_mem_singleton.mpr ⟨known, takes⟩
  | long known isFlag => exact List.forall_mem_singleton.mpr ⟨known, isFlag⟩
  | letters nonempty each =>
    clear nonempty
    induction each with
    | nil => exact nofun
    | cons letter _ ih =>
      exact List.forall_mem_cons.mpr ⟨⟨letter.1, (plain.flag_of_letter letter).1⟩, ih⟩

theorem Grammar.Spelled.known {grammar : Grammar} (plain : grammar.Plain)
    {arguments : List String} {words : List Word} (spelled : grammar.Spelled arguments words) :
    ∀ word ∈ words, word.Known grammar := by
  induction spelled with
  | nil => exact nofun
  | apart known takes _ _ ih => exact List.forall_mem_cons.mpr ⟨⟨known, takes⟩, ih⟩
  | option spelled _ ih => exact List.forall_mem_append.mpr ⟨spelled.known plain, ih⟩
  | operand _ _ ih => exact List.forall_mem_cons.mpr ⟨trivial, ih⟩
  | ended rest =>
    intro word member
    obtain ⟨text, -, rfl⟩ := List.mem_map.mp member
    trivial

structure Given.Records (g : Given) (grammar : Grammar) (words : List Word) : Prop where
  values : ∀ o ∈ grammar.options, o.kind ≠ .flag →
    g.values o.name = (textsOf o.name words).flatMap fun text => (o.kind.read? text).getD []
  valid : ∀ o ∈ grammar.options, ∀ text ∈ textsOf o.name words, (o.kind.read? text).isSome
  once : ∀ o ∈ grammar.options, o.kind ≠ .texts → (textsOf o.name words).length ≤ 1
  operands : g.operands.map Path.text = operandsOf words
  few : (operandsOf words).length ≤ grammar.operands.length

namespace Given.Records

variable {grammar : Grammar} {g next : Given} {words more : List Word} {word : Word}
  {o : OptionSpec} {text : String}

theorem start (grammar : Grammar) : Given.Records default grammar [] where
  values := fun _ _ _ => rfl
  valid := fun _ _ => nofun
  once := fun _ _ _ => Nat.zero_le 1
  operands := rfl
  few := Nat.zero_le _

/-- An option is given exactly if words give a text for it. -/
theorem has_iff (records : g.Records grammar words) (name : String)
    (known : o ∈ grammar.options) (named : o.name = name) (takes : o.kind ≠ .flag) :
    g.has name = true ↔ textsOf name words ≠ [] := by
  subst named
  rw [Given.has_iff, records.values o known takes]
  refine not_congr ⟨fun empty => ?_, fun none => ?_⟩
  · refine List.eq_nil_iff_forall_not_mem.mpr fun text member => ?_
    obtain ⟨values, read⟩ := Option.isSome_iff_exists.mp (records.valid o known text member)
    have nothing := List.flatMap_eq_nil_iff.mp empty text member
    rw [read] at nothing
    exact OptionKind.ne_nil_of_read? read nothing
  · rw [none]
    rfl

theorem addValue (records : g.Records grammar words) (plain : grammar.Plain)
    (known : o ∈ grammar.options) (takes : o.kind ≠ .flag)
    (taken : g.addText o text = .ok next) : next.Records grammar (words ++ [.value o text]) := by
  obtain ⟨values, read, added⟩ := Given.add_of_addText taken
  -- Options of one name are the same option, so that the word adds to the texts of this one only.
  have texts (other : OptionSpec) (among : other ∈ grammar.options) :
      (o = other ∧ textsOf other.name (words ++ [.value o text]) = textsOf o.name words ++ [text]) ∨
        o.name ≠ other.name ∧
          textsOf other.name (words ++ [.value o text]) = textsOf other.name words := by
    by_cases same : o.name = other.name
    · obtain rfl := plain.names o known other among same
      exact .inl ⟨rfl, by simp [Word.textFor?]⟩
    · exact .inr ⟨same, by simp [Word.textFor?, same]⟩
  refine ⟨fun other among noFlag => ?_, fun other among s member => ?_, fun other among one => ?_,
    ?_, ?_⟩
  · rw [Given.values_of_options (Given.add_ok added)]
    rcases texts other among with ⟨rfl, all⟩ | ⟨apart, all⟩
    · rw [all, if_pos rfl, records.values o known takes, List.flatMap_append,
        List.flatMap_singleton, read, Option.getD_some]
    · rw [all, if_neg apart, List.append_nil, records.values other among noFlag]
  · rcases texts other among with ⟨rfl, all⟩ | ⟨-, all⟩
    · rw [all] at member
      rcases List.mem_append.mp member with earlier | last
      · exact records.valid o known s earlier
      · rw [List.mem_singleton.mp last, read]
        rfl
    · rw [all] at member
      exact records.valid other among s member
  · rcases texts other among with ⟨rfl, all⟩ | ⟨-, all⟩
    · have absent := Given.not_has_of_add added one
      have none : textsOf o.name words = [] := by
        refine Decidable.not_not.mp fun given => ?_
        rw [(records.has_iff o.name known rfl takes).mpr given] at absent
        cases absent
      rw [all, none]
      exact Nat.le_refl 1
    · rw [all]
      exact records.once other among one
  · rw [Given.operands_of_add added, operandsOf_concat]
    exact records.operands.trans (List.append_nil _).symm
  · rw [operandsOf_concat]
    exact (congrArg List.length (List.append_nil _)).trans_le records.few

theorem addFlag (records : g.Records grammar words) (plain : grammar.Plain)
    (known : o ∈ grammar.options) (isFlag : o.kind = .flag)
    (taken : g.add o [.flag] = .ok next) : next.Records grammar (words ++ [.flag o]) := by
  have texts (name : String) : textsOf name (words ++ [.flag o]) = textsOf name words := by
    simp [Word.textFor?]
  have operands : operandsOf (words ++ [.flag o]) = operandsOf words := by
    simp [Word.operand?]
  refine ⟨fun other among noFlag => ?_, fun other => ?_, fun other => ?_, ?_, ?_⟩
  · have apart : o.name ≠ other.name := fun same =>
      noFlag (plain.names o known other among same ▸ isFlag)
    rw [Given.values_of_options (Given.add_ok taken), if_neg apart, List.append_nil, texts]
    exact records.values other among noFlag
  · rw [texts]
    exact records.valid other
  · rw [texts]
    exact records.once other
  · rw [Given.operands_of_add taken, operands]
    exact records.operands
  · rw [operands]
    exact records.few

theorem addOperand (records : g.Records grammar words)
    (taken : g.addOperand grammar text = .ok next) :
    next.Records grammar (words ++ [.operand text]) := by
  obtain ⟨extended, room⟩ := Given.operands_of_addOperand taken
  have texts (name : String) : textsOf name (words ++ [.operand text]) = textsOf name words := by
    simp [Word.textFor?]
  have operands : operandsOf (words ++ [.operand text]) = operandsOf words ++ [text] := by
    simp [Word.operand?]
  have kept (name : String) : next.values name = g.values name := by
    rw [Given.values, Given.addOperand_ok taken]
    rfl
  refine ⟨fun other => ?_, fun other => ?_, fun other => ?_, ?_, ?_⟩
  · rw [texts, kept]
    exact records.values other
  · rw [texts]
    exact records.valid other
  · rw [texts]
    exact records.once other
  · rw [extended, operands, List.map_append, records.operands]
    rfl
  · rw [operands, ← records.operands, List.length_append, List.length_map]
    exact room

/-- A word that is taken in is recorded with those before. -/
theorem addWord (records : g.Records grammar words) (plain : grammar.Plain)
    (known : word.Known grammar) (taken : g.addWord grammar word = .ok next) :
    next.Records grammar (words ++ [word]) := by
  cases word with
  | value o text => exact records.addValue plain known.1 known.2 taken
  | flag o => exact records.addFlag plain known.1 known.2 taken
  | operand text => exact records.addOperand taken

/-- All words that are taken in are recorded. -/
theorem addWords (records : g.Records grammar words) (plain : grammar.Plain)
    (known : ∀ word ∈ more, word.Known grammar)
    (taken : more.foldlM (Given.addWord grammar) g = .ok next) :
    next.Records grammar (words ++ more) := by
  induction more generalizing g words with
  | nil =>
    cases taken
    rw [List.append_nil]
    exact records
  | cons word rest ih =>
    rw [List.foldlM_cons] at taken
    obtain ⟨between, first, others⟩ := (exceptBind_eq_ok_iff _ _ _).mp taken
    obtain ⟨here, later⟩ := List.forall_mem_cons.mp known
    rw [List.append_cons]
    exact ih (records.addWord plain here first) later others

/-- An option that takes one value is given no text, or one that it can be read from. -/
theorem text_or_none (records : g.Records grammar words) (known : o ∈ grammar.options)
    (takes : o.kind ≠ .flag) (single : o.kind ≠ .texts) :
    (textsOf o.name words = [] ∧ g.values o.name = []) ∨
      ∃ text values, textsOf o.name words = [text] ∧ o.kind.read? text = some values ∧
        g.values o.name = values := by
  have values := records.values o known takes
  have valid := records.valid o known
  have once := records.once o known single
  rcases texts : textsOf o.name words with _ | ⟨text, _ | ⟨second, rest⟩⟩
  · rw [texts] at values
    exact .inl ⟨rfl, values⟩
  · rw [texts] at values valid
    obtain ⟨read, ofText⟩ := Option.isSome_iff_exists.mp (valid text List.mem_cons_self)
    rw [List.flatMap_singleton, ofText] at values
    exact .inr ⟨text, read, rfl, ofText, values⟩
  · rw [texts] at once
    exact absurd once (by simp)

theorem textsOf_eq_text? (records : g.Records grammar words) (name : String)
    (known : o ∈ grammar.options) (named : o.name = name) (kind : o.kind = .text) :
    textsOf name words = (g.text? name).toList := by
  subst named
  rcases records.text_or_none known (by rw [kind]; decide) (by rw [kind]; decide) with
    ⟨none, empty⟩ | ⟨text, values, one, read, held⟩
  · rw [none, Given.text?, empty]
    rfl
  · rw [kind] at read
    cases read
    rw [one, Given.text?, held]
    rfl

theorem textsOf_eq_path? (records : g.Records grammar words) (name : String)
    (known : o ∈ grammar.options) (named : o.name = name) (kind : o.kind = .path) :
    textsOf name words = (g.path? name).toList.map Path.text := by
  subst named
  rcases records.text_or_none known (by rw [kind]; decide) (by rw [kind]; decide) with
    ⟨none, empty⟩ | ⟨text, values, one, read, held⟩
  · rw [none, Given.path?, empty]
    rfl
  · rw [kind] at read
    rw [one, Given.path?, held, values_of_read?_path read]
    rfl

/-- The texts of an option with several values are the pieces of all that is given for it. -/
theorem texts_eq (records : g.Records grammar words) (name : String)
    (known : o ∈ grammar.options) (named : o.name = name) (kind : o.kind = .texts) :
    g.texts name = (textsOf name words).flatMap commaPieces := by
  subst named
  have pieces (text : String) : (o.kind.read? text).getD [] = (commaPieces text).map .text := by
    rw [kind, commaPieces, List.map_map]
    rfl
  rw [Given.texts, records.values o known (by rw [kind]; decide)]
  simp only [pieces]
  rw [← List.map_flatMap, List.filterMap_map]
  exact List.filterMap_some

end Given.Records

/-- How servers are chosen by the texts that are given for tags and for a name. -/
inductive Selects : List String → List String → ServerSelector → Prop where
  | tags {texts : List String} (given : texts ≠ []) :
    Selects texts [] (.tags (texts.flatMap commaPieces))
  | name (server : String) : Selects [] [server] (.name (some server))
  | only : Selects [] [] (.name none)

/-- The arguments of a resolution are what words say. -/
structure ResolveArguments.Said (a : ResolveArguments) (words : List Word) : Prop where
  metadata : operandsOf words = [a.metadata.text]
  entity : textsOf "entity" words = [a.entity]
  selector : Selects (textsOf "tags" words) (textsOf "server" words) a.selector
  caOut : textsOf "ca-out" words = a.caOut.toList.map Path.text

theorem plain_resolve : CommandName.resolve.grammar.Plain where
  names := by decide
  letters := by decide
  named := by decide
  flags := by decide

theorem ResolveArguments.said_of_records {g : Given} {words : List Word} {a : ResolveArguments}
    (records : g.Records CommandName.resolve.grammar words)
    (made : ResolveArguments.of? g = some a) : a.Said words := by
  have entity := records.textsOf_eq_text? "entity"
    (o := required "entity" none .text) (by decide) rfl rfl
  have server := records.textsOf_eq_text? "server"
    (o := optional "server" .text none) (by decide) rfl rfl
  have caOut := records.textsOf_eq_path? "ca-out"
    (o := optional "ca-out" .path none) (by decide) rfl rfl
  have tags := records.texts_eq "tags"
    (o := optional "tags" .texts none) (by decide) rfl rfl
  have hasServer := records.has_iff "server"
    (o := optional "server" .text none) (by decide) rfl (by decide)
  have hasTags := records.has_iff "tags"
    (o := optional "tags" .texts none) (by decide) rfl (by decide)
  obtain ⟨metadata, operand, rest⟩ := Option.bind_eq_some_iff.mp made
  obtain ⟨entityId, wanted, rest⟩ := Option.bind_eq_some_iff.mp rest
  split at rest
  · cases rest
  · rename_i apart
    cases rest
    refine ⟨?_, ?_, ?_, caOut⟩
    · have few : (operandsOf words).length ≤ 1 := records.few
      obtain ⟨more, operands⟩ := List.head?_eq_some_iff.mp operand
      rw [← records.operands, operands] at few ⊢
      cases more with
      | nil => rfl
      | cons second others => exact absurd few (by simp)
    · rw [entity, wanted]
      rfl
    · dsimp only
      split
      · rename_i given
        have absent : textsOf "server" words = [] := by
          refine Decidable.not_not.mp fun named => ?_
          exact apart ⟨hasServer.mpr named, given⟩
        rw [tags, absent]
        exact .tags (hasTags.mp given)
      · rename_i absent
        have none : textsOf "tags" words = [] :=
          Decidable.not_not.mp fun given => absent (hasTags.mpr given)
        rw [none, server]
        cases g.text? "server" with
        | none => exact .only
        | some name => exact .name name

/-- What is given for a command whose options the environment does not know comes from its
arguments. -/
theorem Grammar.addEnvironment_of_none (environment : Environment) (g : Given)
    {options : List OptionSpec} (unknown : ∀ o ∈ options, o.environment = none) :
    Grammar.addEnvironment environment g options = .ok g := by
  induction options with
  | nil => rfl
  | cons o rest ih =>
    obtain ⟨first, others⟩ := List.forall_mem_cons.mp unknown
    rw [Grammar.addEnvironment, first]
    exact ih others

/-- Arguments that ask for a resolution name the command behind options only, and all that they
spell behind it is what the resolution is asked for. -/
theorem resolution_said {environment : Environment} {arguments : List String} {verbose : Bool}
    {a : ResolveArguments} (accepted : read environment arguments = .run verbose (.resolve a)) :
    ∃ front rest, arguments = front ++ "resolve" :: rest ∧
      (∀ argument ∈ front, Grammar.isOption argument = true) ∧
      (∃ words, CommandName.resolve.grammar.Spelled rest words) ∧
      ∀ words, CommandName.resolve.grammar.Spelled rest words → a.Said words := by
  obtain ⟨front, name, rest, line, g, all, options, ofLine, added, made⟩ :=
    exists_given_of_run accepted
  have isResolve : name = .resolve ∧ ResolveArguments.of? g = some a := by
    cases name with
    | resolve =>
      obtain ⟨a', ofGiven, same⟩ := Option.map_eq_some_iff.mp made
      cases same
      exact ⟨rfl, ofGiven⟩
    | fetch | list =>
      obtain ⟨a', -, same⟩ := Option.map_eq_some_iff.mp made
      cases same
  obtain ⟨rfl, ofGiven⟩ := isResolve
  have unknown : ∀ o ∈ CommandName.resolve.grammar.options, o.environment = none := by decide
  have unset := Grammar.addEnvironment_of_none environment line unknown
  obtain rfl := Except.ok.inj (unset.symm.trans added)
  obtain ⟨words, spelled, -⟩ := (Grammar.read_eq_ok_iff plain_resolve).mp ofLine
  refine ⟨front, rest, all, options, ⟨words, spelled⟩, fun words spelled => ?_⟩
  have taken := (spelled.read_eq plain_resolve default).symm.trans ofLine
  have records := (Given.Records.start _).addWords plain_resolve (spelled.known plain_resolve) taken
  exact ResolveArguments.said_of_records records ofGiven

end CommandLine

end FederationTrust
