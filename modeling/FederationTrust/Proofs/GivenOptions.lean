import FederationTrust.CommandLine.Grammar
import FederationTrust.Proofs.Attempts
import Mathlib.Data.List.Nodup

/-!
# What the arguments of a command give

Every value that is read from the arguments belongs to an option of the grammar and is of the kind
that the option takes. The environment is asked only for options that are not given, and what it
says of them has to be valid.
-/

namespace FederationTrust

namespace CommandLine

def OptionKind.admits : OptionKind → OptionValue → Bool
  | .flag, .flag | .text, .text _ | .texts, .text _ | .path, .path _ | .word, .word _
  | .policy, .policy _ => true
  | _, _ => false

theorem OptionKind.admits_of_read? {kind : OptionKind} {s : String} {values : List OptionValue}
    (read : kind.read? s = some values) : ∀ v ∈ values, kind.admits v = true := by
  intro v member
  cases kind with
  | flag => cases read
  | text =>
    cases read
    rw [List.mem_singleton.mp member]
    rfl
  | path =>
    rw [read?] at read
    split at read
    · cases read
    · cases read
      rw [List.mem_singleton.mp member]
      rfl
  | word =>
    obtain ⟨n, -, rfl⟩ := Option.map_eq_some_iff.mp read
    rw [List.mem_singleton.mp member]
    rfl
  | policy =>
    rw [read?] at read
    split at read
    · cases read
      rw [List.mem_singleton.mp member]
      rfl
    · cases read
  | texts =>
    cases read
    obtain ⟨piece, -, rfl⟩ := List.mem_map.mp member
    rfl

namespace Given

variable {g next : Given} {o : OptionSpec} {values : List OptionValue} {s name : String}

theorem add_ok (added : g.add o values = .ok next) :
    next.options = g.options ++ values.map fun v => (o.name, v) := by
  rw [add] at added
  split at added <;> cases added
  rfl

theorem not_has_of_add (added : g.add o values = .ok next) (single : o.kind ≠ .texts) :
    g.has o.name = false := by
  rw [add] at added
  split at added
  · cases added
  · rename_i free
    exact eq_false_of_ne_true fun given => free ⟨given, single⟩

theorem operands_of_add (added : g.add o values = .ok next) : next.operands = g.operands := by
  rw [add] at added
  split at added <;> cases added
  rfl

theorem add_of_addText (added : g.addText o s = .ok next) :
    ∃ values, o.kind.read? s = some values ∧ g.add o values = .ok next := by
  rw [addText] at added
  split at added
  · cases added
  · rename_i values read
    exact ⟨values, read, added⟩

theorem addText_ok (added : g.addText o s = .ok next) :
    ∃ values, o.kind.read? s = some values ∧
      next.options = g.options ++ values.map fun v => (o.name, v) := by
  obtain ⟨values, read, taken⟩ := add_of_addText added
  exact ⟨values, read, add_ok taken⟩

theorem addOperand_ok {grammar : Grammar} (added : g.addOperand grammar s = .ok next) :
    next.options = g.options := by
  rw [addOperand] at added
  split at added
  · split at added <;> cases added
    rfl
  · cases added

theorem operands_of_addOperand {grammar : Grammar} (added : g.addOperand grammar s = .ok next) :
    next.operands = g.operands ++ [⟨s⟩] ∧ g.operands.length < grammar.operands.length := by
  rw [addOperand] at added
  split at added
  · rename_i room
    split at added <;> cases added
    exact ⟨rfl, room⟩
  · cases added

theorem has_iff : g.has name = true ↔ g.values name ≠ [] := by
  rw [has, List.any_eq_true, values, Ne, List.map_eq_nil_iff, List.filter_eq_nil_iff]
  grind

theorem values_of_not_has (absent : g.has name = false) : g.values name = [] := by
  by_contra some
  rw [has_iff.mpr some] at absent
  cases absent

theorem values_of_options (extended : next.options = g.options ++ values.map fun v => (o.name, v))
    (name : String) :
    next.values name = g.values name ++ if o.name = name then values else [] := by
  rw [Given.values, Given.values, extended, List.filter_append, List.map_append]
  refine congrArg (_ ++ ·) ?_
  by_cases same : o.name = name
  · rw [if_pos same, List.filter_eq_self.mpr (by grind), List.map_map]
    exact List.map_id values
  · rw [if_neg same, List.filter_eq_nil_iff.mpr (by grind), List.map_nil]

/-- Each value is one of an option of the grammar, and of its kind. -/
def Fits (g : Given) (grammar : Grammar) : Prop :=
  ∀ p ∈ g.options, ∃ o ∈ grammar.options, o.name = p.1 ∧ o.kind.admits p.2 = true

theorem Fits.of_options {grammar : Grammar} (fits : g.Fits grammar) (known : o ∈ grammar.options)
    (kind : ∀ v ∈ values, o.kind.admits v = true)
    (extended : next.options = g.options ++ values.map fun v => (o.name, v)) :
    next.Fits grammar := by
  intro p member
  rw [extended] at member
  rcases List.mem_append.mp member with earlier | later
  · exact fits p earlier
  · obtain ⟨v, among, rfl⟩ := List.mem_map.mp later
    exact ⟨o, known, rfl, kind v among⟩

theorem Fits.add {grammar : Grammar} (fits : g.Fits grammar) (known : o ∈ grammar.options)
    (kind : ∀ v ∈ values, o.kind.admits v = true) (added : g.add o values = .ok next) :
    next.Fits grammar :=
  fits.of_options known kind (add_ok added)

theorem Fits.addText {grammar : Grammar} (fits : g.Fits grammar) (known : o ∈ grammar.options)
    (added : g.addText o s = .ok next) : next.Fits grammar := by
  obtain ⟨values, read, extended⟩ := addText_ok added
  exact fits.of_options known (OptionKind.admits_of_read? read) extended

theorem Fits.addOperand {grammar : Grammar} (fits : g.Fits grammar)
    (added : g.addOperand grammar s = .ok next) : next.Fits grammar := by
  intro p member
  rw [addOperand_ok added] at member
  exact fits p member

end Given

namespace Grammar

variable {grammar : Grammar} {g next : Given} {waiting : Option OptionSpec}

/-- What has been read, with the option that waits for its value, belongs to the grammar. -/
def Reads (grammar : Grammar) (waiting : Option OptionSpec) (g : Given) : Prop :=
  g.Fits grammar ∧ ∀ o, waiting = some o → o ∈ grammar.options

theorem reads_default (grammar : Grammar) : grammar.Reads none default :=
  ⟨fun _ member => absurd member List.not_mem_nil, nofun⟩

theorem reads_of_fits (fits : g.Fits grammar) : grammar.Reads none g :=
  ⟨fits, nofun⟩

theorem reads_of_add {o : OptionSpec} (fits : g.Fits grammar) (known : o ∈ grammar.options)
    (isFlag : o.kind = .flag)
    (added : (g.add o [.flag]).map (fun g => (none, g)) = .ok (waiting, next)) :
    grammar.Reads waiting next := by
  obtain ⟨g', taken, ⟨⟩⟩ := (exceptMap_eq_ok_iff _ _ _).mp added
  refine reads_of_fits (fits.add known (fun v member => ?_) taken)
  rw [isFlag, List.mem_singleton.mp member]
  rfl

theorem reads_of_addText {o : OptionSpec} {s : String} (fits : g.Fits grammar)
    (known : o ∈ grammar.options)
    (added : (g.addText o s).map (fun g => (none, g)) = .ok (waiting, next)) :
    grammar.Reads waiting next := by
  obtain ⟨g', taken, ⟨⟩⟩ := (exceptMap_eq_ok_iff _ _ _).mp added
  exact reads_of_fits (fits.addText known taken)

theorem reads_of_readLong {argument : List Char} (fits : g.Fits grammar)
    (read : grammar.readLong g argument = .ok (waiting, next)) : grammar.Reads waiting next := by
  rw [readLong] at read
  split at read
  · rename_i o found _
    have known := List.mem_of_find?_eq_some found
    split at read
    · rename_i isFlag
      exact reads_of_add fits known isFlag read
    · cases read
      exact ⟨fits, fun o same => Option.some.inj same ▸ known⟩
  · rename_i o value found _
    exact reads_of_addText fits (List.mem_of_find?_eq_some found) read
  · split at read
    · cases read
    · split at read <;> cases read
  · cases read

theorem reads_of_readLetters {letters : List Char} (fits : g.Fits grammar)
    (read : grammar.readLetters g letters = .ok (waiting, next)) : grammar.Reads waiting next := by
  induction letters generalizing g with
  | nil =>
    cases read
    exact ⟨fits, nofun⟩
  | cons c rest ih =>
    rw [readLetters.eq_def] at read
    dsimp only at read
    split at read
    · rename_i o found
      have known := List.mem_of_find?_eq_some found
      split at read
      · rename_i isFlag
        obtain ⟨g', taken, further⟩ := (exceptBind_eq_ok_iff _ _ _).mp read
        refine ih (fits.add known (fun v member => ?_) taken) further
        rw [isFlag, List.mem_singleton.mp member]
        rfl
      · split at read
        · cases read
          exact ⟨fits, fun o same => Option.some.inj same ▸ known⟩
        · exact reads_of_addText fits known read
        · exact reads_of_addText fits known read
    · split at read
      · cases read
      · split at read <;> cases read

theorem reads_of_readOption {argument : String} (fits : g.Fits grammar)
    (read : grammar.readOption g argument = .ok (waiting, next)) : grammar.Reads waiting next := by
  rw [readOption] at read
  split at read
  · exact reads_of_readLong fits read
  · exact reads_of_readLetters fits read
  · cases read

theorem fits_of_readOperands {arguments : List String} (fits : g.Fits grammar)
    (read : grammar.readOperands g arguments = .ok next) : next.Fits grammar := by
  induction arguments generalizing g with
  | nil =>
    cases read
    exact fits
  | cons argument rest ih =>
    rw [readOperands] at read
    obtain ⟨g', taken, further⟩ := (exceptBind_eq_ok_iff _ _ _).mp read
    exact ih (fits.addOperand taken) further

section Steps

variable {argument : String} {rest : List String} {o : OptionSpec}

theorem read_ended (g : Given) (rest : List String) :
    grammar.read none g ("--" :: rest) = grammar.readOperands g rest := by
  rw [Grammar.read.eq_def]
  exact if_pos rfl

theorem read_option (apart : argument ≠ "--") (anOption : isOption argument = true) (g : Given) :
    grammar.read none g (argument :: rest) =
      grammar.readOption g argument >>= fun next => grammar.read next.1 next.2 rest := by
  rw [Grammar.read.eq_def]
  exact (if_neg apart).trans (if_pos anOption)

theorem read_operand (noOption : isOption argument = false) (g : Given) :
    grammar.read none g (argument :: rest) =
      g.addOperand grammar argument >>= fun next => grammar.read none next rest := by
  have apart : argument ≠ "--" := by
    rintro rfl
    cases noOption
  rw [Grammar.read.eq_def]
  refine (if_neg apart).trans (if_neg ?_)
  rw [noOption]
  exact Bool.false_ne_true

theorem read_value (noOption : isOption argument = false) (g : Given) :
    grammar.read (some o) g (argument :: rest) =
      g.addText o argument >>= fun next => grammar.read none next rest := by
  rw [Grammar.read.eq_def]
  refine if_neg ?_
  rw [noOption]
  exact Bool.false_ne_true

theorem read_value_of_option (anOption : isOption argument = true) (g : Given) :
    grammar.read (some o) g (argument :: rest) =
      .error (.usage ("a value is required for '--" ++ o.name ++ "' but none was supplied")) := by
  rw [Grammar.read.eq_def]
  exact if_pos anOption

end Steps

/-- Whatever arguments are read, each value is one of an option of the grammar, of its kind. -/
theorem fits_of_read {arguments : List String} (reads : grammar.Reads waiting g)
    (read : grammar.read waiting g arguments = .ok next) : next.Fits grammar := by
  induction arguments generalizing g waiting with
  | nil =>
    cases waiting with
    | none =>
      cases read
      exact reads.1
    | some o => cases read
  | cons argument rest ih =>
    cases waiting with
    | some o =>
      cases anOption : isOption argument with
      | true =>
        rw [read_value_of_option anOption] at read
        cases read
      | false =>
        rw [read_value anOption] at read
        obtain ⟨g', taken, further⟩ := (exceptBind_eq_ok_iff _ _ _).mp read
        exact ih (reads_of_fits (reads.1.addText (reads.2 o rfl) taken)) further
    | none =>
      by_cases last : argument = "--"
      · rw [last, read_ended] at read
        exact fits_of_readOperands reads.1 read
      · cases anOption : isOption argument with
        | true =>
          rw [read_option last anOption] at read
          obtain ⟨⟨waiting, g'⟩, taken, further⟩ := (exceptBind_eq_ok_iff _ _ _).mp read
          exact ih (reads_of_readOption reads.1 taken) further
        | false =>
          rw [read_operand anOption] at read
          obtain ⟨g', taken, further⟩ := (exceptBind_eq_ok_iff _ _ _).mp read
          exact ih (reads_of_fits (reads.1.addOperand taken)) further

/-- Behind an option that waits for its value stands that value. -/
theorem exists_addText_of_read {o : OptionSpec} {argument value : String}
    {arguments : List String} (notEnd : argument ≠ "--") (anOption : isOption argument = true)
    (waits : grammar.readOption g argument = .ok (some o, g))
    (read : grammar.read none g (argument :: value :: arguments) = .ok next) :
    ∃ between, g.addText o value = .ok between ∧
      grammar.read none between arguments = .ok next := by
  rw [read_option notEnd anOption, waits] at read
  have further : grammar.read (some o) g (value :: arguments) = .ok next := read
  cases alsoOption : isOption value with
  | true =>
    rw [read_value_of_option alsoOption] at further
    cases further
  | false =>
    rw [read_value alsoOption] at further
    exact (exceptBind_eq_ok_iff _ _ _).mp further

/-- An option that is given has a value of its kind, if the names of the options are different. -/
theorem values_of_has {o : OptionSpec} (fits : g.Fits grammar)
    (distinct : (grammar.options.map OptionSpec.name).Nodup) (known : o ∈ grammar.options)
    (given : g.has o.name = true) :
    ∃ v rest, g.values o.name = v :: rest ∧ o.kind.admits v = true := by
  rcases all : g.values o.name with _ | ⟨v, rest⟩
  · exact absurd all (Given.has_iff.mp given)
  · have member : v ∈ g.values o.name := by
      rw [all]
      exact List.mem_cons_self
    obtain ⟨p, among, rfl⟩ := List.mem_map.mp member
    obtain ⟨there, named⟩ := List.mem_filter.mp among
    obtain ⟨other, knownToo, same, admits⟩ := fits p there
    have equal : other = o :=
      List.inj_on_of_nodup_map distinct knownToo known (same.trans (eq_of_beq named))
    exact ⟨p.2, rest, rfl, equal ▸ admits⟩

end Grammar

/-- The values that the environment has for an option, if it has any that is valid or none. -/
def OptionSpec.fromEnvironment? (o : OptionSpec) (environment : String → Option Bytes) :
    Option (List OptionValue) :=
  match o.environment.bind environment with
  | none => some []
  | some value => (Bytes.text? value).bind o.kind.read?

theorem OptionSpec.fromEnvironment?_of_unset {o : OptionSpec} {environment : String → Option Bytes}
    (unset : o.environment.bind environment = none) :
    o.fromEnvironment? environment = some [] := by
  rw [fromEnvironment?, unset]

theorem OptionSpec.fromEnvironment?_of_text {o : OptionSpec} {environment : String → Option Bytes}
    {value : Bytes} {s : String} (set : o.environment.bind environment = some value)
    (text : Bytes.text? value = some s) :
    o.fromEnvironment? environment = o.kind.read? s := by
  rw [fromEnvironment?, set]
  dsimp only
  rw [text, Option.bind_some]

/-- The values of an option are those that are given, which are of its kind, or else those of the
environment. -/
def OptionSpec.GivenOrFound (o : OptionSpec) (environment : String → Option Bytes)
    (line complete : Given) : Prop :=
  (line.has o.name = true ∧ complete.values o.name = line.values o.name ∧
    ∃ v rest, line.values o.name = v :: rest ∧ o.kind.admits v = true) ∨
  (line.has o.name = false ∧ line.values o.name = [] ∧
    o.fromEnvironment? environment = some (complete.values o.name))

namespace Grammar

variable {environment : String → Option Bytes} {g next : Given} {options : List OptionSpec}
  {o : OptionSpec}

theorem addEnvironment_cons (added : addEnvironment environment g (o :: options) = .ok next) :
    ∃ between, addEnvironment environment between options = .ok next ∧
      ((g.has o.name = true ∧ between = g) ∨
        (g.has o.name = false ∧ ∃ values, o.fromEnvironment? environment = some values ∧
          between.options = g.options ++ values.map fun v => (o.name, v))) := by
  rw [addEnvironment] at added
  split at added
  · rename_i unset
    refine ⟨g, added, ?_⟩
    cases given : g.has o.name with
    | true => exact .inl ⟨rfl, rfl⟩
    | false =>
      refine .inr ⟨rfl, [], OptionSpec.fromEnvironment?_of_unset unset, ?_⟩
      rw [List.map_nil, List.append_nil]
  · rename_i value set
    split at added
    · rename_i given
      exact ⟨g, added, .inl ⟨given, rfl⟩⟩
    · rename_i absent
      split at added
      · cases added
      · rename_i s text
        obtain ⟨between, taken, further⟩ := (exceptBind_eq_ok_iff _ _ _).mp added
        obtain ⟨values, read, extended⟩ := Given.addText_ok taken
        have found := (OptionSpec.fromEnvironment?_of_text set text).trans read
        exact ⟨between, further, .inr ⟨eq_false_of_ne_true absent, values, found, extended⟩⟩

theorem values_addEnvironment_of_notMem {name : String}
    (other : name ∉ options.map OptionSpec.name)
    (added : addEnvironment environment g options = .ok next) :
    next.values name = g.values name := by
  induction options generalizing g with
  | nil =>
    cases added
    rfl
  | cons o rest ih =>
    rw [List.map_cons, List.mem_cons, not_or] at other
    obtain ⟨between, addedRest, ⟨-, rfl⟩ | ⟨-, values, -, extended⟩⟩ := addEnvironment_cons added
    · exact ih other.2 addedRest
    · rw [ih other.2 addedRest, Given.values_of_options extended, if_neg (Ne.symm other.1),
        List.append_nil]

/-- An option that is given keeps its values, and one that is not has those of the environment. -/
theorem values_addEnvironment (distinct : (options.map OptionSpec.name).Nodup)
    (added : addEnvironment environment g options = .ok next) (member : o ∈ options) :
    if g.has o.name then next.values o.name = g.values o.name
    else o.fromEnvironment? environment = some (next.values o.name) := by
  induction options generalizing g with
  | nil => cases member
  | cons first rest ih =>
    obtain ⟨fresh, others⟩ := List.nodup_cons.mp distinct
    obtain ⟨between, addedRest, ways⟩ := addEnvironment_cons added
    rcases List.mem_cons.mp member with rfl | later
    · rw [values_addEnvironment_of_notMem fresh addedRest]
      obtain ⟨given, rfl⟩ | ⟨absent, values, found, extended⟩ := ways
      · rw [if_pos given]
      · rw [if_neg (by rw [absent]; exact Bool.false_ne_true), Given.values_of_options extended,
          if_pos rfl, Given.values_of_not_has absent, List.nil_append, found]
    · have different : first.name ≠ o.name := fun same =>
        fresh (same ▸ List.mem_map_of_mem later)
      have kept : between.values o.name = g.values o.name := by
        obtain ⟨-, rfl⟩ | ⟨-, values, -, extended⟩ := ways
        · rfl
        · rw [Given.values_of_options extended, if_neg different, List.append_nil]
      have alike : between.has o.name = g.has o.name := by
        rw [Bool.eq_iff_iff, Given.has_iff, Given.has_iff, kept]
      rw [← alike, ← kept]
      exact ih others addedRest later

theorem givenOrFound_of_addEnvironment {grammar : Grammar} (fits : g.Fits grammar)
    (distinct : (grammar.options.map OptionSpec.name).Nodup)
    (added : addEnvironment environment g grammar.options = .ok next)
    (known : o ∈ grammar.options) : o.GivenOrFound environment g next := by
  have values := values_addEnvironment distinct added known
  cases given : g.has o.name with
  | true =>
    rw [if_pos given] at values
    exact .inl ⟨given, values, values_of_has fits distinct known given⟩
  | false =>
    rw [given] at values
    exact .inr ⟨given, Given.values_of_not_has given, values⟩

/-- What is accepted comes from the arguments, with the values of the environment added. -/
theorem given_ok {grammar : Grammar} {arguments : List String}
    (accepted : grammar.given environment arguments = .ok g) :
    ∃ line, grammar.read none default arguments = .ok line ∧
      addEnvironment environment line grammar.options = .ok g := by
  rw [given] at accepted
  obtain ⟨line, ofLine, further⟩ := (exceptBind_eq_ok_iff _ _ _).mp accepted
  obtain ⟨complete, added, last⟩ := (exceptBind_eq_ok_iff _ _ _).mp further
  refine ⟨line, ofLine, ?_⟩
  split at last
  · cases last
    exact added
  · cases last

end Grammar

end CommandLine

end FederationTrust
