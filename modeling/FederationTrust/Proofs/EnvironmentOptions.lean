import FederationTrust.CommandLine.Invocation
import FederationTrust.Proofs.GivenOptions
import FederationTrust.Proofs.Texts

/-!
# The environment of a fetch

A fetch that is accepted goes by the options that are given and for the rest by the configuration
of the environment. The reader of options is the stricter one: a variable that it reads has a value
that can be used, so the configuration of the environment warns of no variable but those whose
options are given.
-/

namespace FederationTrust

namespace CommandLine

theorem readHelp_ne_run {topic : Option CommandName} {arguments : List String} {verbose : Bool}
    {command : Command} : readHelp topic arguments ≠ .run verbose command := by
  induction arguments generalizing topic with
  | nil => exact nofun
  | cons argument rest ih =>
    rw [readHelp.eq_def]
    dsimp only
    split
    · exact ih
    · split
      · exact ih
      · exact nofun

theorem text_of_ofText? {s : String} {name : CommandName}
    (read : CommandName.ofText? s = some name) : name.text = s := by
  have found := List.find?_some read
  exact eq_of_beq found

/-- Arguments that ask for a command have its name behind options only. -/
theorem exists_command_of_readTop {environment : Environment} {g : Given}
    {arguments : List String} {verbose : Bool} {command : Command}
    (asked : readTop environment g arguments = .run verbose command) :
    ∃ front name rest before, arguments = front ++ CommandName.text name :: rest ∧
      (∀ argument ∈ front, Grammar.isOption argument = true) ∧
      readCommand environment before name rest = .run verbose command := by
  induction arguments generalizing g with
  | nil =>
    rw [readTop] at asked
    split at asked <;> cases asked
  | cons argument rest ih =>
    rw [readTop] at asked
    split at asked
    · rename_i last
      obtain ⟨front, name, more, before, all, -⟩ := ih asked
      rw [last.2] at all
      cases front <;> cases all
    · split at asked
      · rename_i isOption
        split at asked
        · rename_i error _
          cases error <;> cases asked
        · obtain ⟨front, name, more, before, rfl, options, read⟩ := ih asked
          refine ⟨argument :: front, name, more, before, rfl, fun x member => ?_, read⟩
          rcases List.mem_cons.mp member with rfl | later
          · exact isOption
          · exact options x later
      · split at asked
        · exact absurd asked readHelp_ne_run
        · split at asked
          · cases asked
          · rename_i name found
            refine ⟨[], name, rest, g.has "verbose", ?_, nofun, asked⟩
            rw [text_of_ofText? found]
            rfl

/-- What a command is given by its own arguments and by the environment. -/
theorem exists_given_of_run {environment : Environment} {arguments : List String}
    {verbose : Bool} {command : Command}
    (asked : read environment arguments = .run verbose command) :
    ∃ front name rest line g, arguments = front ++ CommandName.text name :: rest ∧
      (∀ argument ∈ front, Grammar.isOption argument = true) ∧
      (CommandName.grammar name).read none default rest = .ok line ∧
      Grammar.addEnvironment environment line (CommandName.grammar name).options = .ok g ∧
      CommandName.command? name g = some command := by
  obtain ⟨front, name, rest, before, all, options, read⟩ := exists_command_of_readTop asked
  rw [readCommand] at read
  split at read
  · rename_i error _
    cases error <;> cases read
  · rename_i g given
    split at read
    · cases read
    · rename_i command made
      cases read
      obtain ⟨line, ofLine, added⟩ := Grammar.given_ok given
      exact ⟨front, name, rest, line, g, all, options, ofLine, added, made⟩

/-- What a fetch is given by its own arguments and by the environment. -/
theorem exists_given_of_fetch {environment : Environment} {arguments : List String}
    {verbose : Bool} {a : FetchArguments}
    (asked : read environment arguments = .run verbose (.fetch a)) :
    ∃ front rest line g, arguments = front ++ "fetch" :: rest ∧
      (∀ argument ∈ front, Grammar.isOption argument = true) ∧
      CommandName.fetch.grammar.read none default rest = .ok line ∧
      Grammar.addEnvironment environment line CommandName.fetch.grammar.options = .ok g ∧
      FetchArguments.of? g = some a := by
  obtain ⟨front, name, rest, line, g, all, options, ofLine, added, made⟩ :=
    exists_given_of_run asked
  cases name with
  | fetch =>
    obtain ⟨a', ofGiven, same⟩ := Option.map_eq_some_iff.mp made
    cases same
    exact ⟨front, rest, line, g, all, options, ofLine, added, ofGiven⟩
  | list | resolve =>
    obtain ⟨a', -, same⟩ := Option.map_eq_some_iff.mp made
    cases same

section Fields

variable {environment : Environment} {line g : Given} {o : OptionSpec}
  {variableName : String}

theorem eq_of_mem_environmentSeconds {standard : UInt64} {w : ConfigWarning}
    (warned : w ∈ (FetchConfig.environmentSeconds environment variableName standard).2) :
    w = .seconds variableName := by
  rw [FetchConfig.environmentSeconds] at warned
  split at warned
  · cases warned
  · split at warned
    · cases warned
    · exact List.mem_singleton.mp warned

theorem eq_of_mem_environmentAlgorithms {w : ConfigWarning}
    (warned : w ∈ (FetchConfig.environmentAlgorithms environment).2) : w = .algorithms := by
  rw [FetchConfig.environmentAlgorithms] at warned
  split at warned
  · cases warned
  · split at warned
    · cases warned
    · exact List.mem_singleton.mp warned

theorem values_of_unset (unset : environment variableName = none)
    (ofVariable : o.environment = some variableName)
    (found : o.fromEnvironment? environment = some (g.values o.name)) : g.values o.name = [] := by
  rw [OptionSpec.fromEnvironment?, ofVariable, Option.bind_some, unset] at found
  exact (Option.some.inj found).symm

theorem exists_text_of_set {value : Bytes} (set : environment variableName = some value)
    (ofVariable : o.environment = some variableName)
    (found : o.fromEnvironment? environment = some (g.values o.name)) :
    ∃ s, FetchConfig.valueOf? environment variableName = some s ∧
      o.kind.read? s = some (g.values o.name) := by
  rw [OptionSpec.fromEnvironment?, ofVariable, Option.bind_some, set] at found
  obtain ⟨s, text, read⟩ := Option.bind_eq_some_iff.mp found
  exact ⟨s, by rw [FetchConfig.valueOf?, set, Option.bind_some, text], read⟩

theorem valueOf?_of_unset (unset : environment variableName = none) :
    FetchConfig.valueOf? environment variableName = none := by
  rw [FetchConfig.valueOf?, unset, Option.bind_none]

theorem text?_of_givenOrFound (name : String) (here : o.GivenOrFound environment line g)
    (named : o.name = name) (kind : o.kind = .text)
    (ofVariable : o.environment = some variableName) (standard : String) :
    (line.text? name).isSome = line.has name ∧
      (g.text? name).getD standard = (line.text? name).getD
        ((FetchConfig.valueOf? environment variableName).getD standard) := by
  subst named
  obtain ⟨given, kept, v, rest, first, admits⟩ | ⟨absent, empty, found⟩ := here
  · rw [kind] at admits
    cases v <;> cases admits
    rename_i s
    have ofLine : line.text? o.name = some s := by rw [Given.text?, first]
    have ofBoth : g.text? o.name = some s := by rw [Given.text?, kept, first]
    rw [ofLine, ofBoth, given]
    exact ⟨rfl, rfl⟩
  · have ofLine : line.text? o.name = none := by rw [Given.text?, empty]
    rw [ofLine, absent, Option.getD_none]
    refine ⟨rfl, ?_⟩
    cases set : environment variableName with
    | none =>
      rw [Given.text?, values_of_unset set ofVariable found, valueOf?_of_unset set]
    | some value =>
      obtain ⟨s, text, read⟩ := exists_text_of_set set ofVariable found
      rw [kind] at read
      rw [Given.text?, ← Option.some.inj read, text]

theorem word?_of_givenOrFound (name : String) (here : o.GivenOrFound environment line g)
    (named : o.name = name) (kind : o.kind = .word)
    (ofVariable : o.environment = some variableName) (standard : UInt64) :
    (line.word? name).isSome = line.has name ∧
      (g.word? name).getD standard = (line.word? name).getD
        (FetchConfig.environmentSeconds environment variableName standard).1 ∧
      ∀ w ∈ (FetchConfig.environmentSeconds environment variableName standard).2,
        w = .seconds variableName ∧ line.has name = true := by
  subst named
  obtain ⟨given, kept, v, rest, first, admits⟩ | ⟨absent, empty, found⟩ := here
  · rw [kind] at admits
    cases v <;> cases admits
    rename_i n
    have ofLine : line.word? o.name = some n := by rw [Given.word?, first]
    have ofBoth : g.word? o.name = some n := by rw [Given.word?, kept, first]
    rw [ofLine, ofBoth, given]
    exact ⟨rfl, rfl, fun w warned => ⟨eq_of_mem_environmentSeconds warned, rfl⟩⟩
  · have ofLine : line.word? o.name = none := by rw [Given.word?, empty]
    rw [ofLine, absent, Option.getD_none, FetchConfig.environmentSeconds]
    cases set : environment variableName with
    | none =>
      rw [Given.word?, values_of_unset set ofVariable found, valueOf?_of_unset set]
      exact ⟨rfl, rfl, nofun⟩
    | some value =>
      obtain ⟨s, text, read⟩ := exists_text_of_set set ofVariable found
      rw [kind] at read
      obtain ⟨n, number, same⟩ := Option.map_eq_some_iff.mp read
      have trimmed : Text.trim s.toList = s.toList :=
        Text.trim_eq_self (Text.isBlank_of_word? number)
      rw [Given.word?, ← same, text]
      dsimp only
      rw [trimmed, number]
      exact ⟨rfl, rfl, nofun⟩

theorem policy?_of_givenOrFound (name : String) (here : o.GivenOrFound environment line g)
    (named : o.name = name) (kind : o.kind = .policy)
    (ofVariable : o.environment = some FetchConfig.algorithmsVariable) :
    (line.policy? name).isSome = line.has name ∧
      (g.policy? name).getD .standard = (line.policy? name).getD
        (FetchConfig.environmentAlgorithms environment).1 ∧
      ∀ w ∈ (FetchConfig.environmentAlgorithms environment).2,
        w = .algorithms ∧ line.has name = true := by
  subst named
  obtain ⟨given, kept, v, rest, first, admits⟩ | ⟨absent, empty, found⟩ := here
  · rw [kind] at admits
    cases v <;> cases admits
    rename_i p
    have ofLine : line.policy? o.name = some p := by rw [Given.policy?, first]
    have ofBoth : g.policy? o.name = some p := by rw [Given.policy?, kept, first]
    rw [ofLine, ofBoth, given]
    exact ⟨rfl, rfl, fun w warned => ⟨eq_of_mem_environmentAlgorithms warned, rfl⟩⟩
  · have ofLine : line.policy? o.name = none := by rw [Given.policy?, empty]
    rw [ofLine, absent, Option.getD_none, FetchConfig.environmentAlgorithms]
    cases set : environment FetchConfig.algorithmsVariable with
    | none =>
      rw [Given.policy?, values_of_unset set ofVariable found, valueOf?_of_unset set]
      exact ⟨rfl, rfl, fun w warned => absurd warned List.not_mem_nil⟩
    | some value =>
      obtain ⟨s, text, read⟩ := exists_text_of_set set ofVariable found
      rw [kind, OptionKind.read?] at read
      rw [Given.policy?, text]
      dsimp only
      cases parsed : AlgorithmPolicy.parse s with
      | error e =>
        rw [parsed] at read
        cases read
      | ok p =>
        rw [parsed] at read
        rw [← Option.some.inj read]
        exact ⟨rfl, rfl, fun w warned => absurd warned List.not_mem_nil⟩

theorem has_of_givenOrFound (name : String) (here : o.GivenOrFound environment line g)
    (named : o.name = name) (ofNone : o.environment = none) : g.has name = line.has name := by
  subst named
  rw [Bool.eq_iff_iff, Given.has_iff, Given.has_iff]
  obtain ⟨-, kept, -⟩ | ⟨-, empty, found⟩ := here
  · rw [kept]
  · rw [OptionSpec.fromEnvironment?, ofNone] at found
    rw [empty, ← Option.some.inj found]

end Fields

/-- The option that is read instead of the variable that a warning is about. -/
def optionOfWarning : ConfigWarning → String
  | .algorithms => "algorithms"
  | .seconds variableName =>
    if variableName = FetchConfig.timeoutVariable then "timeout" else "default-cache-ttl"

theorem optionOfWarning_ne (w : ConfigWarning) :
    optionOfWarning w ≠ "keys" ∧ optionOfWarning w ≠ "output" := by
  cases w with
  | algorithms => decide
  | seconds variableName =>
    rw [optionOfWarning]
    split <;> decide

theorem nodup_fetch_options :
    (CommandName.fetch.grammar.options.map OptionSpec.name).Nodup := by
  decide

/-- The configuration of a fetch is that of the environment, with the options that are given on
the line put in its place. -/
theorem config_of_given {environment : Environment} {line g : Given} {a : FetchArguments}
    (fits : line.Fits CommandName.fetch.grammar)
    (added : Grammar.addEnvironment environment line CommandName.fetch.grammar.options = .ok g)
    (made : FetchArguments.of? g = some a) :
    a.config =
      { url := (line.text? "url").getD (FetchConfig.ofEnvironment environment).1.url
        timeoutSeconds := (line.word? "timeout").getD
          (FetchConfig.ofEnvironment environment).1.timeoutSeconds
        defaultCacheTtl := (line.word? "default-cache-ttl").getD
          (FetchConfig.ofEnvironment environment).1.defaultCacheTtl
        algorithms := if line.has "any-algorithm" then .any
          else (line.policy? "algorithms").getD
            (FetchConfig.ofEnvironment environment).1.algorithms } ∧
      ((line.text? "url").isSome = line.has "url" ∧
        (line.word? "timeout").isSome = line.has "timeout" ∧
        (line.word? "default-cache-ttl").isSome = line.has "default-cache-ttl" ∧
        (line.policy? "algorithms").isSome = line.has "algorithms") ∧
      ∀ w ∈ (FetchConfig.ofEnvironment environment).2, line.has (optionOfWarning w) = true := by
  have each : ∀ o ∈ CommandName.fetch.grammar.options, o.GivenOrFound environment line g :=
    fun o known => Grammar.givenOrFound_of_addEnvironment fits nodup_fetch_options added known
  obtain ⟨urlGiven, url⟩ := text?_of_givenOrFound "url"
    (each (optional "url" .text (some FetchConfig.urlVariable)) (by decide)) rfl rfl rfl
    FetchConfig.standardUrl
  obtain ⟨timeoutGiven, timeout, timeoutWarned⟩ := word?_of_givenOrFound "timeout"
    (each (optional "timeout" .word (some FetchConfig.timeoutVariable)) (by decide)) rfl rfl rfl
    FetchConfig.standardTimeout
  obtain ⟨ttlGiven, ttl, ttlWarned⟩ := word?_of_givenOrFound "default-cache-ttl"
    (each (optional "default-cache-ttl" .word (some FetchConfig.cacheTtlVariable)) (by decide))
    rfl rfl rfl FetchConfig.standardCacheTtl
  obtain ⟨policyGiven, policy, policyWarned⟩ := policy?_of_givenOrFound "algorithms"
    (each (optional "algorithms" .policy (some FetchConfig.algorithmsVariable)) (by decide))
    rfl rfl rfl
  have anyAlgorithm := has_of_givenOrFound "any-algorithm"
    (each (flag "any-algorithm" none) (by decide)) rfl rfl
  refine ⟨?_, ⟨urlGiven, timeoutGiven, ttlGiven, policyGiven⟩, ?_⟩
  · obtain ⟨keys, -, rest⟩ := Option.bind_eq_some_iff.mp made
    obtain ⟨output, -, same⟩ := Option.bind_eq_some_iff.mp rest
    rw [← Option.some.inj same, FetchArguments.config]
    dsimp only
    rw [url, timeout, ttl, policy, anyAlgorithm]
    rfl
  · intro w warned
    rcases List.mem_append.mp warned with earlier | ofTtl
    · rcases List.mem_append.mp earlier with ofPolicy | ofTimeout
      · obtain ⟨rfl, given⟩ := policyWarned w ofPolicy
        exact given
      · obtain ⟨rfl, given⟩ := timeoutWarned w ofTimeout
        exact given
    · obtain ⟨rfl, given⟩ := ttlWarned w ofTtl
      exact given

theorem values_of_read?_path {s : String} {values : List OptionValue}
    (read : OptionKind.path.read? s = some values) : values = [.path ⟨s⟩] := by
  rw [OptionKind.read?] at read
  split at read <;> cases read
  rfl

/-- A line with a key file and an output path gives no other option. -/
theorem options_of_read {keys output : String} {line : Given}
    (read : CommandName.fetch.grammar.read none default ["--keys", keys, "-o", output] =
      .ok line) : line.options = [("keys", .path ⟨keys⟩), ("output", .path ⟨output⟩)] := by
  obtain ⟨between, addedKeys, rest⟩ :=
    Grammar.exists_addText_of_read (by decide) (by decide) rfl read
  obtain ⟨last, addedOutput, nothing⟩ :=
    Grammar.exists_addText_of_read (by decide) (by decide) rfl rest
  cases nothing
  obtain ⟨keysValues, readKeys, ofKeys⟩ := Given.addText_ok addedKeys
  obtain ⟨outputValues, readOutput, ofOutput⟩ := Given.addText_ok addedOutput
  rw [ofOutput, ofKeys, values_of_read?_path readKeys, values_of_read?_path readOutput]
  rfl

/-- A fetch that is accepted goes by the options that are given on its line and for the rest by
the configuration of the environment, which warns of no variable but those whose options are given.
Without such options the two agree, and there is no warning. -/
theorem fetch_config_agrees_with_environment (environment : Environment) :
    (∀ keys output verbose a,
      read environment ["fetch", "--keys", keys, "-o", output] = .run verbose (.fetch a) →
      a.config = (FetchConfig.ofEnvironment environment).1 ∧
        (FetchConfig.ofEnvironment environment).2 = []) ∧
    ∀ arguments verbose a, read environment arguments = .run verbose (.fetch a) →
      ∃ front rest line, arguments = front ++ "fetch" :: rest ∧
        (∀ argument ∈ front, Grammar.isOption argument = true) ∧
        CommandName.fetch.grammar.read none default rest = .ok line ∧
        a.config =
          { url := (line.text? "url").getD (FetchConfig.ofEnvironment environment).1.url
            timeoutSeconds := (line.word? "timeout").getD
              (FetchConfig.ofEnvironment environment).1.timeoutSeconds
            defaultCacheTtl := (line.word? "default-cache-ttl").getD
              (FetchConfig.ofEnvironment environment).1.defaultCacheTtl
            algorithms := if line.has "any-algorithm" then .any
              else (line.policy? "algorithms").getD
                (FetchConfig.ofEnvironment environment).1.algorithms } ∧
        ((line.text? "url").isSome = line.has "url" ∧
          (line.word? "timeout").isSome = line.has "timeout" ∧
          (line.word? "default-cache-ttl").isSome = line.has "default-cache-ttl" ∧
          (line.policy? "algorithms").isSome = line.has "algorithms") ∧
        ∀ w ∈ (FetchConfig.ofEnvironment environment).2,
          line.has (optionOfWarning w) = true := by
  have general : ∀ {arguments verbose a},
      read environment arguments = .run verbose (.fetch a) →
      ∃ front rest line g, arguments = front ++ "fetch" :: rest ∧
        (∀ argument ∈ front, Grammar.isOption argument = true) ∧
        CommandName.fetch.grammar.read none default rest = .ok line ∧
        line.Fits CommandName.fetch.grammar ∧
        Grammar.addEnvironment environment line CommandName.fetch.grammar.options = .ok g ∧
        FetchArguments.of? g = some a := by
    intro arguments verbose a accepted
    obtain ⟨front, rest, line, g, all, options, ofLine, added, made⟩ :=
      exists_given_of_fetch accepted
    exact ⟨front, rest, line, g, all, options, ofLine,
      Grammar.fits_of_read (Grammar.reads_default _) ofLine, added, made⟩
  constructor
  · intro keys output verbose a accepted
    obtain ⟨front, rest, line, g, all, options, ofLine, fits, added, made⟩ := general accepted
    have alone : front = [] ∧ rest = ["--keys", keys, "-o", output] := by
      cases front with
      | nil => exact ⟨rfl, (List.cons.inj all).2.symm⟩
      | cons first more =>
        have isOption := options first List.mem_cons_self
        rw [← (List.cons.inj all).1] at isOption
        cases isOption
    rw [alone.2] at ofLine
    have absent : ∀ name, name ≠ "keys" → name ≠ "output" → line.has name = false := by
      intro name notKeys notOutput
      rw [Given.has, options_of_read ofLine]
      simp [notKeys.symm, notOutput.symm]
    obtain ⟨config, ⟨url, timeout, ttl, policy⟩, warned⟩ := config_of_given fits added made
    rw [absent _ (by decide) (by decide), Option.isSome_eq_false_iff, Option.isNone_iff_eq_none]
      at url timeout ttl policy
    constructor
    · rw [config, url, timeout, ttl, policy, absent _ (by decide) (by decide)]
      rfl
    · apply List.eq_nil_iff_forall_not_mem.mpr
      intro w member
      have given := warned w member
      rw [absent _ (optionOfWarning_ne w).1 (optionOfWarning_ne w).2] at given
      cases given
  · intro arguments verbose a accepted
    obtain ⟨front, rest, line, g, all, options, ofLine, fits, added, made⟩ := general accepted
    exact ⟨front, rest, line, all, options, ofLine, config_of_given fits added made⟩

/-- A time limit of the environment is read with its sign, and an option stands in for it. -/
theorem timeout_variable_read_alike :
    let environment : Environment := fun variableName =>
      if variableName = FetchConfig.timeoutVariable then some (Bytes.ofText "+7") else none
    let plain : FetchArguments := ⟨none, ⟨"k"⟩, ⟨"o"⟩, none, some 7, none, none, false⟩
    let limited : FetchArguments := ⟨none, ⟨"k"⟩, ⟨"o"⟩, none, some 9, none, none, false⟩
    read environment ["fetch", "--keys", "k", "-o", "o"] = .run false (.fetch plain) ∧
    (plain.config = (FetchConfig.ofEnvironment environment).1 ∧
      (FetchConfig.ofEnvironment environment).2 = []) ∧
    read environment ["-v", "fetch", "--keys=k", "--timeout", "9", "-oo"] =
      .run true (.fetch limited) ∧
    ∃ front rest line,
      ["-v", "fetch", "--keys=k", "--timeout", "9", "-oo"] = front ++ "fetch" :: rest ∧
      CommandName.fetch.grammar.read none default rest = .ok line ∧
      limited.config.timeoutSeconds = (line.word? "timeout").getD 7 := by
  intro environment plain limited
  have accepted : read environment ["fetch", "--keys", "k", "-o", "o"] =
      .run false (.fetch plain) := by decide +kernel
  have acceptedToo : read environment ["-v", "fetch", "--keys=k", "--timeout", "9", "-oo"] =
      .run true (.fetch limited) := by decide +kernel
  have seven : (FetchConfig.ofEnvironment environment).1.timeoutSeconds = 7 := by decide +kernel
  obtain ⟨front, rest, line, all, -, ofLine, config, -⟩ :=
    (fetch_config_agrees_with_environment environment).2 _ _ _ acceptedToo
  refine ⟨accepted, (fetch_config_agrees_with_environment environment).1 _ _ _ _ accepted,
    acceptedToo, front, rest, line, all, ofLine, ?_⟩
  rw [config, ← seven]

end CommandLine

end FederationTrust
