import FederationTrust.Config
import FederationTrust.Proofs.DecimalTexts
import FederationTrust.Proofs.Octets
import FederationTrust.Proofs.PolicyTexts

/-!
# Variables that are not used

Each field of the configuration of the environment comes from one variable: from its value, if that
gives something for the field, and otherwise the field has its standard value. Of a variable that is
set without being used there is one warning, provided that its value is text. A value that is no
text is passed over without any warning, as if the variable were not set.
-/

namespace FederationTrust

def ConfigWarning.variableName : ConfigWarning → String
  | .algorithms => FetchConfig.algorithmsVariable
  | .seconds name => name

namespace FetchConfig

def GivesUrl (value : Bytes) (url : String) : Prop :=
  value = Bytes.ofText url

/-- A value gives seconds as a decimal number that fits 64 bits, perhaps after a plus sign, with
white space around it. -/
def GivesSeconds (value : Bytes) (seconds : UInt64) : Prop :=
  ∃ before plus digits after : List Char, (∀ c ∈ before ++ after, Text.isBlank c = true) ∧
    (plus = [] ∨ plus = ['+']) ∧ digits ≠ [] ∧ (∀ c ∈ digits, c.isDigit = true) ∧
    Nat.ofDigitChars 10 digits 0 = seconds.toNat ∧
    value = Bytes.ofText (String.ofList (before ++ (plus ++ digits) ++ after))

def GivesPolicy (value : Bytes) (policy : AlgorithmPolicy) : Prop :=
  ∃ s, value = Bytes.ofText s ∧ AlgorithmPolicy.Means s (.ok policy)

theorem givesSeconds_iff {value : Bytes} {seconds : UInt64} :
    GivesSeconds value seconds ↔
      ∃ s, value = Bytes.ofText s ∧ Text.word? (Text.trim s.toList) = some seconds := by
  constructor
  · rintro ⟨before, plus, digits, after, blank, sign, some, each, number, rfl⟩
    refine ⟨_, rfl, ?_⟩
    have read : Text.word? (plus ++ digits) = .some seconds := by
      have value := Text.digits?_eq_some_iff.mpr ⟨some, each, number⟩
      refine Text.word?_eq_some_iff.mpr ⟨digits, ?_, value⟩
      rcases sign with rfl | rfl
      · exact .inl rfl
      · exact .inr rfl
    rw [String.toList_ofList, Text.trim_append_append blank,
      Text.trim_eq_self (Text.isBlank_of_word? read), read]
  · rintro ⟨s, rfl, read⟩
    obtain ⟨before, after, blank, whole⟩ := Text.exists_eq_append_trim s.toList
    obtain ⟨digits, form, number⟩ := Text.word?_eq_some_iff.mp read
    obtain ⟨some, each, number⟩ := Text.digits?_eq_some_iff.mp number
    rcases form with form | form
    · refine ⟨before, [], digits, after, blank, .inl rfl, some, each, number, ?_⟩
      rw [List.nil_append, ← form, ← whole, String.ofList_toList]
    · refine ⟨before, ['+'], digits, after, blank, .inr rfl, some, each, number, ?_⟩
      rw [List.singleton_append, ← form, ← whole, String.ofList_toList]

/-- What the value of a variable settles: a field and the warnings about the variable. A value that
gives something for the field is used, and any other leaves the field as it is by standard, with a
warning if the value is text. -/
inductive Settles {α : Type} (gives : Bytes → α → Prop) (standard : α) (w : ConfigWarning) :
    Option Bytes → α × List ConfigWarning → Prop
  | unset : Settles gives standard w none (standard, [])
  | used {value : Bytes} {a : α} (given : gives value a) :
      Settles gives standard w (some value) (a, [])
  | refused {s : String} (unusable : ∀ a, ¬ gives (Bytes.ofText s) a) :
      Settles gives standard w (some (Bytes.ofText s)) (standard, [w])
  | unreadable {value : Bytes} (noText : ∀ s, value ≠ Bytes.ofText s) :
      Settles gives standard w (some value) (standard, [])

section Variables

variable (environment : Environment)

/-- Only the text of a variable matters, and whether it gives something. -/
theorem settles_of_text {α : Type} {gives : Bytes → α → Prop} {standard : α} {w : ConfigWarning}
    {name : String} {r : α × List ConfigWarning}
    (untold : valueOf? environment name = none → r = (standard, []))
    (told : ∀ s, valueOf? environment name = some s →
      (∃ a, gives (Bytes.ofText s) a ∧ r = (a, [])) ∨
      (∀ a, ¬ gives (Bytes.ofText s) a) ∧ r = (standard, [w])) :
    Settles gives standard w (environment name) r := by
  rw [valueOf?] at untold told
  cases set : environment name with
  | none =>
    rw [untold (by rw [set, Option.bind_none])]
    exact .unset
  | some value =>
    rw [set, Option.bind_some] at untold told
    cases text : Bytes.text? value with
    | none =>
      rw [untold text]
      refine .unreadable fun s written => ?_
      rw [Bytes.text?_eq_some_iff.mpr written] at text
      cases text
    | some s =>
      rw [Bytes.text?_eq_some_iff.mp text]
      rcases told s text with ⟨a, given, rfl⟩ | ⟨unusable, rfl⟩
      · exact .used given
      · exact .refused unusable

theorem settles_url (w : ConfigWarning) :
    Settles GivesUrl standardUrl w (environment urlVariable)
      ((valueOf? environment urlVariable).getD standardUrl, []) := by
  refine settles_of_text environment (fun unread => ?_) fun s text => .inl ⟨s, rfl, ?_⟩
  · rw [unread, Option.getD_none]
  · rw [text, Option.getD_some]

theorem settles_seconds (name : String) (standard : UInt64) :
    Settles GivesSeconds standard (.seconds name) (environment name)
      (environmentSeconds environment name standard) := by
  refine settles_of_text environment (fun unread => ?_) fun s text => ?_
  · rw [environmentSeconds, unread]
  · rw [environmentSeconds, text]
    dsimp only
    cases read : Text.word? (Text.trim s.toList) with
    | some seconds => exact .inl ⟨seconds, givesSeconds_iff.mpr ⟨s, rfl, read⟩, rfl⟩
    | none =>
      refine .inr ⟨fun seconds given => ?_, rfl⟩
      obtain ⟨t, same, number⟩ := givesSeconds_iff.mp given
      rw [← Bytes.ofText_injective same, read] at number
      cases number

theorem settles_algorithms :
    Settles GivesPolicy .standard .algorithms (environment algorithmsVariable)
      (environmentAlgorithms environment) := by
  refine settles_of_text environment (fun unread => ?_) fun s text => ?_
  · rw [environmentAlgorithms, unread]
  · rw [environmentAlgorithms, text]
    dsimp only
    cases read : AlgorithmPolicy.parse s with
    | ok p => exact .inl ⟨p, ⟨s, rfl, (AlgorithmPolicy.parse_eq_iff s _).mp read⟩, rfl⟩
    | error e =>
      refine .inr ⟨fun p given => ?_, rfl⟩
      obtain ⟨t, same, means⟩ := given
      rw [← Bytes.ofText_injective same, ← AlgorithmPolicy.parse_eq_iff, read] at means
      cases means

def warningsAbout (name : String) : List ConfigWarning :=
  (ofEnvironment environment).2.filter fun w => w.variableName = name

/-- A variable has a value that gives nothing for its field. -/
def Unused {α : Type} (gives : Bytes → α → Prop) (value? : Option Bytes) : Prop :=
  ∃ value, value? = some value ∧ ∀ a, ¬ gives value a

def Readable (value? : Option Bytes) : Prop :=
  ∀ value, value? = some value → ∃ s, value = Bytes.ofText s

/-- There is exactly one warning if the value is not used, and else none. -/
def Warned {α : Type} (gives : Bytes → α → Prop) (w : ConfigWarning) (value? : Option Bytes)
    (warnings : List ConfigWarning) : Prop :=
  (Unused gives value? ∧ warnings = [w]) ∨ (¬ Unused gives value? ∧ warnings = [])

theorem Settles.only {α : Type} {gives : Bytes → α → Prop} {standard : α} {w : ConfigWarning}
    {value? : Option Bytes} {r : α × List ConfigWarning}
    (settled : Settles gives standard w value? r) : ∀ v ∈ r.2, v = w := by
  cases settled with
  | unset | used | unreadable => exact nofun
  | refused => exact fun v member => List.mem_singleton.mp member

theorem Settles.warned {α : Type} {gives : Bytes → α → Prop} {standard : α} {w : ConfigWarning}
    {value? : Option Bytes} {r : α × List ConfigWarning}
    (settled : Settles gives standard w value? r) (readable : Readable value?) :
    Warned gives w value? r.2 := by
  cases settled with
  | unset => exact .inr ⟨nofun, rfl⟩
  | used given =>
    refine .inr ⟨?_, rfl⟩
    rintro ⟨_, ⟨⟩, unusable⟩
    exact unusable _ given
  | refused unusable => exact .inl ⟨⟨_, rfl, unusable⟩, rfl⟩
  | unreadable noText =>
    obtain ⟨s, written⟩ := readable _ rfl
    exact absurd written (noText s)

theorem filter_of_only {warnings : List ConfigWarning} {w : ConfigWarning}
    (only : ∀ v ∈ warnings, v = w) (name : String) :
    (warnings.filter fun v => v.variableName = name) =
      if w.variableName = name then warnings else [] := by
  split
  · rename_i same
    exact List.filter_eq_self.mpr fun v member => decide_eq_true (only v member ▸ same)
  · rename_i other
    refine List.filter_eq_nil_iff.mpr fun v member about => other ?_
    exact only v member ▸ of_decide_eq_true about

/-- Each warning is about the variable whose value it came from. -/
theorem warningsAbout_eq (name : String) :
    warningsAbout environment name =
      (if algorithmsVariable = name then (environmentAlgorithms environment).2 else []) ++
      (if timeoutVariable = name then
        (environmentSeconds environment timeoutVariable standardTimeout).2 else []) ++
      (if cacheTtlVariable = name then
        (environmentSeconds environment cacheTtlVariable standardCacheTtl).2 else []) := by
  have all : (ofEnvironment environment).2 = (environmentAlgorithms environment).2 ++
      (environmentSeconds environment timeoutVariable standardTimeout).2 ++
      (environmentSeconds environment cacheTtlVariable standardCacheTtl).2 := rfl
  rw [warningsAbout, all, List.filter_append, List.filter_append,
    filter_of_only (settles_algorithms environment).only,
    filter_of_only (settles_seconds environment timeoutVariable _).only,
    filter_of_only (settles_seconds environment cacheTtlVariable _).only]
  rfl

theorem warningsAbout_url : warningsAbout environment urlVariable = [] := by
  rw [warningsAbout_eq, if_neg (by decide), if_neg (by decide), if_neg (by decide)]
  rfl

theorem warningsAbout_timeout : warningsAbout environment timeoutVariable =
    (environmentSeconds environment timeoutVariable standardTimeout).2 := by
  rw [warningsAbout_eq, if_neg (by decide), if_pos rfl, if_neg (by decide), List.nil_append,
    List.append_nil]

theorem warningsAbout_cacheTtl : warningsAbout environment cacheTtlVariable =
    (environmentSeconds environment cacheTtlVariable standardCacheTtl).2 := by
  rw [warningsAbout_eq, if_neg (by decide), if_neg (by decide), if_pos rfl]
  rfl

theorem warningsAbout_algorithms : warningsAbout environment algorithmsVariable =
    (environmentAlgorithms environment).2 := by
  rw [warningsAbout_eq, if_pos rfl, if_neg (by decide), if_neg (by decide), List.append_nil,
    List.append_nil]

/-- Every warning is about a variable that a field is read from. -/
theorem variableName_mem_of_warned {w : ConfigWarning}
    (warned : w ∈ (ofEnvironment environment).2) : w.variableName ∈ variableNames := by
  have about : w ∈ warningsAbout environment w.variableName :=
    List.mem_filter.mpr ⟨warned, decide_eq_true rfl⟩
  rw [warningsAbout_eq] at about
  refine Decidable.byContradiction fun other => ?_
  have different : ∀ name ∈ variableNames, name ≠ w.variableName :=
    fun name member same => other (same ▸ member)
  rw [if_neg (different _ (by decide)), if_neg (different _ (by decide)),
    if_neg (different _ (by decide))] at about
  cases about

theorem valueOf?_of_same {environment other : Environment} {name : String}
    (same : other name = environment name) : valueOf? other name = valueOf? environment name := by
  rw [valueOf?, same, valueOf?]

/-- A field follows a variable if the variable settles the field and the warnings about itself, no
other variable matters for the field, and exactly one warning tells of a value that is text and not
used. -/
structure Follows {α : Type} (field : FetchConfig → α) (name : String) (gives : Bytes → α → Prop)
    (standard : α) (w : ConfigWarning) : Prop where
  settled : Settles gives standard w (environment name)
    (field (ofEnvironment environment).1, warningsAbout environment name)
  alone : ∀ other : Environment, other name = environment name →
    field (ofEnvironment other).1 = field (ofEnvironment environment).1
  warned : Readable (environment name) →
    Warned gives w (environment name) (warningsAbout environment name)

/-- A field follows a variable if it and the warnings about the variable are read off together, from
the text of the variable. -/
theorem follows_of_settles {α : Type} {field : FetchConfig → α} {name : String}
    {gives : Bytes → α → Prop} {standard : α} {w : ConfigWarning}
    (read : Environment → α × List ConfigWarning)
    (own : ∀ other, valueOf? other name = valueOf? environment name → read other = read environment)
    (fields : ∀ e, field (ofEnvironment e).1 = (read e).1)
    (warnings : warningsAbout environment name = (read environment).2)
    (settled : Settles gives standard w (environment name) (read environment)) :
    Follows environment field name gives standard w := by
  have pair : read environment =
      (field (ofEnvironment environment).1, warningsAbout environment name) :=
    Prod.ext (fields environment).symm warnings.symm
  rw [pair] at settled
  refine ⟨settled, fun other same => ?_, settled.warned⟩
  rw [fields, fields, own other (valueOf?_of_same same)]

theorem follows_url (w : ConfigWarning) :
    Follows environment url urlVariable GivesUrl standardUrl w :=
  follows_of_settles environment (fun e => ((valueOf? e urlVariable).getD standardUrl, []))
    (fun _ same => by rw [same]) (fun _ => rfl) (warningsAbout_url environment)
    (settles_url environment w)

theorem follows_timeout : Follows environment timeoutSeconds timeoutVariable GivesSeconds
    standardTimeout (.seconds timeoutVariable) :=
  follows_of_settles environment (environmentSeconds · timeoutVariable standardTimeout)
    (fun _ same => by rw [environmentSeconds, same, environmentSeconds]) (fun _ => rfl)
    (warningsAbout_timeout environment) (settles_seconds environment timeoutVariable _)

theorem follows_cacheTtl : Follows environment defaultCacheTtl cacheTtlVariable GivesSeconds
    standardCacheTtl (.seconds cacheTtlVariable) :=
  follows_of_settles environment (environmentSeconds · cacheTtlVariable standardCacheTtl)
    (fun _ same => by rw [environmentSeconds, same, environmentSeconds]) (fun _ => rfl)
    (warningsAbout_cacheTtl environment) (settles_seconds environment cacheTtlVariable _)

theorem follows_algorithms : Follows environment algorithms algorithmsVariable GivesPolicy
    .standard .algorithms :=
  follows_of_settles environment environmentAlgorithms
    (fun _ same => by rw [environmentAlgorithms, same, environmentAlgorithms]) (fun _ => rfl)
    (warningsAbout_algorithms environment) (settles_algorithms environment)

/-- Each field of the configuration of an environment follows its own variable, and every warning is
about one of the variables. None is ever about the URL. -/
theorem ofEnvironment_follows_variables :
    (∀ w, Follows environment url urlVariable GivesUrl standardUrl w) ∧
    Follows environment timeoutSeconds timeoutVariable GivesSeconds standardTimeout
      (.seconds timeoutVariable) ∧
    Follows environment defaultCacheTtl cacheTtlVariable GivesSeconds standardCacheTtl
      (.seconds cacheTtlVariable) ∧
    Follows environment algorithms algorithmsVariable GivesPolicy .standard .algorithms ∧
    ∀ w ∈ (ofEnvironment environment).2,
      w.variableName ∈ variableNames ∧ w.variableName ≠ urlVariable := by
  refine ⟨follows_url environment, follows_timeout environment, follows_cacheTtl environment,
    follows_algorithms environment, fun w warned => ⟨variableName_mem_of_warned environment warned,
      fun about => ?_⟩⟩
  have member : w ∈ warningsAbout environment urlVariable :=
    List.mem_filter.mpr ⟨warned, decide_eq_true about⟩
  rw [warningsAbout_url] at member
  cases member

end Variables

/-- A limit that is written with its unit is not used, and there is one warning about it. -/
theorem limit_with_unit_warned :
    let environment : Environment := fun name =>
      if name = timeoutVariable then some (Bytes.ofText "30s") else none
    Unused GivesSeconds (environment timeoutVariable) ∧
      (ofEnvironment environment).1 = standard ∧
      warningsAbout environment timeoutVariable = [.seconds timeoutVariable] := by
  intro environment
  have unused : Unused GivesSeconds (environment timeoutVariable) := by
    refine ⟨Bytes.ofText "30s", rfl, fun seconds given => ?_⟩
    obtain ⟨s, same, number⟩ := givesSeconds_iff.mp given
    have unread : Text.word? (Text.trim "30s".toList) = none := by decide
    rw [← Bytes.ofText_injective same, unread] at number
    cases number
  have readable : Readable (environment timeoutVariable) := by
    rintro value ⟨⟩
    exact ⟨"30s", rfl⟩
  rcases (ofEnvironment_follows_variables environment).2.1.warned readable with warned | never
  · exact ⟨unused, by decide, warned.2⟩
  · exact absurd unused never.1

/-- A value that is no text is not used either, but nothing is said about it. -/
theorem unreadable_limit_passed_over :
    let environment : Environment := fun name =>
      if name = timeoutVariable then some [0xFF] else none
    Unused GivesSeconds (environment timeoutVariable) ∧
      ofEnvironment environment = (standard, []) := by
  refine ⟨⟨[0xFF], rfl, ?_⟩, by decide⟩
  intro seconds given
  obtain ⟨s, text, -⟩ := givesSeconds_iff.mp given
  have unread : Bytes.text? [0xFF] = none := by decide
  rw [Bytes.text?_eq_some_iff.mpr text] at unread
  cases unread

end FetchConfig

end FederationTrust
