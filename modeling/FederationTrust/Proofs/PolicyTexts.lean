import FederationTrust.Policy
import FederationTrust.Proofs.Texts

/-!
# Texts of policies

A text lists the pieces between its commas, without the white space around them and without the
empty ones. It is read as the word for any algorithm, as the algorithms that it lists, or as an
error, and what is stated here of each of these cases holds exactly where it is read so. Hence a
policy may be replaced by the one that its text is read as, and the policy of a text is read from
its own text again. A list without algorithms is the only policy whose text is not read.
-/

namespace FederationTrust

namespace AlgorithmPolicy

/-- The names that a text lists: the pieces between its commas, without the white space around them
and without the empty ones. -/
def Lists (s : String) (names : List String) : Prop :=
  ∃ pieces : List (List Char), pieces ≠ [] ∧ (∀ piece ∈ pieces, ',' ∉ piece) ∧
    s.toList = [','].intercalate pieces ∧
    names = ((pieces.map Text.trim).filter (· ≠ [])).map String.ofList

def SaysAny (s : String) : Prop :=
  (Text.trim s.toList).map Text.lowerAscii = ['a', 'n', 'y']

theorem segments_eq (s : List Char) :
    segments s = (((Text.splitAt ',' s).map Text.trim).filter (· ≠ [])).map String.ofList := by
  rw [segments]
  induction (Text.splitAt ',' s).map Text.trim with
  | nil => rfl
  | cons piece rest ih =>
    cases piece with
    | nil => exact ih
    | cons c piece => exact congrArg (String.ofList (c :: piece) :: ·) ih

theorem lists_iff (s : String) (names : List String) :
    Lists s names ↔ names = segments (Text.trim s.toList) := by
  rw [segments_eq, Text.map_trim_splitAt_trim rfl]
  constructor
  · rintro ⟨pieces, some, plain, whole, rfl⟩
    rw [whole, Text.splitAt_intercalate plain some]
  · rintro rfl
    exact ⟨_, Text.splitAt_ne_nil ',' s.toList, fun _ => Text.not_mem_of_mem_splitAt,
      (Text.intercalate_splitAt ',' s.toList).symm, rfl⟩

/-- What a text stands for: any algorithm, the algorithms that it lists, each once and in the order
in which they first occur, or an error about the first name of no algorithm or about no names. -/
inductive Means (s : String) : Except PolicyError AlgorithmPolicy → Prop
  | any (isAny : SaysAny s) : Means s (.ok .any)
  | pinned (other : ¬ SaysAny s) {algorithms : List Algorithm}
      (lists : Lists s (algorithms.map Algorithm.name)) (some : algorithms ≠ []) :
      Means s (.ok (.pinned algorithms.eraseDups))
  | unknown (other : ¬ SaysAny s) {algorithms : List Algorithm} {name : String}
      {after : List String} (lists : Lists s (algorithms.map Algorithm.name ++ name :: after))
      (unnamed : ∀ a, Algorithm.name a ≠ name) : Means s (.error (.unknown name))
  | empty (other : ¬ SaysAny s) (lists : Lists s []) : Means s (.error .empty)

/-- Algorithms that are listed again do not count. -/
theorem collect_names (allowed algorithms : List Algorithm) :
    collect allowed (algorithms.map Algorithm.name) =
      .ok (allowed ++ (algorithms.removeAll allowed).eraseDups) := by
  induction algorithms generalizing allowed with
  | nil => simp [collect, List.removeAll]
  | cons a rest ih =>
    rw [List.map_cons, collect, Algorithm.ofName?_name]
    dsimp only
    rw [ih]
    by_cases known : allowed.contains a = true
    · rw [if_pos known, List.cons_removeAll, if_neg (by rw [known]; decide)]
    · rw [if_neg known, List.cons_removeAll, if_pos (Bool.eq_false_iff.mpr known),
        List.eraseDups_cons, List.append_assoc, List.singleton_append]
      have others : rest.removeAll (allowed ++ [a]) =
          (rest.removeAll allowed).filter fun b => !b == a := by
        rw [List.removeAll, List.removeAll, List.filter_filter]
        refine List.filter_congr fun b _ => ?_
        by_cases same : b = a <;> simp [same]
      rw [others]

/-- The first name of no algorithm is the one that is told. -/
theorem collect_unknown (allowed algorithms : List Algorithm) {name : String}
    (unknown : ∀ a, Algorithm.name a ≠ name) (after : List String) :
    collect allowed (algorithms.map Algorithm.name ++ name :: after) = .error (.unknown name) := by
  induction algorithms generalizing allowed with
  | nil =>
    have none : Algorithm.ofName? name = none := by
      rw [Option.eq_none_iff_forall_ne_some]
      exact fun a found => unknown a (Algorithm.name_of_ofName? found)
    rw [List.map_nil, List.nil_append, collect, none]
  | cons a rest ih =>
    rw [List.map_cons, List.cons_append, collect, Algorithm.ofName?_name]
    exact ih _

/-- The names of a list are all those of algorithms, or there is a first one that is not. -/
theorem named_or_unknown (names : List String) :
    (∃ algorithms : List Algorithm, names = algorithms.map Algorithm.name) ∨
      ∃ (algorithms : List Algorithm) (name : String) (after : List String),
        names = algorithms.map Algorithm.name ++ name :: after ∧ ∀ a, Algorithm.name a ≠ name := by
  induction names with
  | nil => exact .inl ⟨[], rfl⟩
  | cons name rest ih =>
    by_cases known : ∃ a, Algorithm.name a = name
    · obtain ⟨a, rfl⟩ := known
      rcases ih with ⟨algorithms, rfl⟩ | ⟨algorithms, other, after, rfl, unknown⟩
      · exact .inl ⟨a :: algorithms, rfl⟩
      · exact .inr ⟨a :: algorithms, other, after, rfl, unknown⟩
    · exact .inr ⟨[], name, rest, rfl, not_exists.mp known⟩

theorem parse_of_lists {s : String} {names : List String} (other : ¬ SaysAny s)
    (lists : Lists s names) :
    parse s = match collect [] names with
      | .error e => .error e
      | .ok [] => .error .empty
      | .ok allowed => .ok (.pinned allowed) := by
  rw [(lists_iff s names).mp lists]
  exact if_neg other

theorem parse_of_means {s : String} {r : Except PolicyError AlgorithmPolicy} (means : Means s r) :
    parse s = r := by
  cases means with
  | any isAny => exact if_pos isAny
  | @pinned other algorithms lists some =>
    obtain ⟨first, rest, rfl⟩ := List.exists_cons_of_ne_nil some
    rw [parse_of_lists other lists, collect_names, List.removeAll_nil, List.nil_append,
      List.eraseDups_cons]
  | unknown other lists unnamed => rw [parse_of_lists other lists, collect_unknown [] _ unnamed]
  | empty other lists =>
    rw [parse_of_lists other lists]
    rfl

theorem exists_means (s : String) : ∃ r, Means s r := by
  by_cases isAny : SaysAny s
  · exact ⟨_, .any isAny⟩
  · have lists := (lists_iff s _).mpr rfl
    rcases named_or_unknown (segments (Text.trim s.toList)) with
      ⟨algorithms, named⟩ | ⟨algorithms, name, after, named, unnamed⟩
    · rw [named] at lists
      by_cases none : algorithms = []
      · rw [none] at lists
        exact ⟨_, .empty isAny lists⟩
      · exact ⟨_, .pinned isAny lists none⟩
    · rw [named] at lists
      exact ⟨_, .unknown isAny lists unnamed⟩

/-- A text is read as what it stands for. -/
theorem parse_eq_iff (s : String) (r : Except PolicyError AlgorithmPolicy) :
    parse s = r ↔ Means s r := by
  refine ⟨?_, parse_of_means⟩
  rintro rfl
  obtain ⟨r, means⟩ := exists_means s
  rwa [parse_of_means means]

/-- A name is not the word for any algorithm, nor can it be split or trimmed. -/
theorem name_plain (a : Algorithm) :
    (∀ c ∈ a.name.toList, Text.isBlank c = false ∧ c ≠ ',') ∧ 4 ≤ a.name.toList.length := by
  have plain : a.name.toList.all (fun c => !Text.isBlank c && c ≠ ',') = true := by
    cases a <;> rfl
  have long : 4 ≤ a.name.toList.length := by
    cases a <;> decide
  exact ⟨fun c member => by simpa using List.all_eq_true.mp plain c member, long⟩

theorem toList_text_pinned (allowed : List Algorithm) :
    (pinned allowed).text.toList = [','].intercalate (allowed.map fun a => a.name.toList) := by
  rw [text, String.toList_intercalate, List.map_map]
  rfl

/-- The text of a list of algorithms lists their names. -/
theorem lists_text {allowed : List Algorithm} (some : allowed ≠ []) :
    Lists (pinned allowed).text (allowed.map Algorithm.name) := by
  refine ⟨allowed.map fun a => a.name.toList, ?_, ?_, toList_text_pinned allowed, ?_⟩
  · simpa using some
  · intro piece member comma
    obtain ⟨a, -, rfl⟩ := List.mem_map.mp member
    exact ((name_plain a).1 _ comma).2 rfl
  · have trimmed : (allowed.map fun a => a.name.toList).map Text.trim =
        allowed.map fun a => a.name.toList := by
      rw [List.map_map]
      exact List.map_congr_left fun a _ =>
        Text.trim_eq_self fun c member => ((name_plain a).1 c member).1
    have kept : ∀ piece ∈ allowed.map fun a => a.name.toList, decide (piece ≠ []) = true := by
      intro piece member
      obtain ⟨a, -, rfl⟩ := List.mem_map.mp member
      have long : 0 < a.name.toList.length := Nat.lt_of_lt_of_le (by decide) (name_plain a).2
      exact decide_eq_true (List.length_pos_iff.mp long)
    rw [trimmed, List.filter_eq_self.mpr kept, List.map_map]
    exact List.map_congr_left fun a _ => String.ofList_toList.symm

theorem not_saysAny_text {allowed : List Algorithm} (some : allowed ≠ []) :
    ¬ SaysAny (pinned allowed).text := by
  obtain ⟨first, rest, rfl⟩ := List.exists_cons_of_ne_nil some
  have solid : ∀ c ∈ (pinned (first :: rest)).text.toList, Text.isBlank c = false := by
    intro c member
    rw [toList_text_pinned] at member
    rcases Text.mem_of_mem_intercalate member with rfl | ⟨piece, among, member⟩
    · rfl
    · obtain ⟨a, -, rfl⟩ := List.mem_map.mp among
      exact ((name_plain a).1 c member).1
  intro isAny
  rw [SaysAny, Text.trim_eq_self solid, toList_text_pinned] at isAny
  -- The first name alone is longer than the word.
  have whole := Text.length_le_length_intercalate ',' first.name.toList
    (rest.map fun a => a.name.toList)
  have word := congrArg List.length isAny
  have long := (name_plain first).2
  rw [List.length_map] at word
  exact absurd (Nat.le_trans long (Nat.le_trans whole (Nat.le_of_eq word))) (by decide)

/-- The text of a list of algorithms stands for these algorithms, each once. -/
theorem means_text {allowed : List Algorithm} (some : allowed ≠ []) :
    Means (pinned allowed).text (.ok (.pinned allowed.eraseDups)) :=
  .pinned (not_saysAny_text some) (lists_text some) some

theorem means_text_any : Means any.text (.ok .any) :=
  .any rfl

theorem eraseDups_eraseDups (l : List Algorithm) : l.eraseDups.eraseDups = l.eraseDups := by
  match l with
  | [] => rfl
  | a :: rest =>
    have others : ∀ b ∈ (rest.filter fun b => !b == a).eraseDups, (!b == a) = true :=
      fun b member => (List.mem_filter.mp (List.mem_eraseDups.mp member)).2
    rw [List.eraseDups_cons, List.eraseDups_cons, List.filter_eq_self.mpr others,
      eraseDups_eraseDups]
termination_by l.length
decreasing_by exact Nat.lt_succ_of_le (List.length_filter_le _ _)

theorem permits_eraseDups (allowed : List Algorithm) (a : Algorithm) :
    (pinned allowed.eraseDups).permits a = (pinned allowed).permits a := by
  rw [permits, permits, Bool.eq_iff_iff, List.contains_iff_mem, List.contains_iff_mem,
    List.mem_eraseDups]

/-- What a text is read as is read back from its own text, and permits nothing but what the text
says. -/
theorem Means.reread {s : String} {p : AlgorithmPolicy} (means : Means s (.ok p)) :
    p ≠ .pinned [] ∧ Means p.text (.ok p) ∧
      ∀ a, p.permits a = true → SaysAny s ∨ ∃ names, Lists s names ∧ a.name ∈ names := by
  generalize read : Except.ok p = r at means
  cases means with
  | any isAny =>
    obtain rfl := Except.ok.inj read
    exact ⟨nofun, means_text_any, fun _ _ => .inl isAny⟩
  | @pinned other algorithms lists some =>
    obtain rfl := Except.ok.inj read
    have more : algorithms.eraseDups ≠ [] := by
      obtain ⟨first, rest, rfl⟩ := List.exists_cons_of_ne_nil some
      rw [List.eraseDups_cons]
      exact nofun
    refine ⟨fun same => more (AlgorithmPolicy.pinned.inj same), ?_, fun a permitted => ?_⟩
    · have again := means_text more
      rwa [eraseDups_eraseDups] at again
    · rw [permits_eraseDups, permits, List.contains_iff_mem] at permitted
      exact .inr ⟨_, lists, List.mem_map_of_mem permitted⟩
  | unknown | empty => cases read

/-- The texts and the values of policies agree. A text is read as what it stands for, which is never
a list of no algorithms nor permits an algorithm that the text does not name, and which is read back
from its own text. Every policy but the empty list is read from its text as one that permits the
same algorithms. A text that stands for nothing fails with the first unknown name, or because it
names nothing. -/
theorem policy_texts_and_values_agree :
    (∀ s r, parse s = r ↔ Means s r) ∧
    (∀ (s : String) (p : AlgorithmPolicy), parse s = .ok p →
      p ≠ .pinned [] ∧ parse p.text = .ok p ∧
      ∀ a, p.permits a = true → SaysAny s ∨ ∃ names, Lists s names ∧ a.name ∈ names) ∧
    (∀ p : AlgorithmPolicy, p ≠ .pinned [] →
      ∃ q, parse p.text = .ok q ∧ ∀ a, q.permits a = p.permits a) ∧
    (∀ name, (PolicyError.unknown name).failure =
      .config ("unknown signature algorithm: " ++ name)) ∧
    PolicyError.empty.failure = .config "algorithm allow-list is empty" := by
  refine ⟨parse_eq_iff, ?_, ?_, fun _ => rfl, rfl⟩
  · intro s p read
    obtain ⟨some, again, named⟩ := ((parse_eq_iff s _).mp read).reread
    exact ⟨some, parse_of_means again, named⟩
  · rintro (_ | allowed) some
    · exact ⟨.any, parse_of_means means_text_any, fun _ => rfl⟩
    · have more : allowed ≠ [] := fun empty => some (congrArg pinned empty)
      exact ⟨_, parse_of_means (means_text more), permits_eraseDups allowed⟩

end AlgorithmPolicy

end FederationTrust
