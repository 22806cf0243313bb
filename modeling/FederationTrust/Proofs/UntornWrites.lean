import FederationTrust.Proofs.WriterStages

/-!
# Writers that do not tear

Any number of processes replace one file at the same time. Their calls come in any order, each may
go wrong, and a process that stops between two calls is one that makes no more of them. Whatever
they do, the path holds what it held at first until one of them makes its move, and from then on
all that the last one to do so has written. A process that returns leaves no temporary sibling.

A link could lead a process away from its temporary sibling, or the way to the path through the
link that is replaced. What the path leads to at first must not be a temporary sibling itself.
-/

namespace FederationTrust

open FileSystem Replacement

namespace FileSystem

variable {fs : FileSystem} {place : Place}

def leadsTo? (fs : FileSystem) (p : Path) : Option Node :=
  (fs.place? p).bind fs.node?

/-- A path leads to the file at its entry. -/
theorem leadsTo?_eq_file {p : Path} {content : Bytes} {modified : Instant}
    (named : fs.entry? p = some place) (inside : fs.node? place = some (.file content modified)) :
    fs.leadsTo? p = some (.file content modified) := by
  have free : fs.passage? place = none :=
    passage?_eq_none_iff.mpr (Or.inr ⟨content, modified, inside⟩)
  rw [leadsTo?, place?_of_entry? named free]
  exact inside

end FileSystem

section Ways

variable {path : Path} {processId other : Nat} {content : Bytes} {initial fs after : FileSystem}
variable {moved : Bool}

/-- Paths lead where they led at first, but what stood at the entry of the path may have given
way. -/
inductive WaysSince (path : Path) (initial fs : FileSystem) : Prop where
  | same (ways : SameWays initial fs)
  | gave {entry : Place} (named : initial.entry? path = some entry)
    (vacant : initial.passage? entry ≠ some .directory) (ways : GivesWay initial fs entry)

namespace WaysSince

theorem entry?_path (h : WaysSince path initial fs) (clear : initial.ClearWays [path]) :
    fs.entry? path = initial.entry? path := by
  cases h with
  | same ways => exact (entry?_congr ways path).symm
  | @gave entry named vacant ways =>
    have cut := (clear path List.mem_cons_self).trans named
    have among : entry ∈ [path].filterMap initial.entry? :=
      List.mem_filterMap.mpr ⟨path, List.mem_cons_self, named⟩
    have less := (cutLinks_seesLess initial _).of_givesWay ways (passage?_cutLinks among vacant)
    rw [named]
    exact less.entry? cut

theorem entry?_temporarySibling (h : WaysSince path initial fs) (clear : initial.ClearWays [path])
    (processId : Nat) :
    fs.entry? (path.temporarySibling processId) =
      initial.entry? (path.temporarySibling processId) := by
  have same := h.entry?_path clear
  cases h with
  | same ways => exact (entry?_congr ways _).symm
  | @gave entry named vacant ways =>
    have still := same.trans named
    apply Option.ext
    intro other
    exact ⟨entry?_of_givesWay ways, Path.temporarySibling_entry_kept named still⟩

theorem noLinkAt {p : Path} (h : WaysSince path initial fs) (noLink : initial.NoLinkAt p) :
    fs.NoLinkAt p := by
  cases h with
  | same ways =>
    intro entry named target seen
    rw [← ways.passage] at seen
    exact noLink entry ((entry?_congr ways p).trans named) target seen
  | gave named vacant ways => exact noLink.of_givesWay ways

/-- A directory that stands at a temporary sibling stood there at first. -/
theorem stands?_directory (h : WaysSince path initial fs) (clear : initial.ClearWays [path])
    (stands : fs.stands? (path.temporarySibling processId) = some .directory) :
    initial.stands? (path.temporarySibling processId) = some .directory := by
  obtain ⟨place, named, inside⟩ := stands?_eq_some_iff.mp stands
  rw [h.entry?_temporarySibling clear] at named
  have seen : fs.passage? place = some .directory :=
    (passage?_eq_some_iff .directory (by simp)).mpr inside
  rw [stands?_eq_node? named, ← passage?_eq_some_iff .directory (by simp)]
  cases h with
  | same ways => exact (ways.passage place).trans seen
  | gave entry vacant ways => exact (ways.others place (ways.ne_of_seen seen)).symm.trans seen

/-- A call of a writer keeps the ways. -/
theorem step (h : WaysSince path initial fs) (clear : initial.ClearWays [path])
    (touched : Touched path (path.temporarySibling processId) content fs moved after) :
    WaysSince path initial after := by
  have same := h.entry?_path clear
  cases touched with
  | kept => exact h
  | sibling sibling ways others =>
    cases h with
    | same before => exact .same (before.trans ways)
    | gave named vacant before => exact .gave named vacant (before.then_sameWays ways)
  | @moved place entry _ modified sibling named vacant ways =>
    rw [same] at named
    cases h with
    | same before =>
      rw [← before.passage] at vacant
      exact .gave named vacant (before.then_givesWay ways)
    | @gave entry' named' vacant' before =>
      obtain rfl := Option.some.inj (named.symm.trans named')
      exact .gave named vacant' (before.then_givesWay ways)

end WaysSince

end Ways

/-- A process that replaces the file: its identifier, and the pieces in which it writes. -/
structure Writer where
  processId : Nat
  pieces : List Bytes
  deriving DecidableEq, Repr

def Writer.content (w : Writer) : Bytes :=
  w.pieces.flatten

variable {ι : Type}

/-- The files, what is left of each replacement, and who has made its move, in this order. -/
structure Scene (ι : Type) where
  files : FileSystem
  jobs : ι → Job (Except Failure Unit)
  moved : List ι

namespace Scene

def start (path : Path) (writers : ι → Writer) (files : FileSystem) : Scene ι where
  files := files
  jobs := fun i => writer path (writers i).pieces
  moved := []

/-- The machine as one process finds it: anything but the files may be different each time. -/
def machine (s : Scene ι) (writers : ι → Writer) (i : ι) (w : Machine) : Machine :=
  { w with files := s.files, processId := (writers i).processId }

def step [DecidableEq ι] (writers : ι → Writer) (s : Scene ι) (turn : ι × Machine) : Scene ι :=
  let w := s.machine writers turn.1 turn.2
  let job := s.jobs turn.1
  { files := (job.step w).2.files
    jobs := fun j => if j = turn.1 then (job.step w).1 else s.jobs j
    moved := if job.renamesNext w then s.moved ++ [turn.1] else s.moved }

def after [DecidableEq ι] (writers : ι → Writer) (s : Scene ι) (schedule : List (ι × Machine)) :
    Scene ι :=
  schedule.foldl (step writers) s

end Scene

/-- No link leads a writer astray, and the path does not lead to a temporary sibling. -/
structure Sheltered (path : Path) (writers : ι → Writer) (files : FileSystem) : Prop where
  way : files.ClearWays [path]
  siblings : ∀ i, files.NoLinkAt (path.temporarySibling (writers i).processId)
  apart : ∀ i entry, files.entry? (path.temporarySibling (writers i).processId) = some entry →
    files.place? path ≠ some entry

section Sound

variable [DecidableEq ι] {path : Path} {writers : ι → Writer} {initial : FileSystem} {s : Scene ι}
variable {i : ι}

structure Sound (path : Path) (writers : ι → Writer) (initial : FileSystem) (s : Scene ι) :
    Prop where
  ways : WaysSince path initial s.files
  stage : ∀ i, Stage path (writers i).processId (writers i).pieces s.files (decide (i ∈ s.moved))
    (s.jobs i)
  original : s.moved = [] → SameWays initial s.files ∧
    ∀ entry, initial.entry? path = some entry → s.files.node? entry = initial.node? entry
  replaced : ∀ i, s.moved.getLast? = some i → ∃ entry modified,
    initial.entry? path = some entry ∧
      s.files.node? entry = some (.file (writers i).content modified)
  others : ∀ place, initial.entry? path ≠ some place →
    (∀ i, initial.entry? (path.temporarySibling (writers i).processId) ≠ some place) →
    s.files.node? place = initial.node? place

theorem sound_start (path : Path) (writers : ι → Writer) (initial : FileSystem) :
    Sound path writers initial (Scene.start path writers initial) where
  ways := .same ⟨rfl, fun _ => rfl⟩
  stage := fun _ => .begins
  original := fun _ => ⟨⟨rfl, fun _ => rfl⟩, fun _ _ => rfl⟩
  replaced := nofun
  others := fun _ _ _ => rfl

/-- A call of one writer leaves what stands at the temporary sibling of another one. -/
theorem stands?_of_touched {moved : Bool} {a b : Nat} {content : Bytes} {fs after : FileSystem}
    (touched : Touched path (path.temporarySibling a) content fs moved after) (apart : b ≠ a)
    (same : after.entry? (path.temporarySibling b) = fs.entry? (path.temporarySibling b)) :
    after.stands? (path.temporarySibling b) = fs.stands? (path.temporarySibling b) := by
  cases named : fs.entry? (path.temporarySibling b) with
  | none =>
    rw [stands?, stands?, same, named]
    rfl
  | some other =>
    rw [stands?_eq_node? (same.trans named), stands?_eq_node? named]
    cases touched with
    | kept => rfl
    | sibling sibling ways others =>
      exact others other (Path.temporarySibling_entry_ne apart named sibling)
    | moved sibling entry vacant ways inside others =>
      exact others other (Path.temporarySibling_entry_ne apart named sibling)
        (Path.temporarySibling_entry_ne_entry named entry)

theorem decide_mem_moved (turn j : ι) (moved : List ι) (moves : Bool) :
    decide (j ∈ if moves then moved ++ [turn] else moved) =
      (decide (j ∈ moved) || (decide (j = turn) && moves)) := by
  cases moves <;> simp

/-- What one call of one writer touches keeps all that. -/
theorem Sound.of_touched (h : Sound path writers initial s)
    (shelter : Sheltered path writers initial)
    (distinct : Function.Injective fun i => (writers i).processId) {moves : Bool}
    {after : FileSystem} {job : Job (Except Failure Unit)}
    (touched : Touched path (path.temporarySibling (writers i).processId) (writers i).content
      s.files moves after)
    (stage : Stage path (writers i).processId (writers i).pieces after
      (decide (i ∈ s.moved) || moves) job) :
    Sound path writers initial
      { files := after
        jobs := fun j => if j = i then job else s.jobs j
        moved := if moves then s.moved ++ [i] else s.moved } := by
  have ways := h.ways.step shelter.way touched
  have path? := h.ways.entry?_path shelter.way
  have sibling? := h.ways.entry?_temporarySibling shelter.way
  refine ⟨ways, fun j => ?_, fun none => ?_, fun j last => ?_, fun place away apart => ?_⟩
  · dsimp only
    rw [decide_mem_moved]
    by_cases same : j = i
    · subst same
      rw [if_pos rfl, decide_eq_true rfl, Bool.true_and]
      exact stage
    · rw [if_neg same, decide_eq_false same, Bool.false_and, Bool.or_false]
      have others : (writers j).processId ≠ (writers i).processId := fun eq => same (distinct eq)
      have still := (ways.entry?_temporarySibling shelter.way (writers j).processId).trans
        (sibling? (writers j).processId).symm
      exact (h.stage j).congr (stands?_of_touched touched others still)
  · cases touched with
    | kept => exact h.original none
    | sibling sibling same others =>
      obtain ⟨before, held⟩ := h.original none
      refine ⟨before.trans same, fun entry named => ?_⟩
      rw [others entry, held entry named]
      exact (Path.temporarySibling_entry_ne_entry sibling (path?.trans named)).symm
    | moved => simp at none
  · cases touched with
    | kept => exact h.replaced j last
    | sibling sibling same others =>
      obtain ⟨entry, modified, named, inside⟩ := h.replaced j last
      refine ⟨entry, modified, named, ?_⟩
      rw [others entry, inside]
      exact (Path.temporarySibling_entry_ne_entry sibling (path?.trans named)).symm
    | moved sibling named vacant same inside others =>
      rw [if_pos rfl, List.getLast?_concat] at last
      obtain rfl := Option.some.inj last
      exact ⟨_, _, path?.symm.trans named, inside⟩
  · have before := h.others place away apart
    cases touched with
    | kept => exact before
    | sibling sibling same others =>
      rw [others place, before]
      rintro rfl
      exact apart i ((sibling? _).symm.trans sibling)
    | moved sibling named vacant same inside others =>
      rw [others place, before]
      · rintro rfl
        exact apart i ((sibling? _).symm.trans sibling)
      · rintro rfl
        exact away (path?.symm.trans named)

/-- One call of one writer keeps all that. -/
theorem Sound.step (h : Sound path writers initial s) (shelter : Sheltered path writers initial)
    (distinct : Function.Injective fun i => (writers i).processId) (turn : ι × Machine) :
    Sound path writers initial (s.step writers turn) := by
  obtain ⟨i, w⟩ := turn
  have noLink := h.ways.noLinkAt (shelter.siblings i)
  have ⟨touched, stage⟩ : Advances path (writers i).processId (writers i).pieces
      (s.machine writers i w) (decide (i ∈ s.moved)) (s.jobs i) :=
    (h.stage i).advances rfl noLink
  exact h.of_touched shelter distinct touched stage

/-- Any calls in any order keep all that. -/
theorem sound_after (shelter : Sheltered path writers initial)
    (distinct : Function.Injective fun i => (writers i).processId)
    (schedule : List (ι × Machine)) (h : Sound path writers initial s) :
    Sound path writers initial (s.after writers schedule) := by
  induction schedule generalizing s with
  | nil => exact h
  | cons turn rest ih => exact ih (h.step shelter distinct turn)

end Sound

/-- Whatever the others do, a process that was given its turn four times more often than it has
pieces has returned. -/
theorem returned_after_turns [DecidableEq ι] {n : Nat} {i : ι} (writers : ι → Writer) {s : Scene ι}
    (schedule : List (ι × Machine)) (left : (s.jobs i).Within n)
    (turns : n ≤ schedule.countP (·.1 = i)) :
    ((s.after writers schedule).jobs i).result?.isSome = true := by
  induction schedule generalizing n s with
  | nil =>
    obtain rfl : n = 0 := Nat.le_zero.mp turns
    exact left.returned
  | cons turn rest ih =>
    rw [List.countP_cons] at turns
    by_cases own : turn.1 = i
    · rw [if_pos (decide_eq_true own)] at turns
      refine @ih (n - 1) (s.step writers turn) ?_ (by omega)
      have next : (s.step writers turn).jobs i =
          ((s.jobs i).step (s.machine writers i turn.2)).1 := by
        subst own
        exact if_pos rfl
      rw [next]
      exact (left.mono (by omega)).step _
    · rw [if_neg (by simpa using own)] at turns
      refine @ih n (s.step writers turn) ?_ turns
      have other : (s.step writers turn).jobs i = s.jobs i := if_neg (Ne.symm own)
      rw [other]
      exact left

/-- What the path, the temporary siblings and all other places hold at a moment. -/
structure Untorn [DecidableEq ι] (path : Path) (writers : ι → Writer) (initial : FileSystem)
    (s : Scene ι) : Prop where
  original : s.moved = [] → s.files.leadsTo? path = initial.leadsTo? path ∧
    s.files.stands? path = initial.stands? path
  replaced : ∀ i, s.moved.getLast? = some i → ∃ modified,
    s.files.leadsTo? path = some (.file (writers i).content modified)
  returned : ∀ i result, (s.jobs i).result? = some result → (result = .ok () ↔ i ∈ s.moved) ∧
    ∀ node, s.files.stands? (path.temporarySibling (writers i).processId) = some node →
      node = .directory ∧
        initial.stands? (path.temporarySibling (writers i).processId) = some .directory
  others : ∀ place, initial.entry? path ≠ some place →
    (∀ i, initial.entry? (path.temporarySibling (writers i).processId) ≠ some place) →
    s.files.node? place = initial.node? place

/-- Before the first move all that the path leads to, and what stands there, is as it was. -/
theorem Sound.original_kept [DecidableEq ι] {path : Path} {writers : ι → Writer}
    {initial : FileSystem} {s : Scene ι} (h : Sound path writers initial s)
    (shelter : Sheltered path writers initial) (none : s.moved = []) :
    s.files.leadsTo? path = initial.leadsTo? path ∧
      s.files.stands? path = initial.stands? path := by
  obtain ⟨ways, held⟩ := h.original none
  constructor
  · rw [leadsTo?, leadsTo?, ← place?_congr ways path]
    cases found : initial.place? path with
    | none => rfl
    | some place =>
      rw [Option.bind_some, Option.bind_some]
      by_cases named : initial.entry? path = some place
      · exact held place named
      · exact h.others place named fun i sibling => shelter.apart i place sibling found
  · rw [stands?, stands?, ← entry?_congr ways path]
    cases named : initial.entry? path with
    | none => rfl
    | some entry => exact held entry named

/-- Writers do not tear. Whatever calls the processes make, in whatever order and whatever goes
wrong with them, the path leads to what it led to at first until one of them has made its move, and
from then on to the whole content of the last one that has. A process that has returned has left no
temporary sibling, and has told of success if and only if it made its move; and it returns when it
is given enough turns. -/
theorem writers_do_not_tear [DecidableEq ι] (path : Path) (writers : ι → Writer)
    (distinct : Function.Injective fun i => (writers i).processId) (initial : FileSystem)
    (shelter : Sheltered path writers initial) (schedule : List (ι × Machine)) :
    Untorn path writers initial ((Scene.start path writers initial).after writers schedule) ∧
      ∀ i, (writers i).pieces.length + 4 ≤ schedule.countP (·.1 = i) →
        (((Scene.start path writers initial).after writers schedule).jobs i).result?.isSome =
          true := by
  have sound := sound_after shelter distinct schedule (sound_start path writers initial)
  refine ⟨⟨fun none => ?_, fun i last => ?_, fun i result returned => ?_, sound.others⟩, ?_⟩
  · exact sound.original_kept shelter none
  · obtain ⟨entry, modified, named, inside⟩ := sound.replaced i last
    have still := (sound.ways.entry?_path shelter.way).trans named
    exact ⟨modified, leadsTo?_eq_file still inside⟩
  · obtain ⟨told, cleared⟩ := (sound.stage i).of_result? returned
    refine ⟨told.trans decide_eq_true_iff, fun node stands => ?_⟩
    obtain rfl := cleared node stands
    exact ⟨rfl, sound.ways.stands?_directory shelter.way stands⟩
  · intro i turns
    exact returned_after_turns writers schedule (writer_within path (writers i).pieces) turns

namespace Sample

def contested : FileSystem where
  nodes := [(["p"], .file [0x6F] ⟨1, 0⟩)]
  workingDirectory := []

/-- Two processes, of which the first writes in two pieces. -/
def rivals : Bool → Writer
  | false => ⟨1, [[0x61], [0x62]]⟩
  | true => ⟨2, [[0x63]]⟩

def turns : List (Bool × Machine) :=
  [false, true, false, true, false, true, false, true, false, true, false].map
    fun i => (i, Machine.quiet contested ⟨5, 0⟩ 0)

def contest : Scene Bool :=
  (Scene.start ⟨"p"⟩ rivals contested).after rivals turns

theorem contested_sheltered : Sheltered ⟨"p"⟩ rivals contested where
  way := by decide
  siblings := fun _ => (LinkFree.of_nodes (by decide)).noLinkAt _
  apart := by
    intro i entry sibling found
    have place : contested.place? ⟨"p"⟩ = some ["p"] := by decide
    obtain rfl := Option.some.inj (place.symm.trans found)
    revert sibling
    cases i <;> decide

theorem rivals_distinct : Function.Injective fun i => (rivals i).processId := by
  intro i j same
  cases i <;> cases j
  · rfl
  · exact absurd same (by decide)
  · exact absurd same (by decide)
  · rfl

end Sample

/-- The one that moved last has its content at the path, and no temporary sibling is left. -/
theorem last_of_two_writers_remains :
    (Function.Injective fun i => (Sample.rivals i).processId) ∧
      Sheltered ⟨"p"⟩ Sample.rivals Sample.contested ∧
      (∃ modified, Sample.contest.files.leadsTo? ⟨"p"⟩ = some (.file [0x61, 0x62] modified)) ∧
      ∀ i, Sample.contest.files.Cleared
        ((Path.mk "p").temporarySibling (Sample.rivals i).processId) := by
  obtain ⟨untorn, returns⟩ := writers_do_not_tear ⟨"p"⟩ Sample.rivals Sample.rivals_distinct
    Sample.contested Sample.contested_sheltered Sample.turns
  have last : Sample.contest.moved.getLast? = some false := by decide +kernel
  refine ⟨Sample.rivals_distinct, Sample.contested_sheltered, untorn.replaced false last, ?_⟩
  intro i node stands
  have enough : (Sample.rivals i).pieces.length + 4 ≤ Sample.turns.countP (·.1 = i) := by
    cases i <;> decide
  obtain ⟨result, returned⟩ := Option.isSome_iff_exists.mp (returns i enough)
  exact ((untorn.returned i result returned).2 node stands).1

namespace Sample

def crossing : FileSystem where
  nodes := [(["d"], .directory), (["x"], .link ⟨"d"⟩)]
  workingDirectory := []

/-- The scene after one process has replaced the link by way of which its path leads. -/
def crossed : Scene Unit :=
  (Scene.start ⟨"x/../x"⟩ (fun _ => ⟨1, [[0x61]]⟩) crossing).after (fun _ => ⟨1, [[0x61]]⟩)
    (List.replicate 5 ((), Machine.quiet crossing ⟨5, 0⟩ 0))

/-- A link at the temporary sibling that leads to the file itself. -/
def misled : FileSystem where
  nodes := [(["p"], .file [0x6F] ⟨1, 0⟩), (["p.1.tmp"], .link ⟨"p"⟩)]
  workingDirectory := []

end Sample

/-- A process can make its move and leave its path leading nowhere. -/
theorem path_through_replaced_link_lost :
    Sample.crossing.leadsTo? ⟨"x/../x"⟩ = some .directory ∧ Sample.crossed.moved = [()] ∧
      Sample.crossed.files.leadsTo? ⟨"x/../x"⟩ = none := by
  decide +kernel

-- With a link at its temporary sibling, a process shows a part of what it writes.
example : ((Scene.start ⟨"p"⟩ Sample.rivals Sample.misled).after Sample.rivals
    (List.replicate 3 (false, Machine.quiet Sample.misled ⟨5, 0⟩ 0))).files.leadsTo? ⟨"p"⟩ =
      some (.file [0x61] ⟨5, 0⟩) := by
  decide +kernel

end FederationTrust
