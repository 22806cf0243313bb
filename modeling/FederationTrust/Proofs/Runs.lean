import FederationTrust.Machine
import FederationTrust.Proofs.FileSystem.Change

/-!
# Runs of jobs

What a run asks for, in order and with the machine as it was at each call, is kept as a list
of calls. No call changes the clock, the process identifier, the network or what goes wrong,
and a job that only looks leaves the files as they are. A run is made of steps, one for each call.
-/

namespace FederationTrust

namespace Machine

/-- Two machines that agree in everything that no call changes. -/
structure SameSetting (w u : Machine) : Prop where
  clock : u.clock = w.clock
  processId : u.processId = w.processId
  clients : u.clients = w.clients
  network : u.network = w.network
  faults : u.faults = w.faults

variable {w u v : Machine}

theorem SameSetting.refl (w : Machine) : SameSetting w w :=
  ⟨rfl, rfl, rfl, rfl, rfl⟩

theorem SameSetting.trans (first : SameSetting w u) (second : SameSetting u v) :
    SameSetting w v :=
  ⟨second.clock.trans first.clock, second.processId.trans first.processId,
    second.clients.trans first.clients, second.network.trans first.network,
    second.faults.trans first.faults⟩

theorem afterCall_sameSetting (w : Machine) (files : FileSystem) :
    SameSetting w (w.afterCall files) :=
  ⟨rfl, rfl, rfl, rfl, rfl⟩

/-- A call that looks at the files finds something, or is refused with a reason. -/
theorem look_cases {α : Type} (w : Machine) (found : Option α) :
    (∃ a, found = some a ∧ w.look found = (.ok a, w.afterCall w.files)) ∨
      ∃ reason, w.look found = (.error reason, w.afterCall w.files) := by
  unfold look
  cases found with
  | none => cases w.nextFault <;> exact Or.inr ⟨_, rfl⟩
  | some a =>
    cases w.nextFault with
    | refused => exact Or.inr ⟨_, rfl⟩
    | none => exact Or.inl ⟨a, rfl, rfl⟩
    | short octets => exact Or.inl ⟨a, rfl, rfl⟩

/-- A call that changes the files does so as a whole, or is refused with a reason. -/
theorem change_cases (w : Machine) (files : Option FileSystem) :
    (∃ after, files = some after ∧ w.change files = (.ok (), w.afterCall after)) ∨
      ∃ reason, w.change files = (.error reason, w.afterCall w.files) := by
  unfold change
  cases files with
  | none => cases w.nextFault <;> exact Or.inr ⟨_, rfl⟩
  | some after =>
    cases w.nextFault with
    | refused => exact Or.inr ⟨_, rfl⟩
    | none => exact Or.inl ⟨after, rfl, rfl⟩
    | short octets => exact Or.inl ⟨after, rfl, rfl⟩

/-- A write may also stop after some of its octets. -/
theorem appendTo_cases (w : Machine) (path : Path) (content : Bytes) :
    (∃ after, w.files.append? path content w.clock = some after ∧
        w.appendTo path content = (.ok (), w.afterCall after)) ∨
      (∃ reason, w.appendTo path content = (.error reason, w.afterCall w.files)) ∨
      ∃ reason octets, w.appendTo path content =
        (.error reason,
          w.afterCall ((w.files.append? path (content.take octets) w.clock).getD w.files)) := by
  rw [appendTo]
  cases w.nextFault with
  | short octets => exact Or.inr (Or.inr ⟨_, octets, rfl⟩)
  | none | refused =>
    rcases w.change_cases (w.files.append? path content w.clock) with done | stopped
    · exact Or.inl done
    · exact Or.inr (Or.inl stopped)

theorem look_snd {α : Type} (w : Machine) (found : Option α) :
    (w.look found).2 = w.afterCall w.files := by
  rcases w.look_cases found with ⟨a, -, eq⟩ | ⟨reason, eq⟩ <;> rw [eq]

theorem change_sameSetting (w : Machine) (files : Option FileSystem) :
    SameSetting w (w.change files).2 := by
  rcases w.change_cases files with ⟨after, -, eq⟩ | ⟨reason, eq⟩ <;> rw [eq] <;>
    exact w.afterCall_sameSetting _

theorem appendTo_sameSetting (w : Machine) (path : Path) (content : Bytes) :
    SameSetting w (w.appendTo path content).2 := by
  rcases w.appendTo_cases path content with ⟨_, -, eq⟩ | ⟨_, eq⟩ | ⟨_, _, eq⟩ <;> rw [eq] <;>
    exact w.afterCall_sameSetting _

theorem answer_sameFile (w : Machine) (a b : Path) :
    (w.answer (.sameFile a b)).2 = w.afterCall w.files := by
  simp only [answer]
  rcases w.look_cases (some (w.files.sameFile a b)) with ⟨_, -, eq⟩ | ⟨_, eq⟩ <;> rw [eq]

/-- Two paths are told to be one file only if they are. -/
theorem sameFile_of_answer {a b : Path} (h : (w.answer (.sameFile a b)).1 = true) :
    w.files.sameFile a b = true := by
  simp only [answer] at h
  rcases w.look_cases (some (w.files.sameFile a b)) with ⟨same, found, eq⟩ | ⟨_, eq⟩
  · rw [eq] at h
    rw [Option.some.inj found]
    exact h
  · rw [eq] at h
    cases h

/-- No call changes the setting. -/
theorem answer_sameSetting (w : Machine) (c : SystemCall) : SameSetting w (w.answer c).2 := by
  cases c with
  | read path | modified path =>
    show SameSetting w (w.look _).2
    rw [look_snd]
    exact w.afterCall_sameSetting _
  | sameFile a b =>
    rw [answer_sameFile]
    exact w.afterCall_sameSetting _
  | truncate path => exact w.change_sameSetting _
  | append path content => exact w.appendTo_sameSetting path content
  | rename source target => exact w.change_sameSetting _
  | log line =>
    simp only [answer]
    split <;> exact ⟨rfl, rfl, rfl, rfl, rfl⟩
  | print text =>
    simp only [answer]
    split <;> exact ⟨rfl, rfl, rfl, rfl, rfl⟩
  | remove | now | processId | makeClient | download | showOnly | complain =>
    exact ⟨rfl, rfl, rfl, rfl, rfl⟩

end Machine

def SystemCall.changesFiles : SystemCall → Bool
  | .truncate _ | .append _ _ | .rename _ _ | .remove _ => true
  | _ => false

theorem Machine.answer_files (w : Machine) {c : SystemCall} (h : c.changesFiles = false) :
    (w.answer c).2.files = w.files := by
  cases c with
  | read path | modified path =>
    show (w.look _).2.files = w.files
    rw [look_snd]
    rfl
  | sameFile a b =>
    rw [answer_sameFile]
    rfl
  | log line =>
    simp only [answer]
    split <;> rfl
  | print text =>
    simp only [answer]
    split <;> rfl
  | now | processId | makeClient | download | showOnly | complain => rfl
  | truncate | append | rename | remove => cases h

/-- No call makes a link. -/
theorem Machine.answer_linkFree (w : Machine) (c : SystemCall) (h : w.files.LinkFree) :
    (w.answer c).2.files.LinkFree := by
  cases c with
  | truncate path =>
    simp only [answer]
    rcases w.change_cases (w.files.truncate? path w.clock) with ⟨after, done, eq⟩ | ⟨_, eq⟩
    · rw [eq]
      exact h.truncate done
    · rw [eq]
      exact h
  | append path content =>
    simp only [answer]
    rcases w.appendTo_cases path content with ⟨after, done, eq⟩ | ⟨_, eq⟩ | ⟨_, octets, eq⟩
    · rw [eq]
      exact h.append done
    · rw [eq]
      exact h
    · rw [eq]
      cases part : w.files.append? path (content.take octets) w.clock with
      | none => exact h
      | some after => exact h.append part
  | rename source target =>
    simp only [answer]
    rcases w.change_cases (w.files.rename? source target) with ⟨after, done, eq⟩ | ⟨_, eq⟩
    · rw [eq]
      exact h.rename done
    · rw [eq]
      exact h
  | remove path => exact h.afterRemoval path
  | _ =>
    rw [w.answer_files rfl]
    exact h

namespace Job

variable {α β : Type} {job : Job α} {next : α → Job β} {w : Machine}

/-- What a run asks for, and the machine that it asks. -/
def calls : Job α → Machine → List (SystemCall × Machine)
  | .done _, _ => []
  | .call c next, w => (c, w) :: (next (w.answer c).1).calls (w.answer c).2

/-- A run of one job after another asks for what the one asks for, then the other. -/
theorem calls_bind (job : Job α) (next : α → Job β) (w : Machine) :
    (job >>= next).calls w = job.calls w ++ (next (job.run w).1).calls (job.run w).2 := by
  induction job generalizing w with
  | done a => rfl
  | call c rest ih => exact congrArg ((c, w) :: ·) (ih (w.answer c).1 (w.answer c).2)

/-- What every call keeps holds after a run, and whenever the run asks for something. -/
theorem run_keeps {P : Machine → Prop} (step : ∀ w c, P w → P (w.answer c).2) (job : Job α)
    (start : P w) : P (job.run w).2 ∧ ∀ call ∈ job.calls w, P call.2 := by
  induction job generalizing w with
  | done a => exact ⟨start, nofun⟩
  | call c next ih =>
    obtain ⟨after, meanwhile⟩ := ih (w.answer c).1 (step w c start)
    refine ⟨after, fun call asked => ?_⟩
    rcases List.mem_cons.mp asked with rfl | later
    · exact start
    · exact meanwhile call later

/-- No run changes the setting. -/
theorem run_sameSetting (job : Job α) (w : Machine) : w.SameSetting (job.run w).2 := by
  have step (u : Machine) (c : SystemCall) (same : w.SameSetting u) :
      w.SameSetting (u.answer c).2 := same.trans (u.answer_sameSetting c)
  exact (run_keeps step job (.refl w)).1

/-- A job that asks for no change of the files, whatever it is answered. -/
inductive Looks {α : Type} : Job α → Prop where
  | done (a : α) : Looks (.done a)
  | call {c : SystemCall} {next : c.Answer → Job α} (only : c.changesFiles = false)
      (rest : ∀ answer, Looks (next answer)) : Looks (.call c next)

theorem Looks.pure (a : α) : Looks (pure a : Job α) := .done a

theorem Looks.ask {c : SystemCall} (only : c.changesFiles = false) : Looks (Job.ask c) :=
  .call only .done

theorem Looks.log (level : LogLevel) (source message : String) :
    Looks (Job.log level source message) := .ask rfl

theorem Looks.bind (first : job.Looks) (rest : ∀ a, (next a).Looks) : (job >>= next).Looks := by
  induction first with
  | done a => exact rest a
  | call only _ ih => exact .call only ih

/-- A run that only looks leaves the files. -/
theorem Looks.run_files (h : job.Looks) (w : Machine) : (job.run w).2.files = w.files := by
  induction h generalizing w with
  | done a => rfl
  | call only _ ih => exact (ih _ _).trans (w.answer_files only)

/-- What is left of a job after its next call. -/
def step : Job α → Machine → Job α × Machine
  | .done a, w => (.done a, w)
  | .call c next, w => (next (w.answer c).1, (w.answer c).2)

def result? : Job α → Option α
  | .done a => some a
  | .call _ _ => none

/-- A run is made of steps. -/
theorem run_step (job : Job α) (w : Machine) :
    (job.step w).1.run (job.step w).2 = job.run w := by
  cases job <;> rfl

theorem step_ask_bind (c : SystemCall) (next : c.Answer → Job α) (w : Machine) :
    (ask c >>= next).step w = (next (w.answer c).1, (w.answer c).2) := rfl

/-- A job that returns after so many calls at the latest. -/
inductive Within {α : Type} : Nat → Job α → Prop where
  | done (n : Nat) (a : α) : Within n (.done a)
  | call {n : Nat} {c : SystemCall} {next : c.Answer → Job α}
      (rest : ∀ answer, Within n (next answer)) : Within (n + 1) (.call c next)

theorem Within.mono {n m : Nat} (h : job.Within n) (more : n ≤ m) : job.Within m := by
  induction h generalizing m with
  | done n a => exact .done m a
  | call rest ih =>
    cases m with
    | zero => exact absurd more (Nat.not_succ_le_zero _)
    | succ m => exact .call fun answer => ih answer (Nat.le_of_succ_le_succ more)

theorem Within.step {n : Nat} (h : job.Within (n + 1)) (w : Machine) :
    (job.step w).1.Within n := by
  cases h with
  | done _ a => exact .done n a
  | call rest => exact rest _

theorem Within.returned (h : job.Within 0) : job.result?.isSome = true := by
  cases h
  rfl

end Job

end FederationTrust
