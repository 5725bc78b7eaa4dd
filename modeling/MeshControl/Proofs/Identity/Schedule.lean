import Mathlib.Data.List.Perm.Basic
import MeshControl.Identity.Search

/-!
# Schedules of a search

A schedule is a row of moves of the main loop and of its tasks, in any order in which they are
possible, each with the state in which it is made (`Run`).  What a single move does is said once, by
`Moved`, which has a constructor for each of the eleven kinds of moves (`moved_of_step?`); all laws
about schedules are proved by its cases.

* `generated`, `recorded`: the outcomes that the generator yields and those that are put down, in the
  order in which this happens.
* `Run.calls_add_left`: the calls of the generator and the attempts that are left add up to the
  attempts that there are.
* `Run.found?_eq`, `Run.failure?_eq`: the cells hold the first match and the first failure that were
  put down.
* `Run.perm_recorded`: what the generator yields is put down once, or still in the hands of a task.
-/

namespace MeshControl.Identity.Search

variable {workers : Workers} {start : String}

/-! ### Workers -/

/-- A search has as many workers as it is to have, and at least one. -/
theorem Workers.ofCount?_eq_some_iff {count : Nat} :
    Workers.ofCount? count = some workers ↔ workers.count = max 1 count := by
  obtain ⟨given, pos, le_limit⟩ := workers
  rw [ofCount?]
  split_ifs with h
  · rw [Option.some_inj, Workers.mk.injEq]
    exact eq_comm
  · refine ⟨nofun, fun heq => absurd ?_ h⟩
    rwa [← heq]

/-- There are such workers unless there are more than there can be permits. -/
theorem Workers.exists_count_eq_iff {count : Nat} :
    (∃ workers : Workers, workers.count = max 1 count) ↔ count ≤ permitLimit := by
  have hone : 1 ≤ permitLimit := by decide
  constructor
  · rintro ⟨workers, heq⟩
    exact Nat.le_trans (Nat.le_max_right 1 count) (heq ▸ workers.le_limit)
  · intro h
    exact ⟨⟨max 1 count, Nat.lt_of_lt_of_le Nat.one_pos (Nat.le_max_left 1 count),
      Nat.max_le.mpr ⟨hone, h⟩⟩, rfl⟩

theorem Workers.ofCount?_eq_none_iff {count : Nat} :
    Workers.ofCount? count = none ↔ permitLimit < count := by
  rw [← Nat.not_le, ← exists_count_eq_iff, Option.eq_none_iff_forall_ne_some, not_exists]
  exact forall_congr' fun _ => not_congr ofCount?_eq_some_iff

/-! ### Moves -/

/-- The identity in an outcome, if it has the prefix. -/
def match? (start : String) : Outcome → Option Identity
  | .ok identity => if identity.hasPrefix start then some identity else none
  | .error _ => none

/-- The cause of the failure that an outcome is. -/
def cause? : Outcome → Option String
  | .ok _ => none
  | .error cause => some cause

/-- Whether the generator has yet to answer a task. -/
def Task.isFresh : Task → Bool
  | .fresh => true
  | _ => false

/-- The outcome that a task has yet to put down. -/
def Task.held? : Task → Option Outcome
  | .holding outcome => some outcome
  | _ => none

/-- Whether a phase belongs to an attempt that has begun, so that one is left. -/
def Phase.isInAttempt : Phase → Bool
  | .before .failure | .acquiring | .after _ => true
  | .before .found | .draining | .over => false

/-- What each move leads to. -/
inductive Moved (workers : Workers) (start : String) (s : State) : Move → State → Prop
  | ended (cell : Cell) (phase : s.phase = .before cell) (cause : s.left = 0 ∨ s.isFilled cell) :
      Moved workers start s .advance { s with phase := .draining }
  | looked (phase : s.phase = .before .found) (left : 0 < s.left) (found : s.found? = none) :
      Moved workers start s .advance { s with phase := .before .failure }
  | passed (phase : s.phase = .before .failure) (left : 0 < s.left) (failure : s.failure? = none) :
      Moved workers start s .advance { s with phase := .acquiring }
  | acquired (phase : s.phase = .acquiring) (room : s.tasks.length < workers.count) :
      Moved workers start s .advance { s with phase := .after .found }
  | abandoned (cell : Cell) (phase : s.phase = .after cell) (filled : s.isFilled cell) :
      Moved workers start s .advance { s with phase := .draining }
  | lookedAgain (phase : s.phase = .after .found) (found : s.found? = none) :
      Moved workers start s .advance { s with phase := .after .failure }
  | spawned (phase : s.phase = .after .failure) (failure : s.failure? = none) :
      Moved workers start s .advance
        { s with left := s.left - 1, phase := .before .found, tasks := s.tasks ++ [.fresh] }
  | finished (phase : s.phase = .draining) (tasks : s.tasks = []) :
      Moved workers start s .advance { s with phase := .over }
  | answered (i : Nat) (outcome : Outcome) (task : s.tasks[i]? = some .fresh) :
      Moved workers start s (.generate i outcome)
        { s with tasks := s.tasks.set i (.holding outcome) }
  | noted (i : Nat) (outcome : Outcome) (task : s.tasks[i]? = some (.holding outcome)) :
      Moved workers start s (.record i)
        { s.note start outcome with tasks := s.tasks.set i .recorded }
  | released (i : Nat) (task : s.tasks[i]? = some .recorded) :
      Moved workers start s (.release i) { s with tasks := s.tasks.eraseIdx i }

theorem moved_of_advance? {s s' : State} (h : s.advance? workers = some s') :
    Moved workers start s .advance s' := by
  unfold State.advance? at h
  split at h
  case h_1 cell phase =>
    split_ifs at h with hended hcell
    · obtain rfl := Option.some.inj h
      exact .ended cell phase (by simpa using hended)
    · obtain rfl := Option.some.inj h
      obtain ⟨left, found⟩ : s.left ≠ 0 ∧ s.found? = none := by
        simpa [hcell, State.isFilled] using hended
      exact .looked (hcell ▸ phase) (Nat.pos_of_ne_zero left) found
    · obtain rfl := Option.some.inj h
      cases cell with
      | found => exact absurd rfl hcell
      | failure =>
        obtain ⟨left, failure⟩ : s.left ≠ 0 ∧ s.failure? = none := by
          simpa [State.isFilled] using hended
        exact .passed phase (Nat.pos_of_ne_zero left) failure
  case h_2 phase =>
    split_ifs at h with room
    obtain rfl := Option.some.inj h
    exact .acquired phase room
  case h_3 cell phase =>
    split_ifs at h with filled hcell
    · obtain rfl := Option.some.inj h
      exact .abandoned cell phase filled
    · obtain rfl := Option.some.inj h
      exact .lookedAgain (hcell ▸ phase) (by simpa [hcell, State.isFilled] using filled)
    · obtain rfl := Option.some.inj h
      cases cell with
      | found => exact absurd rfl hcell
      | failure => exact .spawned phase (by simpa [State.isFilled] using filled)
  case h_4 phase =>
    split_ifs at h with tasks
    obtain rfl := Option.some.inj h
    exact .finished phase (List.isEmpty_iff.mp tasks)
  case h_5 => cases h

theorem moved_of_step? {s s' : State} {move : Move} (h : s.step? workers start move = some s') :
    Moved workers start s move s' := by
  cases move with
  | advance => exact moved_of_advance? h
  | generate i outcome =>
    simp only [State.step?] at h
    split at h
    · obtain rfl := Option.some.inj h
      exact .answered i outcome ‹_›
    · cases h
  | record i =>
    simp only [State.step?] at h
    split at h
    · obtain rfl := Option.some.inj h
      exact .noted i _ ‹_›
    · cases h
  | release i =>
    simp only [State.step?] at h
    split at h
    · obtain rfl := Option.some.inj h
      exact .released i ‹_›
    · cases h

/-! ### What is put down -/

namespace State

variable (start : String) (s : State) (outcome : Outcome)

@[simp]
theorem left_note : (s.note start outcome).left = s.left := by
  unfold note; split
  · rfl
  · split <;> rfl

@[simp]
theorem phase_note : (s.note start outcome).phase = s.phase := by
  unfold note; split
  · rfl
  · split <;> rfl

@[simp]
theorem tasks_note : (s.note start outcome).tasks = s.tasks := by
  unfold note; split
  · rfl
  · split <;> rfl

theorem found?_note : (s.note start outcome).found? = s.found?.or (match? start outcome) := by
  cases outcome with
  | error cause => simp [note, match?]
  | ok identity => by_cases h : identity.hasPrefix start <;> simp [note, match?, h]

theorem failure?_note : (s.note start outcome).failure? = s.failure?.or (cause? outcome) := by
  cases outcome with
  | error cause => rfl
  | ok identity => by_cases h : identity.hasPrefix start <;> simp [note, cause?, h]

end State

/-! ### Schedules -/

/-- A move with the state in which it is made. -/
structure Step where
  before : State
  move : Move

/-- The outcome that the generator yields in a step. -/
def Step.generated? (step : Step) : Option Outcome :=
  match step.move with
  | .generate _ outcome => some outcome
  | _ => none

/-- The outcome that is put down in a step. -/
def Step.recorded? (step : Step) : Option Outcome :=
  match step.move with
  | .record i => step.before.tasks[i]?.bind Task.held?
  | _ => none

/-- The outcomes that the generator yields, in this order. -/
def generated (steps : List Step) : List Outcome :=
  steps.filterMap Step.generated?

/-- The outcomes that are put down, in this order. -/
def recorded (steps : List Step) : List Outcome :=
  steps.filterMap Step.recorded?

/-- A schedule leads from a state to another one. -/
inductive Run (workers : Workers) (start : String) (s : State) : List Step → State → Prop
  | nil : Run workers start s [] s
  | snoc {steps : List Step} {mid s' : State} (run : Run workers start s steps mid) (move : Move)
      (step : mid.step? workers start move = some s') :
      Run workers start s (steps ++ [⟨mid, move⟩]) s'

theorem generated_append (first second : List Step) :
    generated (first ++ second) = generated first ++ generated second :=
  List.filterMap_append

theorem recorded_append (first second : List Step) :
    recorded (first ++ second) = recorded first ++ recorded second :=
  List.filterMap_append

theorem recorded_singleton (step : Step) : recorded [step] = step.recorded?.toList := by
  cases h : step.recorded? <;> simp [recorded, h]

theorem recorded_record {s : State} {i : Nat} {outcome : Outcome}
    (h : s.tasks[i]? = some (.holding outcome)) : recorded [⟨s, .record i⟩] = [outcome] := by
  simp [recorded_singleton, Step.recorded?, h, Task.held?]

theorem Run.append {s mid s' : State} {first second : List Step}
    (h : Run workers start s first mid) (h' : Run workers start mid second s') :
    Run workers start s (first ++ second) s' := by
  induction h' with
  | nil => rwa [List.append_nil]
  | snoc _ move step ih =>
    rw [← List.append_assoc]
    exact ih.snoc move step

/-! ### What a schedule keeps -/

section Tasks

variable {tasks : List Task} {i : Nat} {task : Task}

/-- A task among others, and those. -/
theorem perm_cons_eraseIdx (h : tasks[i]? = some task) : tasks.Perm (task :: tasks.eraseIdx i) := by
  obtain ⟨hi, rfl⟩ := List.getElem?_eq_some_iff.mp h
  exact (List.getElem_cons_eraseIdx_perm hi).symm

/-- A task in place of another one, and the others. -/
theorem set_perm_cons_eraseIdx (h : tasks[i]? = some task) (new : Task) :
    (tasks.set i new).Perm (new :: tasks.eraseIdx i) := by
  obtain ⟨hi, -⟩ := List.getElem?_eq_some_iff.mp h
  exact List.set_perm_cons_eraseIdx hi new

/-- The tasks that wait for the generator, with one of them counted apart. -/
theorem countP_isFresh_eq (h : tasks[i]? = some task) :
    tasks.countP Task.isFresh =
      (tasks.eraseIdx i).countP Task.isFresh + if task.isFresh then 1 else 0 := by
  rw [(perm_cons_eraseIdx h).countP_eq, List.countP_cons]

theorem countP_isFresh_set (h : tasks[i]? = some task) (new : Task) :
    (tasks.set i new).countP Task.isFresh =
      (tasks.eraseIdx i).countP Task.isFresh + if new.isFresh then 1 else 0 := by
  rw [(set_perm_cons_eraseIdx h new).countP_eq, List.countP_cons]

end Tasks

/-- What every reachable state is like. -/
structure State.Sound (workers : Workers) (s : State) : Prop where
  /-- Each task in flight has a worker. -/
  slots : s.tasks.length ≤ workers.count
  /-- The main loop looks at the cells again with a worker in hand. -/
  room : ∀ cell, s.phase = .after cell → s.tasks.length < workers.count
  left : s.phase.isInAttempt → 0 < s.left
  /-- The main loop ends for one of two reasons. -/
  ended : s.phase = .draining ∨ s.phase = .over → s.isDone ∨ s.left = 0
  empty : s.phase = .over → s.tasks = []

theorem State.sound_initial (workers : Workers) (attempts : Nat) :
    State.Sound workers { left := attempts } where
  slots := Nat.zero_le workers.count
  room := nofun
  left := nofun
  ended := fun h => h.elim nofun nofun
  empty := nofun

theorem State.isDone_iff (s : State) : s.isDone ↔ s.found? ≠ none ∨ s.failure? ≠ none := by
  simp [isDone, isFilled, Option.isSome_iff_ne_none]

theorem State.isDone_of_isFilled {s : State} {cell : Cell} (h : s.isFilled cell) : s.isDone := by
  cases cell <;> simp [isDone, h]

/-- What is put down stays. -/
theorem State.isDone_note {s : State} {outcome : Outcome} (h : s.isDone) :
    (s.note start outcome).isDone := by
  rw [isDone_iff, found?_note, failure?_note] at *
  cases hs : s.found? <;> cases hf : s.failure? <;> simp_all

theorem Moved.sound {s s' : State} {move : Move} (h : Moved workers start s move s')
    (sound : s.Sound workers) : s'.Sound workers := by
  obtain ⟨slots, room, left, ended, empty⟩ := sound
  cases h with
  | ended cell phase cause =>
    exact ⟨slots, nofun, nofun, fun _ => cause.symm.imp_left State.isDone_of_isFilled, nofun⟩
  | looked phase hleft found => exact ⟨slots, nofun, fun _ => hleft, fun h => h.elim nofun nofun, nofun⟩
  | passed phase hleft failure =>
    exact ⟨slots, nofun, fun _ => hleft, fun h => h.elim nofun nofun, nofun⟩
  | acquired phase hroom =>
    exact ⟨slots, fun _ _ => hroom, fun _ => left (by rw [phase]; rfl), fun h => h.elim nofun nofun,
      nofun⟩
  | abandoned cell phase filled =>
    exact ⟨slots, nofun, nofun, fun _ => .inl (State.isDone_of_isFilled filled), nofun⟩
  | lookedAgain phase found =>
    exact ⟨slots, fun _ _ => room _ phase, fun _ => left (by rw [phase]; rfl),
      fun h => h.elim nofun nofun, nofun⟩
  | spawned phase failure =>
    refine ⟨?_, nofun, nofun, fun h => h.elim nofun nofun, nofun⟩
    rw [List.length_append]
    exact room _ phase
  | finished phase tasks => exact ⟨slots, nofun, nofun, fun _ => ended (.inl phase), fun _ => tasks⟩
  | answered i outcome task =>
    refine ⟨?_, ?_, left, ended, fun phase => ?_⟩
    · rw [List.length_set]; exact slots
    · rw [List.length_set]; exact room
    · rw [empty phase] at task; cases task
  | noted i outcome task =>
    refine ⟨?_, fun cell phase => ?_, fun phase => ?_, fun phase => ?_, fun phase => ?_⟩
    · rw [List.length_set]; exact slots
    · rw [List.length_set]; exact room cell (State.phase_note start s outcome ▸ phase)
    · exact State.left_note start s outcome ▸ left (State.phase_note start s outcome ▸ phase)
    · rw [State.left_note start s outcome]
      exact (ended (State.phase_note start s outcome ▸ phase)).imp_left State.isDone_note
    · rw [empty (State.phase_note start s outcome ▸ phase)] at task; cases task
  | released i task =>
    have hlength := List.length_eraseIdx_le s.tasks i
    refine ⟨Nat.le_trans hlength slots, fun cell phase => Nat.lt_of_le_of_lt hlength (room cell phase), left, ended,
      fun phase => ?_⟩
    rw [empty phase] at task; cases task

theorem Run.sound {s s' : State} {steps : List Step} (run : Run workers start s steps s')
    (sound : s.Sound workers) : s'.Sound workers := by
  induction run with
  | nil => exact sound
  | snoc _ _ step ih => exact (moved_of_step? step).sound ih

/-- The calls of the generator that the tasks in flight make. -/
def State.calls (s : State) : Nat :=
  s.tasks.countP Task.isFresh

/-- Each attempt that begins calls the generator once. -/
theorem Moved.calls_add_left {s s' : State} {move : Move} (h : Moved workers start s move s')
    (sound : s.Sound workers) :
    (generated [⟨s, move⟩]).length + s'.calls + s'.left = s.calls + s.left := by
  cases h with
  | ended | looked | passed | acquired | abandoned | lookedAgain | finished => exact Nat.zero_add _ ▸ rfl
  | spawned phase failure =>
    have hleft : 0 < s.left := sound.left (by rw [phase]; rfl)
    have htasks : (s.tasks ++ [Task.fresh]).countP Task.isFresh = s.tasks.countP Task.isFresh + 1 :=
      List.countP_append
    show 0 + (s.tasks ++ [Task.fresh]).countP Task.isFresh + (s.left - 1) =
      s.tasks.countP Task.isFresh + s.left
    omega
  | answered i outcome task =>
    have hold : s.tasks.countP Task.isFresh = (s.tasks.eraseIdx i).countP Task.isFresh + 1 :=
      countP_isFresh_eq task
    have hnew := countP_isFresh_set task (.holding outcome)
    show 1 + (s.tasks.set i (.holding outcome)).countP Task.isFresh + s.left =
      s.tasks.countP Task.isFresh + s.left
    rw [hnew, hold, Nat.add_comm 1]
    rfl
  | noted i outcome task =>
    have hold := countP_isFresh_eq task
    have hnew := countP_isFresh_set task .recorded
    show 0 + (s.tasks.set i .recorded).countP Task.isFresh + (s.note start outcome).left =
      s.tasks.countP Task.isFresh + s.left
    rw [hnew, hold, State.left_note, Nat.zero_add]
    rfl
  | released i task =>
    have hold := countP_isFresh_eq task
    show 0 + (s.tasks.eraseIdx i).countP Task.isFresh + s.left =
      s.tasks.countP Task.isFresh + s.left
    rw [hold, Nat.zero_add]
    rfl

/-- **Attempts are calls.** -/
theorem Run.calls_add_left {s s' : State} {steps : List Step} (run : Run workers start s steps s')
    (sound : s.Sound workers) : (generated steps).length + s'.calls + s'.left = s.calls + s.left := by
  induction run with
  | nil => exact Nat.zero_add _ ▸ rfl
  | snoc run _ step ih =>
    have hmove := (moved_of_step? step).calls_add_left (run.sound sound)
    rw [generated_append, List.length_append]
    omega

/-- The first identity with the prefix among some outcomes. -/
def firstMatch? (start : String) (outcomes : List Outcome) : Option Identity :=
  outcomes.findSome? (match? start)

/-- The cause of the first failure among some outcomes. -/
def firstCause? (outcomes : List Outcome) : Option String :=
  outcomes.findSome? cause?

theorem Moved.found?_eq {s s' : State} {move : Move} (h : Moved workers start s move s') :
    s'.found? = s.found?.or (firstMatch? start (recorded [⟨s, move⟩])) := by
  cases h with
  | noted i outcome task =>
    rw [recorded_record task, firstMatch?, List.findSome?_singleton]
    exact State.found?_note start s outcome
  | _ => exact Option.or_none.symm

theorem Moved.failure?_eq {s s' : State} {move : Move} (h : Moved workers start s move s') :
    s'.failure? = s.failure?.or (firstCause? (recorded [⟨s, move⟩])) := by
  cases h with
  | noted i outcome task =>
    rw [recorded_record task, firstCause?, List.findSome?_singleton]
    exact State.failure?_note start s outcome
  | _ => exact Option.or_none.symm

/-- The first match stays where it is put down. -/
theorem Run.found?_eq {s s' : State} {steps : List Step} (run : Run workers start s steps s') :
    s'.found? = s.found?.or (firstMatch? start (recorded steps)) := by
  induction run with
  | nil => exact (Option.or_none).symm
  | snoc _ _ step ih =>
    rw [(moved_of_step? step).found?_eq, ih, Option.or_assoc, recorded_append, firstMatch?,
      firstMatch?, firstMatch?, List.findSome?_append]

/-- The first failure stays where it is put down. -/
theorem Run.failure?_eq {s s' : State} {steps : List Step} (run : Run workers start s steps s') :
    s'.failure? = s.failure?.or (firstCause? (recorded steps)) := by
  induction run with
  | nil => exact (Option.or_none).symm
  | snoc _ _ step ih =>
    rw [(moved_of_step? step).failure?_eq, ih, Option.or_assoc, recorded_append, firstCause?,
      firstCause?, firstCause?, List.findSome?_append]

/-- The outcomes that tasks in flight have yet to put down. -/
def State.held (s : State) : List Outcome :=
  s.tasks.filterMap Task.held?

theorem Moved.perm_recorded {s s' : State} {move : Move} (h : Moved workers start s move s') :
    (generated [⟨s, move⟩] ++ s.held).Perm (recorded [⟨s, move⟩] ++ s'.held) := by
  cases h with
  | ended | looked | passed | acquired | abandoned | lookedAgain | finished => exact .refl _
  | spawned phase failure =>
    have htasks : (s.tasks ++ [Task.fresh]).filterMap Task.held? = s.tasks.filterMap Task.held? := by
      rw [List.filterMap_append]
      exact List.append_nil _
    exact .of_eq htasks.symm
  | answered i outcome task =>
    have hold := (perm_cons_eraseIdx task).filterMap Task.held?
    have hnew := (set_perm_cons_eraseIdx task (.holding outcome)).filterMap Task.held?
    exact (hold.cons outcome).trans hnew.symm
  | noted i outcome task =>
    have hold := (perm_cons_eraseIdx task).filterMap Task.held?
    have hnew := (set_perm_cons_eraseIdx task .recorded).filterMap Task.held?
    rw [recorded_record task]
    exact hold.trans (hnew.symm.cons outcome)
  | released i task =>
    exact (perm_cons_eraseIdx task).filterMap Task.held?

/-- **Nothing that the generator yields is lost**: it is put down, or a task still holds it. -/
theorem Run.perm_recorded {s s' : State} {steps : List Step} (run : Run workers start s steps s') :
    (generated steps ++ s.held).Perm (recorded steps ++ s'.held) := by
  induction run with
  | nil => exact .refl _
  | @snoc steps mid s' _ move step ih =>
    have hmove := (moved_of_step? step).perm_recorded
    rw [generated_append, recorded_append]
    calc generated steps ++ generated [⟨mid, move⟩] ++ s.held
      _ = generated steps ++ (generated [⟨mid, move⟩] ++ s.held) := List.append_assoc ..
      List.Perm _ (generated [⟨mid, move⟩] ++ (generated steps ++ s.held)) :=
        List.perm_append_comm_assoc ..
      List.Perm _ (generated [⟨mid, move⟩] ++ (recorded steps ++ mid.held)) := ih.append_left _
      List.Perm _ (recorded steps ++ (generated [⟨mid, move⟩] ++ mid.held)) :=
        List.perm_append_comm_assoc ..
      List.Perm _ (recorded steps ++ (recorded [⟨mid, move⟩] ++ s'.held)) := hmove.append_left _
      _ = recorded steps ++ recorded [⟨mid, move⟩] ++ s'.held := (List.append_assoc ..).symm

end MeshControl.Identity.Search
