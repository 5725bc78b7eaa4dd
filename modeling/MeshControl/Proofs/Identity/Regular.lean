import Mathlib.Algebra.Ring.Nat
import Mathlib.Data.List.Perm.Subperm
import Mathlib.Order.Nat
import Mathlib.Tactic.Push
import Mathlib.Tactic.SplitIfs
import MeshControl.Proofs.Dialogue.Branch
import MeshControl.Proofs.Identity.Schedule

/-!
# What a search comes to

`Regular` lists the laws of a search: bounds on what is in flight and on the calls of the generator,
what the cells hold, what the result says about the outcomes, and that the search comes to its end.
Every schedule of every search keeps them (`Run.regular`), and a search in which each task takes its
moves as soon as it has begun is one of these schedules (`exists_run_of_branch_rounds`).

Two quantities carry the bounds.  `State.laterCalls` bounds the calls that are still answered once
something is put down: no attempt begins any more, unless the main loop had looked at the first cell
before.  `State.movesLeft` becomes less with every move.
-/

namespace MeshControl.Identity.Search

open Dialogue

variable {workers : Workers} {attempts : Nat} {start : String}

/-! ### Calls after the first result -/

/-- The calls of the generator that may still be answered once something is put down: those of the
tasks in flight, and one more if the main loop has a worker in hand and has looked at the cell of the
matches already. -/
def State.laterCalls (s : State) : Nat :=
  s.calls + if s.phase = .after .failure ∧ s.failure? = none then 1 else 0

theorem State.calls_le_laterCalls (s : State) : s.calls ≤ s.laterCalls :=
  Nat.le_add_right _ _

theorem State.laterCalls_eq {s : State} (h : s.phase ≠ .after .failure ∨ s.failure? ≠ none) :
    s.laterCalls = s.calls := by
  have hnot : ¬(s.phase = .after .failure ∧ s.failure? = none) := fun hs =>
    h.elim (absurd hs.1) (absurd hs.2)
  rw [laterCalls, if_neg hnot, Nat.add_zero]

/-- Where the main loop goes on, no call is to come that was not to come before. -/
theorem State.laterCalls_phase_le (s : State) {phase : Phase} (h : phase ≠ .after .failure) :
    State.laterCalls { s with phase := phase } ≤ s.laterCalls := by
  rw [laterCalls_eq (.inl h)]
  exact s.calls_le_laterCalls

/-- A failure that is put down keeps the main loop from beginning an attempt. -/
theorem State.laterCalls_note_le (s : State) (outcome : Outcome) {tasks : List Task}
    (h : tasks.countP Task.isFresh = s.calls) :
    State.laterCalls { s.note start outcome with tasks := tasks } ≤ s.laterCalls := by
  simp only [laterCalls, calls, phase_note, h]
  refine Nat.add_le_add_left ?_ _
  split_ifs with hnote hs
  · exact Nat.le_refl 1
  · -- the cell of the failures was empty before, since it is empty now
    rw [failure?_note, Option.or_eq_none_iff] at hnote
    exact absurd ⟨hnote.1, hnote.2.1⟩ hs
  · exact Nat.zero_le 1
  · exact Nat.le_refl 0

/-- Once something is put down, each call that is answered is one of those to come. -/
theorem Moved.laterCalls_le {s s' : State} {move : Move} (h : Moved workers start s move s')
    (done : s.isDone) : (generated [⟨s, move⟩]).length + s'.laterCalls ≤ s.laterCalls := by
  cases h with
  | ended | looked | passed | acquired | abandoned | finished =>
    exact (Nat.zero_add _).trans_le (s.laterCalls_phase_le nofun)
  | lookedAgain phase found =>
    -- it is a failure that is put down, so the main loop is about to see it
    have hfailure := (s.isDone_iff.mp done).resolve_left (not_not_intro found)
    have heq : State.laterCalls { s with phase := .after .failure } = s.calls :=
      State.laterCalls_eq (.inr hfailure)
    exact (Nat.zero_add _).trans_le (heq.trans_le s.calls_le_laterCalls)
  | spawned phase failure =>
    have hcalls : (s.tasks ++ [Task.fresh]).countP Task.isFresh = s.calls + 1 := List.countP_append
    have hextra : s.laterCalls = s.calls + 1 := by
      rw [State.laterCalls, if_pos ⟨phase, failure⟩]
    refine (Nat.zero_add _).trans_le ?_
    rw [State.laterCalls_eq (.inl (by simp)), hextra]
    exact hcalls.le
  | answered i outcome task =>
    have hold : s.calls = (s.tasks.eraseIdx i).countP Task.isFresh + 1 := countP_isFresh_eq task
    have hnew : (s.tasks.set i (.holding outcome)).countP Task.isFresh =
        (s.tasks.eraseIdx i).countP Task.isFresh := countP_isFresh_set task _
    simp only [State.laterCalls, State.calls] at hold ⊢
    rw [hold, hnew, Nat.add_right_comm, Nat.add_comm]
    rfl
  | noted i outcome task =>
    have hcalls : (s.tasks.set i .recorded).countP Task.isFresh = s.calls :=
      (countP_isFresh_set task .recorded).trans (countP_isFresh_eq task).symm
    exact (Nat.zero_add _).trans_le (s.laterCalls_note_le outcome hcalls)
  | released i task =>
    have hcalls : (s.tasks.eraseIdx i).countP Task.isFresh = s.calls := (countP_isFresh_eq task).symm
    exact (Nat.zero_add _).trans_le (congrArg (· + _) hcalls).le

/-- Once something is put down, it stays. -/
theorem Moved.isDone {s s' : State} {move : Move} (h : Moved workers start s move s')
    (done : s.isDone) : s'.isDone := by
  cases h with
  | noted i outcome task => exact State.isDone_note done
  | _ => exact done

theorem Run.isDone {s s' : State} {steps : List Step} (run : Run workers start s steps s')
    (done : s.isDone) : s'.isDone := by
  induction run with
  | nil => exact done
  | snoc _ _ step ih => exact (moved_of_step? step).isDone ih

theorem Run.laterCalls_le {s s' : State} {steps : List Step} (run : Run workers start s steps s')
    (done : s.isDone) : (generated steps).length + s'.laterCalls ≤ s.laterCalls := by
  induction run with
  | nil => exact (Nat.zero_add _).le
  | snoc run _ step ih =>
    have hmove := (moved_of_step? step).laterCalls_le (run.isDone done)
    rw [generated_append, List.length_append, Nat.add_assoc]
    exact (Nat.add_le_add_left hmove _).trans ih

/-- The task that puts the first result down has a worker that calls nothing any more. -/
theorem Moved.laterCalls_lt {s s' : State} {move : Move} (h : Moved workers start s move s')
    (sound : s.Sound workers) (hlt : s.isDone → s.laterCalls < workers.count) (done' : s'.isDone) :
    s'.laterCalls < workers.count := by
  by_cases done : s.isDone
  · exact ((Nat.le_add_left _ _).trans (h.laterCalls_le done)).trans_lt (hlt done)
  · cases h with
    | noted i outcome task =>
      have hcalls : (s.tasks.set i .recorded).countP Task.isFresh = s.calls :=
        (countP_isFresh_set task .recorded).trans (countP_isFresh_eq task).symm
      refine (s.laterCalls_note_le outcome hcalls).trans_lt ?_
      have hbusy : s.calls < s.tasks.length := by
        have hothers := List.countP_le_length (p := Task.isFresh) (l := s.tasks.eraseIdx i)
        have hlength := (perm_cons_eraseIdx task).length_eq
        have heq : s.calls = (s.tasks.eraseIdx i).countP Task.isFresh := countP_isFresh_eq task
        rw [List.length_cons] at hlength
        omega
      unfold State.laterCalls
      split_ifs with hloop
      · have hroom := sound.room _ hloop.1
        omega
      · exact hbusy.trans_le sound.slots
    | _ => exact absurd done' done

theorem Run.laterCalls_lt {s : State} {steps : List Step}
    (run : Run workers start { left := attempts } steps s) (done : s.isDone) :
    s.laterCalls < workers.count := by
  induction run with
  | nil => cases done
  | snoc run _ step ih =>
    exact (moved_of_step? step).laterCalls_lt (run.sound (State.sound_initial workers attempts)) ih done

/-! ### Coming to an end -/

/-- The moves that a task still takes. -/
def Task.movesLeft : Task → Nat
  | .fresh => 3
  | .holding _ => 2
  | .recorded => 1

/-- The moves that the main loop still takes if it begins no further attempt. -/
def Phase.movesLeft : Phase → Nat
  | .before .found => 6
  | .before .failure => 5
  | .acquiring => 4
  | .after .found => 3
  | .after .failure => 2
  | .draining => 1
  | .over => 0

/-- A bound on the moves that are left: five of the main loop and three of a task for each attempt. -/
def State.movesLeft (s : State) : Nat :=
  8 * s.left + s.phase.movesLeft + (s.tasks.map Task.movesLeft).sum

theorem sum_movesLeft_eq {tasks : List Task} {i : Nat} {task : Task} (h : tasks[i]? = some task) :
    (tasks.map Task.movesLeft).sum =
      task.movesLeft + ((tasks.eraseIdx i).map Task.movesLeft).sum := by
  rw [((perm_cons_eraseIdx h).map Task.movesLeft).sum_nat, List.map_cons, List.sum_cons]

theorem sum_movesLeft_set {tasks : List Task} {i : Nat} {task : Task} (h : tasks[i]? = some task)
    (new : Task) :
    ((tasks.set i new).map Task.movesLeft).sum =
      new.movesLeft + ((tasks.eraseIdx i).map Task.movesLeft).sum := by
  rw [((set_perm_cons_eraseIdx h new).map Task.movesLeft).sum_nat, List.map_cons, List.sum_cons]

theorem Phase.one_lt_movesLeft_before (cell : Cell) : 1 < (Phase.before cell).movesLeft := by
  cases cell <;> decide

theorem Phase.one_lt_movesLeft_after (cell : Cell) : 1 < (Phase.after cell).movesLeft := by
  cases cell <;> decide

theorem State.movesLeft_phase_lt (s : State) {phase : Phase}
    (h : phase.movesLeft < s.phase.movesLeft) :
    State.movesLeft { s with phase := phase } < s.movesLeft :=
  Nat.add_lt_add_right (Nat.add_lt_add_left h _) _

theorem Moved.movesLeft_lt {s s' : State} {move : Move} (h : Moved workers start s move s')
    (sound : s.Sound workers) : s'.movesLeft < s.movesLeft := by
  cases h with
  | ended cell phase cause =>
    exact s.movesLeft_phase_lt (phase ▸ Phase.one_lt_movesLeft_before cell)
  | looked phase left found => exact s.movesLeft_phase_lt (by rw [phase]; decide)
  | passed phase left failure => exact s.movesLeft_phase_lt (by rw [phase]; decide)
  | acquired phase room => exact s.movesLeft_phase_lt (by rw [phase]; decide)
  | abandoned cell phase filled =>
    exact s.movesLeft_phase_lt (phase ▸ Phase.one_lt_movesLeft_after cell)
  | lookedAgain phase found => exact s.movesLeft_phase_lt (by rw [phase]; decide)
  | spawned phase failure =>
    -- the attempt pays for a round of the main loop and for the moves of its task
    have hleft : 0 < s.left := sound.left (by rw [phase]; rfl)
    simp only [State.movesLeft, phase, List.map_append, List.sum_append, List.map_singleton,
      List.sum_singleton, Phase.movesLeft, Task.movesLeft]
    omega
  | finished phase tasks => exact s.movesLeft_phase_lt (by rw [phase]; decide)
  | answered i outcome task =>
    simp only [State.movesLeft, sum_movesLeft_set task, sum_movesLeft_eq task]
    exact Nat.add_lt_add_left (Nat.add_lt_add_right (Nat.lt_succ_self _) _) _
  | noted i outcome task =>
    simp only [State.movesLeft, State.left_note, State.phase_note, sum_movesLeft_set task,
      sum_movesLeft_eq task]
    exact Nat.add_lt_add_left (Nat.add_lt_add_right (Nat.lt_succ_self _) _) _
  | released i task =>
    simp only [State.movesLeft, sum_movesLeft_eq task]
    exact Nat.add_lt_add_left (Nat.lt_add_of_pos_left (by decide)) _

/-- No schedule is longer than the bound says. -/
theorem Run.length_add_movesLeft_le {s s' : State} {steps : List Step}
    (run : Run workers start s steps s') (sound : s.Sound workers) :
    steps.length + s'.movesLeft ≤ s.movesLeft := by
  induction run with
  | nil => exact (Nat.zero_add _).le
  | snoc run _ step ih =>
    have hlt := (moved_of_step? step).movesLeft_lt (run.sound sound)
    rw [List.length_append, List.length_singleton]
    omega

/-- A task in flight can always move. -/
theorem State.exists_move_of_task {s : State} (h : s.tasks ≠ []) :
    ∃ move, (s.step? workers start move).isSome := by
  obtain ⟨task, rest, htasks⟩ := List.exists_cons_of_ne_nil h
  have hget : s.tasks[0]? = some task := by rw [htasks]; rfl
  cases task with
  | fresh => exact ⟨.generate 0 (.error ""), by simp only [step?, hget]; rfl⟩
  | holding outcome => exact ⟨.record 0, by simp only [step?, hget]; rfl⟩
  | recorded => exact ⟨.release 0, by simp only [step?, hget]; rfl⟩

/-- **There is always a move**, until the search is over. -/
theorem State.exists_move {s : State} (hover : s.phase ≠ .over) :
    ∃ move, (s.step? workers start move).isSome := by
  by_cases htasks : s.tasks = []
  · refine ⟨.advance, ?_⟩
    cases hphase : s.phase with
    | before cell => simp only [step?, advance?, hphase]; split <;> rfl
    | acquiring => simp [step?, advance?, hphase, htasks, workers.pos]
    | after cell =>
      simp only [step?, advance?, hphase]
      split
      · rfl
      · split <;> rfl
    | draining => simp [step?, advance?, hphase, htasks]
    | _ => exact absurd hphase hover
  · exact exists_move_of_task htasks

/-! ### Results -/

/-- Whether an outcome is neither a match nor a failure. -/
def IsMiss (start : String) (outcome : Outcome) : Prop :=
  match? start outcome = none ∧ cause? outcome = none

theorem match?_eq_some_iff {outcome : Outcome} {identity : Identity} :
    match? start outcome = some identity ↔ outcome = .ok identity ∧ identity.hasPrefix start := by
  cases outcome with
  | error cause => simp [match?]
  | ok other =>
    rw [match?]
    split_ifs with h
    · rw [Option.some_inj, Except.ok.injEq]
      exact ⟨fun heq => ⟨heq, heq ▸ h⟩, And.left⟩
    · refine ⟨fun hnone => by simp at hnone, ?_⟩
      rintro ⟨heq, h'⟩
      obtain rfl := Except.ok.inj heq
      exact absurd h' h

theorem cause?_eq_some_iff {outcome : Outcome} {cause : String} :
    cause? outcome = some cause ↔ outcome = .error cause := by
  cases outcome with
  | error other => rw [cause?, Option.some_inj, Except.error.injEq]
  | ok identity => simp [cause?]

theorem State.result_eq_found_iff {s : State} {identity : Identity} :
    s.result = .ok (some identity) ↔ s.found? = some identity := by
  unfold result
  cases s.found? <;> cases s.failure? <;> simp

theorem State.result_eq_failure_iff {s : State} {cause : String} :
    s.result = .error (.generator cause) ↔ s.found? = none ∧ s.failure? = some cause := by
  unfold result
  cases s.found? <;> cases s.failure? <;> simp

theorem State.result_eq_none_iff {s : State} :
    s.result = .ok none ↔ s.found? = none ∧ s.failure? = none := by
  unfold result
  cases s.found? <;> cases s.failure? <;> simp

/-- The laws of a schedule that leads from the beginning of a search with so many attempts to a
state. -/
structure Regular (workers : Workers) (attempts : Nat) (start : String) (steps : List Step) (s : State) :
    Prop where
  /-- No more tasks are in flight than there are workers. -/
  length_tasks_le : s.tasks.length ≤ workers.count
  /-- The generator is called once for each attempt at the most, if the calls that it has yet to
  answer are counted as well. -/
  calls_le : (generated steps).length + s.calls ≤ attempts
  /-- What is put down was generated, and not put down before. -/
  recorded_subperm : (recorded steps).Subperm (generated steps)
  /-- The first match is found, and the first failure is the one that counts. -/
  found?_eq : s.found? = firstMatch? start (recorded steps)
  failure?_eq : s.failure? = firstCause? (recorded steps)
  /-- What is found was generated and has the prefix. -/
  found_matches : ∀ identity, s.found? = some identity →
    .ok identity ∈ generated steps ∧ identity.hasPrefix start
  /-- It is never written over. -/
  found_stays : ∀ identity, s.found? = some identity →
    ∀ more s', Run workers start s more s' → s'.found? = some identity
  /-- Once something is put down, fewer calls are answered than there are workers. -/
  later_calls_le : s.isDone →
    ∀ more s', Run workers start s more s' → (generated more).length ≤ workers.count - 1
  /-- A search that is over yields the first match that was put down, whatever else was. -/
  result_eq_found_iff : s.phase = .over → ∀ identity,
    s.result = .ok (some identity) ↔ firstMatch? start (recorded steps) = some identity
  /-- It yields one if a match was generated. -/
  exists_found_iff : s.phase = .over → ((∃ identity, s.result = .ok (some identity)) ↔
    ∃ identity, .ok identity ∈ generated steps ∧ identity.hasPrefix start)
  /-- Without a match it yields the first failure that was put down. -/
  result_eq_failure_iff : s.phase = .over → ∀ cause, s.result = .error (.generator cause) ↔
    (∀ identity, .ok identity ∈ generated steps → ¬identity.hasPrefix start) ∧
      firstCause? (recorded steps) = some cause
  /-- It yields one if there was a failure and no match. -/
  exists_failure_iff : s.phase = .over → ((∃ cause, s.result = .error (.generator cause)) ↔
    (∀ identity, .ok identity ∈ generated steps → ¬identity.hasPrefix start) ∧
      ∃ cause, .error cause ∈ generated steps)
  /-- It yields nothing if there was neither. -/
  result_eq_none_iff : s.phase = .over →
    (s.result = .ok none ↔ ∀ outcome ∈ generated steps, IsMiss start outcome)
  /-- Then every attempt was made. -/
  calls_of_none : s.phase = .over → s.result = .ok none → (generated steps).length = attempts
  /-- A search that is not over goes on. -/
  exists_move : s.phase ≠ .over → ∃ move, (s.step? workers start move).isSome
  /-- It comes to its end. -/
  length_le : steps.length ≤ 8 * attempts + 6

section Result

variable {steps : List Step} {s : State}

theorem Run.recorded_subperm (run : Run workers start { left := attempts } steps s) :
    (recorded steps).Subperm (generated steps) := by
  have hperm := run.perm_recorded
  rw [show State.held { left := attempts } = [] from rfl, List.append_nil] at hperm
  exact (List.sublist_append_left _ _).subperm.trans hperm.symm.subperm

/-- At the end, all that was generated is put down. -/
theorem Run.mem_recorded_iff (run : Run workers start { left := attempts } steps s)
    (hover : s.phase = .over) {outcome : Outcome} :
    outcome ∈ recorded steps ↔ outcome ∈ generated steps := by
  have hperm := run.perm_recorded
  have htasks := (run.sound (State.sound_initial workers attempts)).empty hover
  rw [show State.held { left := attempts } = [] from rfl, List.append_nil, State.held, htasks,
    List.filterMap_nil, List.append_nil] at hperm
  exact hperm.mem_iff.symm

theorem Run.found?_eq_firstMatch? (run : Run workers start { left := attempts } steps s) :
    s.found? = firstMatch? start (recorded steps) :=
  run.found?_eq.trans (Option.none_or)

theorem Run.failure?_eq_firstCause? (run : Run workers start { left := attempts } steps s) :
    s.failure? = firstCause? (recorded steps) :=
  run.failure?_eq.trans (Option.none_or)

/-- A cell of matches that is empty at the end says that there was none. -/
theorem Run.found?_eq_none_iff (run : Run workers start { left := attempts } steps s)
    (hover : s.phase = .over) :
    s.found? = none ↔ ∀ outcome ∈ generated steps, match? start outcome = none := by
  rw [run.found?_eq_firstMatch?, firstMatch?, List.findSome?_eq_none_iff]
  exact forall_congr' fun _ => imp_congr_left (run.mem_recorded_iff hover)

theorem Run.failure?_eq_none_iff (run : Run workers start { left := attempts } steps s)
    (hover : s.phase = .over) :
    s.failure? = none ↔ ∀ outcome ∈ generated steps, cause? outcome = none := by
  rw [run.failure?_eq_firstCause?, firstCause?, List.findSome?_eq_none_iff]
  exact forall_congr' fun _ => imp_congr_left (run.mem_recorded_iff hover)

theorem forall_match?_eq_none_iff {outcomes : List Outcome} :
    (∀ outcome ∈ outcomes, match? start outcome = none) ↔
      ∀ identity, .ok identity ∈ outcomes → ¬identity.hasPrefix start := by
  constructor
  · intro h identity hmem hprefix
    exact Option.eq_none_iff_forall_ne_some.mp (h _ hmem) identity
      (match?_eq_some_iff.mpr ⟨rfl, hprefix⟩)
  · intro h outcome hmem
    refine Option.eq_none_iff_forall_ne_some.mpr fun identity heq => ?_
    obtain ⟨rfl, hprefix⟩ := match?_eq_some_iff.mp heq
    exact h identity hmem hprefix

theorem exists_cause?_iff {outcomes : List Outcome} :
    (¬∀ outcome ∈ outcomes, cause? outcome = none) ↔ ∃ cause, .error cause ∈ outcomes := by
  constructor
  · intro h
    push Not at h
    obtain ⟨outcome, hmem, hne⟩ := h
    obtain ⟨cause, hcause⟩ := Option.ne_none_iff_exists'.mp hne
    exact ⟨cause, cause?_eq_some_iff.mp hcause ▸ hmem⟩
  · rintro ⟨cause, hmem⟩ h
    cases h _ hmem

/-- **Every schedule is regular**, whatever the generator yields and in whatever order the main loop
and the tasks move. -/
theorem Run.regular (run : Run workers start { left := attempts } steps s) :
    Regular workers attempts start steps s := by
  have sound := run.sound (State.sound_initial workers attempts)
  have hcalls : (generated steps).length + s.calls + s.left = attempts :=
    (run.calls_add_left (State.sound_initial workers attempts)).trans (Nat.zero_add _)
  have hfound := run.found?_eq_firstMatch?
  have hfailure := run.failure?_eq_firstCause?
  refine
    { length_tasks_le := sound.slots
      calls_le := Nat.le_of_add_right_le hcalls.le
      recorded_subperm := run.recorded_subperm
      found?_eq := hfound
      failure?_eq := hfailure
      found_matches := ?_
      found_stays := ?_
      later_calls_le := ?_
      result_eq_found_iff := fun _ identity => by rw [State.result_eq_found_iff, hfound]
      exists_found_iff := ?_
      result_eq_failure_iff := ?_
      exists_failure_iff := ?_
      result_eq_none_iff := ?_
      calls_of_none := ?_
      exists_move := State.exists_move
      length_le := ?_ }
  · intro identity hs
    obtain ⟨outcome, hmem, hmatch⟩ := List.exists_of_findSome?_eq_some (hfound ▸ hs)
    obtain ⟨rfl, hprefix⟩ := match?_eq_some_iff.mp hmatch
    exact ⟨run.recorded_subperm.subset hmem, hprefix⟩
  · intro identity hs more s' hmore
    rw [hmore.found?_eq, hs, Option.some_or]
  · intro done more s' hmore
    have hlater := hmore.laterCalls_le done
    have hlt := run.laterCalls_lt done
    omega
  · intro hover
    simp only [State.result_eq_found_iff]
    rw [← Option.ne_none_iff_exists', ne_eq, run.found?_eq_none_iff hover, forall_match?_eq_none_iff]
    push Not
    rfl
  · intro hover cause
    rw [State.result_eq_failure_iff, run.found?_eq_none_iff hover, forall_match?_eq_none_iff, hfailure]
  · intro hover
    simp only [State.result_eq_failure_iff, exists_and_left]
    rw [← Option.ne_none_iff_exists', ne_eq, run.failure?_eq_none_iff hover, exists_cause?_iff,
      run.found?_eq_none_iff hover, forall_match?_eq_none_iff]
  · intro hover
    rw [State.result_eq_none_iff, run.found?_eq_none_iff hover, run.failure?_eq_none_iff hover,
      ← forall_and]
    exact forall_congr' fun _ => imp_and.symm
  · intro hover hnone
    -- nothing is put down, so the main loop ended because no attempt was left
    have hcells := State.result_eq_none_iff.mp hnone
    have hleft := (sound.ended (.inr hover)).resolve_left fun done =>
      (s.isDone_iff.mp done).elim (absurd hcells.1) (absurd hcells.2)
    have htasks : s.calls = 0 := by rw [State.calls, sound.empty hover, List.countP_nil]
    omega
  · exact Nat.le_of_add_right_le (run.length_add_movesLeft_le (State.sound_initial workers attempts))

end Result

/-! ### One task at a time -/

/-- The outcomes in the log of a search. -/
def outcomes (log : List (Exchange Call Call.Answer)) : List Outcome :=
  log.map fun
    | ⟨.generate, outcome⟩ => outcome

/-- An attempt whose task takes its moves at once. -/
theorem exists_run_round (workers : Workers) (start : String) (left : Nat) (outcome : Outcome) :
    ∃ steps, Run workers start { left := left + 1 } steps (State.note start { left := left } outcome) ∧
      generated steps = [outcome] := by
  have looked : Run workers start { left := left + 1 } _
      { left := left + 1, phase := .before .failure } := Run.nil.snoc .advance rfl
  have passed : Run workers start { left := left + 1 } _
      { left := left + 1, phase := .acquiring } := looked.snoc .advance rfl
  have acquired : Run workers start { left := left + 1 } _
      { left := left + 1, phase := .after .found } := passed.snoc .advance (if_pos workers.pos)
  have lookedAgain : Run workers start { left := left + 1 } _
      { left := left + 1, phase := .after .failure } := acquired.snoc .advance rfl
  have spawned : Run workers start { left := left + 1 } _ { left := left, tasks := [.fresh] } :=
    lookedAgain.snoc .advance rfl
  have noted := (spawned.snoc (.generate 0 outcome) rfl).snoc (.record 0) rfl
  refine ⟨_, noted.snoc (.release 0) ?_, rfl⟩
  cases outcome with
  | error cause => rfl
  | ok identity => by_cases h : identity.hasPrefix start <;> simp [State.step?, State.note, h]

/-- A main loop that is not to begin an attempt waits for its tasks. -/
theorem exists_run_draining (workers : Workers) (start : String) {s : State}
    (phase : s.phase = .before .found) (ended : s.left = 0 ∨ s.isDone) :
    ∃ steps, Run workers start s steps { s with phase := .draining } ∧ generated steps = [] := by
  by_cases hfirst : s.left = 0 ∨ s.isFilled .found
  · exact ⟨_, Run.nil.snoc .advance (by simp [State.step?, State.advance?, phase, hfirst]), rfl⟩
  · have hleft : s.left ≠ 0 := fun h => hfirst (.inl h)
    have hfound : ¬s.isFilled .found := fun h => hfirst (.inr h)
    have hfailure : s.isFilled .failure := by
      simpa [State.isDone, hfound] using ended.resolve_left hleft
    have looked : Run workers start s _ { s with phase := .before .failure } :=
      Run.nil.snoc .advance (by simp [State.step?, State.advance?, phase, hleft, hfound])
    refine ⟨_, looked.snoc .advance ?_, rfl⟩
    have hfailure' : State.isFilled { s with phase := .before .failure } .failure := hfailure
    simp [State.step?, State.advance?, hfailure']

/-- A search without tasks in flight in which no attempt is to be begun comes to its end. -/
theorem exists_run_over (workers : Workers) (start : String) {s : State}
    (phase : s.phase = .before .found) (tasks : s.tasks = []) (ended : s.left = 0 ∨ s.isDone) :
    ∃ steps s', Run workers start s steps s' ∧ s'.phase = .over ∧ s'.result = s.result ∧
      generated steps = [] := by
  obtain ⟨steps, run, hgenerated⟩ := exists_run_draining workers start phase ended
  refine ⟨_, { s with phase := .over }, run.snoc .advance ?_, rfl, rfl, ?_⟩
  · simp [State.step?, State.advance?, tasks]
  · rw [generated_append, hgenerated]
    rfl

theorem State.note_with_left (start : String) (s : State) (outcome : Outcome) (left : Nat) :
    { s.note start outcome with left := left } = State.note start { s with left := left } outcome := by
  cases outcome with
  | error cause => rfl
  | ok identity => by_cases h : identity.hasPrefix start <;> simp [note, h]

/-- The state after a round is that before the next one, or the search is done. -/
theorem State.note_eq_or_isDone (start : String) (left : Nat) (outcome : Outcome) :
    State.note start { left := left } outcome = { left := left } ∨
      (State.note start { left := left } outcome).isDone := by
  cases outcome with
  | error cause => exact .inr rfl
  | ok identity =>
    by_cases h : identity.hasPrefix start
    · exact .inr (by simp [note, h, isDone, isFilled])
    · exact .inl (by simp [note, h])

/-- A search that is done asks for nothing. -/
theorem branch_rounds_of_isDone {s s' : State} {left : Nat} {log : List (Exchange Call Call.Answer)}
    (done : s.isDone) (h : (rounds start s left).Branch log s') : log = [] ∧ s' = s := by
  cases left with
  | zero => exact branch_done_iff.mp h
  | succ left =>
    rw [rounds, if_pos done] at h
    exact branch_done_iff.mp h

/-- Rounds that follow one another are a schedule. -/
theorem exists_run_of_branch_rounds (workers : Workers) {left : Nat}
    {log : List (Exchange Call Call.Answer)} {s : State}
    (h : (rounds start { left := left } left).Branch log s) :
    ∃ steps s', Run workers start { left := left } steps s' ∧ s'.phase = .over ∧
      s'.result = s.result ∧ generated steps = outcomes log := by
  induction left generalizing log with
  | zero =>
    obtain ⟨rfl, rfl⟩ := branch_done_iff.mp h
    exact exists_run_over workers start rfl rfl (.inl rfl)
  | succ left ih =>
    obtain ⟨outcome, rest, rfl, hrest⟩ := branch_ask_iff.mp h
    obtain ⟨first, hfirst, hgenerated⟩ := exists_run_round workers start left outcome
    have hrest' : (rounds start (State.note start { left := left } outcome) left).Branch rest s :=
      State.note_with_left start { left := left + 1 } outcome left ▸ hrest
    rcases State.note_eq_or_isDone start left outcome with hmiss | done
    · rw [hmiss] at hfirst hrest'
      obtain ⟨second, s', hsecond, hover, hresult, houtcomes⟩ := ih hrest'
      refine ⟨first ++ second, s', hfirst.append hsecond, hover, hresult, ?_⟩
      rw [generated_append, hgenerated, houtcomes]
      rfl
    · obtain ⟨rfl, rfl⟩ := branch_rounds_of_isDone done hrest'
      obtain ⟨second, s', hsecond, hover, hresult, hnone⟩ :=
        exists_run_over workers start
          (State.phase_note start { left := left } outcome) (State.tasks_note start _ outcome)
          (.inr done)
      refine ⟨first ++ second, s', hfirst.append hsecond, hover, hresult, ?_⟩
      rw [generated_append, hgenerated, hnone]
      rfl

section Search

variable {count : Nat} {log : List (Exchange Call Call.Answer)}
  {result? : Option (Except SearchError (Option Identity))}

/-- A search that runs one task at a time comes to the end of a schedule. -/
theorem exists_run_of_branch_search (hcount : workers.count = max 1 count)
    (searchable : isSearchable start) (h : (search start count attempts).Branch log result?) :
    ∃ steps s, Run workers start { left := attempts } steps s ∧ s.phase = .over ∧
      result? = some s.result ∧ generated steps = outcomes log := by
  rw [search, searchable, Workers.ofCount?_eq_some_iff.mpr hcount] at h
  obtain ⟨first, s, rest, hrounds, hresult, rfl⟩ := branch_bind_iff.mp h
  obtain ⟨rfl, rfl⟩ := branch_done_iff.mp hresult
  obtain ⟨steps, s', run, hover, heq, hgenerated⟩ := exists_run_of_branch_rounds workers hrounds
  exact ⟨steps, s', run, hover, congrArg some heq.symm, by rw [hgenerated, List.append_nil]⟩

/-- A search that is to have too many workers breaks off before it begins. -/
theorem search_of_permitLimit_lt (hcount : permitLimit < count) (searchable : isSearchable start) :
    search start count attempts = done none := by
  rw [search, searchable, Workers.ofCount?_eq_none_iff.mpr hcount]
  rfl

end Search

/-- **Every search that there can be is regular.** Whatever the generator yields, and in whatever order
the main loop and the tasks of so many workers move (none counts as one), the laws hold at every point;
and the search that runs one task at a time comes to the end of such a schedule.  There are so many
workers unless there are more than permits.  Then no attempt is made, and there is no result. -/
theorem search_regular (count attempts : Nat) (start : String) (searchable : isSearchable start) :
    (∀ workers : Workers, workers.count = max 1 count →
      (∀ steps s, Run workers start { left := attempts } steps s →
        Regular workers attempts start steps s) ∧
      ∀ log result?, (search start count attempts).Branch log result? →
        ∃ steps s, Run workers start { left := attempts } steps s ∧ s.phase = .over ∧
          result? = some s.result ∧ generated steps = outcomes log) ∧
    ((∃ workers : Workers, workers.count = max 1 count) ↔ count ≤ permitLimit) ∧
    (permitLimit < count → ∀ log result?, (search start count attempts).Branch log result? →
      log = [] ∧ result? = none) := by
  refine ⟨fun workers hcount => ⟨fun steps s run => run.regular, fun log result? h => ?_⟩,
    Workers.exists_count_eq_iff, fun hcount log result? h => ?_⟩
  · exact exists_run_of_branch_search hcount searchable h
  · rw [search_of_permitLimit_lt hcount searchable] at h
    exact branch_done_iff.mp h

/-- Two workers. -/
def pair : Workers := ⟨2, by decide, by decide⟩

/-- Two tasks at once: the one that is answered first fails, the other one finds a match. -/
def overlapping : List Move :=
  List.replicate 10 .advance ++ [.generate 1 (.error "broken"),
    .generate 0 (.ok ⟨"fc94::1", "fc94::1 key"⟩), .record 1, .record 0, .release 1, .release 0,
    .advance, .advance]

/-- The state after some moves. -/
def State.follow? (workers : Workers) (start : String) (s : State) : List Move → Option State
  | [] => some s
  | move :: rest => (s.step? workers start move).bind fun mid => mid.follow? workers start rest

theorem State.exists_run_of_follow? {s s' : State} {moves : List Move}
    (h : s.follow? workers start moves = some s') : ∃ steps, Run workers start s steps s' := by
  induction moves generalizing s with
  | nil =>
    obtain rfl := Option.some.inj h
    exact ⟨[], .nil⟩
  | cons move rest ih =>
    obtain ⟨mid, hstep, hrest⟩ := Option.bind_eq_some_iff.mp h
    obtain ⟨steps, run⟩ := ih hrest
    exact ⟨_, (Run.nil.snoc move hstep).append run⟩

/-- The match is found although a failure was put down before it. -/
theorem search_regular_overlapping :
    isSearchable "fc94" ∧ pair.count = max 1 2 ∧
      ∃ steps s, Run pair "fc94" { left := 3 } steps s ∧ s.phase = .over ∧
        s.failure? = some "broken" ∧ s.result = .ok (some ⟨"fc94::1", "fc94::1 key"⟩) ∧
        Regular pair 3 "fc94" steps s := by
  have searchable : isSearchable "fc94" := by decide
  have hfollow : State.follow? pair "fc94" { left := 3 } overlapping =
      some ⟨1, .over, [], some ⟨"fc94::1", "fc94::1 key"⟩, some "broken"⟩ := rfl
  obtain ⟨steps, run⟩ := State.exists_run_of_follow? hfollow
  exact ⟨searchable, rfl, steps, _, run, rfl, rfl, rfl,
    ((search_regular 2 3 "fc94" searchable).1 pair rfl).1 steps _ run⟩

/-- With one worker more than there are permits no attempt is made and there is no result, although the
one attempt that is allowed could have been made in vain. -/
theorem search_overstaffed :
    isSearchable "abcd" ∧ permitLimit + 1 = 2305843009213693952 ∧
      permitLimit + 1 < UInt64.size ∧
      hasPrefix ⟨"fc94::1", "fc94::1 pubkey privkey"⟩ "abcd" = false ∧
      search "abcd" (permitLimit + 1) 1 = done none :=
  ⟨by decide, by decide, by decide, by decide +kernel,
    search_of_permitLimit_lt (Nat.lt_succ_self permitLimit) (by decide)⟩

end MeshControl.Identity.Search
