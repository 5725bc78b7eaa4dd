import Mathlib.Tactic.SplitIfs
import MeshControl.Proofs.Dialogue.Branch
import MeshControl.Wait.Waiter

/-!
# Histories of waits

What a wait asks, told by an inductive predicate on logs: `Attempted o n log found` says that `log`
is what is asked while `n` attempts are left and the observer `o` has seen what was reported last,
and `Waited` adds the reports at the beginning and at the end.  Both hold of exactly the branches of
their dialogues (`branch_attempts_iff`, `branch_wait_iff`).
-/

namespace MeshControl.Wait

open Dialogue MeshControl.Daemon

variable {C : Type}

/-- What was asked in a wait, with the answers. -/
abbrev Log (C : Type) := List (Exchange (Call C) Call.Answer)

/-- An observer has seen the value that it was shown last. -/
@[simp]
theorem Observer.update_snd {α : Type} [DecidableEq α] (o : Observer α) (value : α) :
    (o.update value).2 = ⟨some value⟩ := by
  rw [update]
  split_ifs with h
  · rw [← h]
  · rfl

/-- What is asked behind an attempt: a pause comes first, unless it was the last one. -/
def afterPause (left : Nat) (rest : Log C) : Log C :=
  if left = 0 then rest else ⟨.pause, ()⟩ :: rest

/-- The report of a text to an observer: only news is reported. -/
def reportIfNew (o : Observer String) (text : String) : Log C :=
  if o.last? = some text then [] else [⟨.report (.update text), ()⟩]

/-- So many attempts at a condition, and whether it came to hold. -/
inductive Attempted (condition : C) (description : String) :
    Observer String → Nat → Log C → Bool → Prop
  | spent (o : Observer String) : Attempted condition description o 0 [] false
  | unread (o : Observer String) {left : Nat} {rest : Log C} {found : Bool}
      (next : Attempted condition description o left rest found) :
      Attempted condition description o (left + 1) (⟨.poll, none⟩ :: afterPause left rest) found
  | found (o : Observer String) (left : Nat) (snapshot : Snapshot) (verdict : Verdict)
      (done : verdict.isDone = true) :
      Attempted condition description o (left + 1)
        [⟨.poll, some snapshot⟩, ⟨.check condition snapshot, verdict⟩] true
  | pending (o : Observer String) {left : Nat} (snapshot : Snapshot) (verdict : Verdict)
      (notDone : verdict.isDone = false) {rest : Log C} {found : Bool}
      (next : Attempted condition description ⟨some (pendingText description verdict.hint)⟩ left
        rest found) :
      Attempted condition description o (left + 1)
        (⟨.poll, some snapshot⟩ :: ⟨.check condition snapshot, verdict⟩ ::
          (reportIfNew o (pendingText description verdict.hint) ++ afterPause left rest)) found

/-- The dialogue behind an attempt that did not find the condition to hold. -/
theorem branch_afterPause_iff {n : Nat} {d : Asking C Bool} {log : Log C} {found : Bool}
    (hd : n = 0 → d = done false) :
    (if n = 0 then done false else (query Call.pause).bind fun _ => d :
        Asking C Bool).Branch log found ↔
      ∃ rest, d.Branch rest found ∧ log = afterPause n rest := by
  by_cases hn : n = 0
  · rw [if_pos hn, hd hn]
    simp only [afterPause, if_pos hn, exists_eq_right']
  · rw [if_neg hn]
    simp only [afterPause, if_neg hn]
    constructor
    · intro h
      cases h with
      | ask answer rest => exact ⟨_, rest, rfl⟩
    · rintro ⟨rest, h, rfl⟩
      exact branch_bind_iff.mpr ⟨_, (), rest, branch_query_iff.mpr rfl, h, rfl⟩

/-- The dialogue behind a verdict whose text is shown to the observer. -/
theorem branch_reportIfNew_iff {o : Observer String} {text : String} {d : Asking C Bool}
    {log : Log C} {found : Bool} :
    (if (o.update text).1 = true then (report (.update text)).bind fun _ => d else d :
        Asking C Bool).Branch log found ↔
      ∃ rest, d.Branch rest found ∧ log = reportIfNew o text ++ rest := by
  rw [Observer.update_fst]
  by_cases h : o.last? = some text
  · rw [if_neg (by simpa using h)]
    simp only [reportIfNew, if_pos h, List.nil_append, exists_eq_right']
  · rw [if_pos (by simpa using h)]
    simp only [reportIfNew, if_neg h]
    constructor
    · intro h
      cases h with
      | ask answer rest => exact ⟨_, rest, rfl⟩
    · rintro ⟨rest, h, rfl⟩
      exact branch_bind_iff.mpr ⟨_, (), rest, branch_query_iff.mpr rfl, h, rfl⟩

theorem branch_attempts_iff {condition : C} {description : String} {o : Observer String} {n : Nat}
    {log : Log C} {found : Bool} :
    (attempts condition description o n).Branch log found ↔
      Attempted condition description o n log found := by
  -- without attempts left there is nothing to pause for
  have hspent : ∀ (o : Observer String) {n : Nat}, n = 0 →
      attempts condition description o n = done false := by
    rintro o n rfl
    rfl
  constructor
  · intro h
    induction n generalizing o log with
    | zero =>
      cases h with
      | done => exact .spent o
    | succ n ih =>
      rw [attempts] at h
      cases h with
      | ask answer tail =>
        cases answer with
        | none =>
          obtain ⟨rest, hrest, rfl⟩ := (branch_afterPause_iff (hspent o)).mp tail
          exact .unread o (ih hrest)
        | some snapshot =>
          cases tail with
          | ask verdict tail =>
            cases hdone : verdict.isDone with
            | true =>
              simp only [done_bind, hdone, if_true] at tail
              cases tail with
              | done => exact .found o n snapshot verdict hdone
            | false =>
              simp only [done_bind, hdone, Bool.false_eq_true, if_false,
                Observer.update_snd] at tail
              obtain ⟨rest, hrest, rfl⟩ := branch_reportIfNew_iff.mp tail
              obtain ⟨others, hothers, rfl⟩ := (branch_afterPause_iff (hspent _)).mp hrest
              exact .pending o snapshot verdict hdone (ih hothers)
  · intro h
    induction h with
    | spent o => exact .done false
    | unread o next ih =>
      rw [attempts]
      refine .ask _ ?_
      exact (branch_afterPause_iff (hspent o)).mpr ⟨_, ih, rfl⟩
    | found o left snapshot verdict done =>
      rw [attempts]
      refine .ask _ ?_
      refine .ask _ ?_
      simp only [done_bind, done, if_true]
      exact .done true
    | pending o snapshot verdict notDone next ih =>
      rw [attempts]
      refine .ask _ ?_
      refine .ask _ ?_
      simp only [done_bind, notDone, Bool.false_eq_true, if_false, Observer.update_snd]
      exact branch_reportIfNew_iff.mpr
        ⟨_, (branch_afterPause_iff (hspent _)).mpr ⟨_, ih, rfl⟩, rfl⟩

/-- A log between a first and a last report. -/
def between (first last : Event) (log : Log C) : Log C :=
  ⟨.report first, ()⟩ :: (log ++ [⟨.report last, ()⟩])

/-- The result of a wait whose attempts came to an end. -/
def outcome (description : String) (max : Nat) (found : Bool) : Except Timeout Unit :=
  if found then .ok () else .error ⟨description, max⟩

/-- The last report of a wait. -/
def closing (description : String) : Except Timeout Unit → Event
  | .ok () => .success description
  | .error _ => .failure description

/-- A wait: the report at the beginning, the attempts, and the report at the end. -/
inductive Waited (describe : C → String) (max : Nat) (condition : C) :
    Log C → Except Timeout Unit → Prop
  | intro {log : Log C} {found : Bool}
      (attempted : Attempted condition (describe condition) {} max log found) :
      Waited describe max condition
        (between (.start (describe condition))
          (closing (describe condition) (outcome (describe condition) max found)) log)
        (outcome (describe condition) max found)

theorem branch_wait_iff {describe : C → String} {max : Nat} {condition : C} {log : Log C}
    {result : Except Timeout Unit} :
    (wait describe max condition).Branch log result ↔ Waited describe max condition log result := by
  constructor
  · intro h
    cases h with
    | ask answer rest =>
      simp only [done_bind] at rest
      obtain ⟨middle, found, last, hattempts, hlast, rfl⟩ := branch_bind_iff.mp rest
      have attempted := branch_attempts_iff.mp hattempts
      cases found with
      | true =>
        cases hlast with
        | ask answer rest =>
          cases rest with
          | done => exact .intro attempted
      | false =>
        cases hlast with
        | ask answer rest =>
          cases rest with
          | done => exact .intro attempted
  · intro h
    cases h with
    | @intro log found attempted =>
      rw [wait]
      refine .ask _ ?_
      simp only [done_bind]
      refine branch_bind_iff.mpr ⟨_, found, _, branch_attempts_iff.mpr attempted, ?_, rfl⟩
      cases found with
      | true => exact .ask _ (.done _)
      | false => exact .ask _ (.done _)

end MeshControl.Wait
