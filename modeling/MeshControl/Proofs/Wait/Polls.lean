import Mathlib.Data.List.Destutter
import Mathlib.Data.List.ReduceOption
import MeshControl.Proofs.Wait.History

/-!
# How a wait goes

A wait ends at the first poll that succeeds and whose check says yes, or after all its attempts; it
pauses between two polls and at no other time; and what it reports on the way is the row of the
texts of the polls that were not yet enough, each run of equal texts told once.

* `polls`, `checks`, `looks`, `elapsed`, `events`: what a log holds.
* `Regular`: the laws of a wait on its log and its result.
* `wait_regular`: every wait is regular, whatever its surroundings answer.

The texts that an observer lets pass are those that `List.destutter` keeps (`news_eq_destutter`):
the invariant of the attempts is stated for an observer in any state (`Attempted.events_eq`),
because a poll that fails leaves the observer as it is.
-/

namespace MeshControl.Wait

open Dialogue MeshControl.Daemon

namespace Observer

variable {α : Type} [DecidableEq α]

/-- The values of a row that are news to an observer. -/
def news (o : Observer α) : List α → List α
  | [] => []
  | value :: rest =>
    if o.last? = some value then news ⟨some value⟩ rest else value :: news ⟨some value⟩ rest

/-- What is news to an observer that has seen a value is what `List.destutter'` keeps behind it. -/
theorem cons_news_some (a : α) (l : List α) : a :: news ⟨some a⟩ l = l.destutter' (· ≠ ·) a := by
  induction l generalizing a with
  | nil => rfl
  | cons b l ih =>
    rw [news]
    by_cases h : a = b
    · rw [if_pos (congrArg some h), List.destutter'_cons_neg l (not_not.mpr h), ← ih, h]
    · rw [if_neg fun hab => h (Option.some.inj hab), List.destutter'_cons_pos l h, ← ih]

/-- **Each run is told once.**  What is news to a fresh observer is the first of each run of equal
values. -/
theorem news_eq_destutter (l : List α) : news {} l = l.destutter (· ≠ ·) := by
  cases l with
  | nil => rfl
  | cons a l => rw [news, if_neg nofun, cons_news_some, List.destutter_cons']

end Observer

variable {C : Type}

/-! ### What a log holds -/

/-- The answers to polls. -/
def polls (log : Log C) : List (Option Snapshot) :=
  log.filterMap fun
    | ⟨.poll, answer⟩ => some answer
    | _ => none

/-- What was checked, and on which snapshot. -/
def checks (log : Log C) : List (C × Snapshot) :=
  log.filterMap fun
    | ⟨.check condition snapshot, _⟩ => some (condition, snapshot)
    | _ => none

/-- What each attempt saw: nothing if the poll failed, otherwise the verdict of the check. -/
def looks (log : Log C) : List (Option Verdict) :=
  log.filterMap fun
    | ⟨.poll, none⟩ => some none
    | ⟨.check _ _, verdict⟩ => some (some verdict)
    | _ => none

/-- The time that passed, where a pause lasts for an interval and nothing else takes time. -/
def elapsed (interval : Nat) : Log C → Nat
  | [] => 0
  | ⟨.pause, _⟩ :: rest => interval + elapsed interval rest
  | _ :: rest => elapsed interval rest

/-- What was reported. -/
def events (log : Log C) : List Event :=
  log.filterMap fun
    | ⟨.report event, _⟩ => some event
    | _ => none

/-- Whether an attempt was enough: the poll succeeded and the check said yes. -/
def isEnough (look : Option Verdict) : Bool :=
  look.any (·.isDone)

/-- The texts of the attempts whose poll succeeded and whose check said no. -/
def pendingTexts (description : String) (looks : List (Option Verdict)) : List String :=
  looks.filterMap fun look =>
    (look.filter (!·.isDone)).map fun verdict => pendingText description verdict.hint

/-- The laws of a wait. -/
structure Regular (description : String) (max : Nat) (condition : C) (log : Log C)
    (result : Except Timeout Unit) : Prop where
  /-- Each poll that succeeded is followed by one check, of the condition on the snapshot that it
  gave. -/
  checks_eq : checks log = (polls log).reduceOption.map fun snapshot => (condition, snapshot)
  /-- An attempt saw something if and only if its poll succeeded. -/
  looks_isSome : (looks log).map Option.isSome = (polls log).map Option.isSome
  /-- There are no more polls than allowed. -/
  length_polls : (polls log).length ≤ max
  /-- The wait succeeds if and only if the last attempt was enough; no earlier one was. -/
  ok_iff : result = .ok () ↔ ∃ earlier verdict, looks log = earlier ++ [some verdict] ∧
    verdict.isDone = true ∧ ∀ look ∈ earlier, isEnough look = false
  /-- It is given up if and only if all attempts were made and none was enough. -/
  error_iff : ∀ timeout, result = .error timeout ↔ timeout = ⟨description, max⟩ ∧
    (polls log).length = max ∧ ∀ look ∈ looks log, isEnough look = false
  /-- There is a pause of one interval between two polls. -/
  elapsed_eq : ∀ interval, elapsed interval log = ((polls log).length - 1) * interval
  /-- The reports are the start, each run of equal texts once, and the end. -/
  events_eq : events log = .start description ::
    (((pendingTexts description (looks log)).destutter (· ≠ ·)).map .update ++
      [closing description result])
  /-- Nothing is asked after the last report. -/
  getLast?_eq : log.getLast? = some ⟨.report (closing description result), ()⟩

/-! ### What one attempt adds -/

section Attempt

variable {β : Type} {left : Nat} {rest : Log C} {o : Observer String} {text : String}
  {condition : C} {snapshot : Snapshot} {verdict : Verdict}

/-- A pause does not show where it is not looked for. -/
theorem filterMap_afterPause {f : Exchange (Call C) Call.Answer → Option β}
    (h : f ⟨.pause, ()⟩ = none) : (afterPause left rest).filterMap f = rest.filterMap f := by
  rw [afterPause]
  split_ifs
  · rfl
  · rw [List.filterMap_cons_none h]

/-- A report does not show where it is not looked for. -/
theorem filterMap_reportIfNew {f : Exchange (Call C) Call.Answer → Option β}
    (h : f ⟨.report (.update text), ()⟩ = none) : (reportIfNew o text).filterMap f = [] := by
  rw [reportIfNew]
  split_ifs
  · rfl
  · rw [List.filterMap_cons_none h, List.filterMap_nil]

theorem polls_unread : polls (⟨.poll, none⟩ :: afterPause left rest) = none :: polls rest :=
  congrArg (none :: ·) (filterMap_afterPause rfl)

theorem polls_pending :
    polls (⟨.poll, some snapshot⟩ :: ⟨.check condition snapshot, verdict⟩ ::
      (reportIfNew o text ++ afterPause left rest)) = some snapshot :: polls rest := by
  refine congrArg (some snapshot :: ·) ?_
  rw [List.filterMap_cons_none rfl, List.filterMap_append, filterMap_reportIfNew rfl,
    filterMap_afterPause rfl, List.nil_append, polls]

theorem checks_unread : checks (⟨.poll, none⟩ :: afterPause left rest) = checks rest :=
  filterMap_afterPause rfl

theorem checks_pending :
    checks (⟨.poll, some snapshot⟩ :: ⟨.check condition snapshot, verdict⟩ ::
      (reportIfNew o text ++ afterPause left rest)) = (condition, snapshot) :: checks rest := by
  refine congrArg ((condition, snapshot) :: ·) ?_
  rw [List.filterMap_append, filterMap_reportIfNew rfl, filterMap_afterPause rfl, List.nil_append,
    checks]

theorem looks_unread : looks (⟨.poll, none⟩ :: afterPause left rest) = none :: looks rest :=
  congrArg (none :: ·) (filterMap_afterPause rfl)

theorem looks_pending :
    looks (⟨.poll, some snapshot⟩ :: ⟨.check condition snapshot, verdict⟩ ::
      (reportIfNew o text ++ afterPause left rest)) = some verdict :: looks rest := by
  refine congrArg (some verdict :: ·) ?_
  rw [List.filterMap_append, filterMap_reportIfNew rfl, filterMap_afterPause rfl, List.nil_append,
    looks]

theorem events_unread : events (⟨.poll, none⟩ :: afterPause left rest) = events rest :=
  filterMap_afterPause rfl

theorem events_pending :
    events (⟨.poll, some snapshot⟩ :: ⟨.check condition snapshot, verdict⟩ ::
      (reportIfNew o text ++ afterPause left rest)) =
      (if o.last? = some text then [] else [.update text]) ++ events rest := by
  have hreport : events (reportIfNew o text : Log C) =
      if o.last? = some text then [] else [.update text] := by
    rw [reportIfNew]
    split_ifs <;> rfl
  rw [← hreport, events, List.filterMap_cons_none rfl, List.filterMap_cons_none rfl,
    List.filterMap_append, filterMap_afterPause rfl, events, events]

theorem elapsed_append (interval : Nat) (first second : Log C) :
    elapsed interval (first ++ second) = elapsed interval first + elapsed interval second := by
  induction first with
  | nil => exact (Nat.zero_add _).symm
  | cons x rest ih =>
    obtain ⟨_ | _ | _ | _, answer⟩ := x
    · exact ih
    · exact ih
    · show interval + elapsed interval (rest ++ second) = interval + elapsed interval rest + _
      rw [ih, Nat.add_assoc]
    · exact ih

theorem elapsed_afterPause (interval : Nat) :
    elapsed interval (afterPause left rest) =
      (if left = 0 then 0 else interval) + elapsed interval rest := by
  rw [afterPause]
  split_ifs
  · rw [Nat.zero_add]
  · rfl

theorem elapsed_unread (interval : Nat) :
    elapsed interval (⟨.poll, none⟩ :: afterPause left rest) =
      (if left = 0 then 0 else interval) + elapsed interval rest := by
  rw [← elapsed_afterPause]
  rfl

theorem elapsed_pending (interval : Nat) :
    elapsed interval (⟨.poll, some snapshot⟩ :: ⟨.check condition snapshot, verdict⟩ ::
      (reportIfNew o text ++ afterPause left rest)) =
      (if left = 0 then 0 else interval) + elapsed interval rest := by
  have hreport : elapsed interval (reportIfNew o text : Log C) = 0 := by
    rw [reportIfNew]
    split_ifs <;> rfl
  rw [← elapsed_afterPause, ← Nat.zero_add (elapsed interval (afterPause left rest)), ← hreport,
    ← elapsed_append]
  rfl

end Attempt

/-! ### So many attempts -/

namespace Attempted

variable {condition : C} {description : String} {o : Observer String} {n : Nat} {log : Log C}
  {found : Bool}

theorem checks_eq (h : Attempted condition description o n log found) :
    checks log = (polls log).reduceOption.map fun snapshot => (condition, snapshot) := by
  induction h with
  | spent o => rfl
  | unread o next ih => rw [checks_unread, polls_unread, ih, List.reduceOption_cons_of_none]
  | found o left snapshot verdict done => rfl
  | pending o snapshot verdict notDone next ih =>
    rw [checks_pending, polls_pending, ih, List.reduceOption_cons_of_some, List.map_cons]

theorem looks_isSome (h : Attempted condition description o n log found) :
    (looks log).map Option.isSome = (polls log).map Option.isSome := by
  induction h with
  | spent o => rfl
  | unread o next ih =>
    rw [looks_unread, polls_unread, List.map_cons, List.map_cons, ih]
    rfl
  | found o left snapshot verdict done => rfl
  | pending o snapshot verdict notDone next ih =>
    rw [looks_pending, polls_pending, List.map_cons, List.map_cons, ih]
    rfl

/-- There is an attempt if one is left. -/
theorem polls_ne_nil (h : Attempted condition description o n log found) (hn : n ≠ 0) :
    polls log ≠ [] := by
  cases h with
  | spent => exact absurd rfl hn
  | unread _ next =>
    rw [polls_unread]
    exact List.cons_ne_nil _ _
  | found _ left snapshot verdict done => exact List.cons_ne_nil _ _
  | pending _ snapshot verdict notDone next =>
    rw [polls_pending]
    exact List.cons_ne_nil _ _

theorem length_polls_le (h : Attempted condition description o n log found) :
    (polls log).length ≤ n := by
  induction h with
  | spent o => exact Nat.le_refl 0
  | unread o next ih =>
    rw [polls_unread]
    exact Nat.succ_le_succ ih
  | found o left snapshot verdict done => exact Nat.succ_le_succ (Nat.zero_le left)
  | pending o snapshot verdict notDone next ih =>
    rw [polls_pending]
    exact Nat.succ_le_succ ih

/-- Attempts that were in vain are all the attempts that were left. -/
theorem length_polls_eq (h : Attempted condition description o n log found) (vain : found = false) :
    (polls log).length = n := by
  induction h with
  | spent o => rfl
  | unread o next ih => rw [polls_unread, List.length_cons, ih vain]
  | found o left snapshot verdict done => cases vain
  | pending o snapshot verdict notDone next ih => rw [polls_pending, List.length_cons, ih vain]

/-- No attempt of those that were in vain was enough. -/
theorem not_isEnough (h : Attempted condition description o n log found) (vain : found = false) :
    ∀ look ∈ looks log, isEnough look = false := by
  induction h with
  | spent o => exact nofun
  | unread o next ih =>
    rw [looks_unread]
    exact List.forall_mem_cons.mpr ⟨rfl, ih vain⟩
  | found o left snapshot verdict done => cases vain
  | pending o snapshot verdict notDone next ih =>
    rw [looks_pending]
    exact List.forall_mem_cons.mpr ⟨notDone, ih vain⟩

/-- Attempts that were not in vain end with the first that was enough. -/
theorem exists_looks_eq (h : Attempted condition description o n log found)
    (hfound : found = true) :
    ∃ earlier verdict, looks log = earlier ++ [some verdict] ∧ verdict.isDone = true ∧
      ∀ look ∈ earlier, isEnough look = false := by
  induction h with
  | spent o => cases hfound
  | unread o next ih =>
    obtain ⟨earlier, verdict, heq, hdone, hearlier⟩ := ih hfound
    rw [looks_unread, heq]
    exact ⟨none :: earlier, verdict, rfl, hdone, List.forall_mem_cons.mpr ⟨rfl, hearlier⟩⟩
  | found o left snapshot verdict done => exact ⟨[], verdict, rfl, done, nofun⟩
  | pending o snapshot verdict notDone next ih =>
    obtain ⟨earlier, last, heq, hdone, hearlier⟩ := ih hfound
    rw [looks_pending, heq]
    exact ⟨some verdict :: earlier, last, rfl, hdone, List.forall_mem_cons.mpr ⟨notDone, hearlier⟩⟩

/-- One interval more for one attempt more, unless it is the last one. -/
theorem elapsed_step (h : Attempted condition description o n log found) (interval : Nat) :
    (if n = 0 then 0 else interval) + ((polls log).length - 1) * interval =
      (polls log).length * interval := by
  by_cases hn : n = 0
  · have hlength : (polls log).length = 0 := Nat.le_zero.mp (hn ▸ h.length_polls_le)
    rw [if_pos hn, hlength, Nat.zero_sub, Nat.zero_mul]
  · have hlength : 0 < (polls log).length := List.length_pos_iff.mpr (h.polls_ne_nil hn)
    rw [if_neg hn, Nat.add_comm, ← Nat.succ_mul, Nat.succ_eq_add_one, Nat.sub_add_cancel hlength]

/-- Between two attempts there is one interval. -/
theorem elapsed_eq (h : Attempted condition description o n log found) (interval : Nat) :
    elapsed interval log = ((polls log).length - 1) * interval := by
  induction h with
  | spent o => exact (Nat.zero_mul interval).symm
  | unread o next ih =>
    rw [elapsed_unread, ih, next.elapsed_step, polls_unread, List.length_cons, Nat.add_sub_cancel]
  | found o left snapshot verdict done => exact (Nat.zero_mul interval).symm
  | pending o snapshot verdict notDone next ih =>
    rw [elapsed_pending, ih, next.elapsed_step, polls_pending, List.length_cons, Nat.add_sub_cancel]

/-- What is reported is what is news to the observer. -/
theorem events_eq (h : Attempted condition description o n log found) :
    events log = (o.news (pendingTexts description (looks log))).map .update := by
  induction h with
  | spent o => rfl
  | unread o next ih =>
    rw [events_unread, looks_unread, ih]
    rfl
  | found o left snapshot verdict done =>
    have hnone : pendingTexts description [some verdict] = [] := by simp [pendingTexts, done]
    exact (congrArg (fun texts => (o.news texts).map Event.update) hnone).symm
  | pending o snapshot verdict notDone next ih =>
    have hcons : ∀ others, pendingTexts description (some verdict :: others) =
        pendingText description verdict.hint :: pendingTexts description others := by
      intro others
      simp [pendingTexts, notDone]
    -- the text is reported if the observer has not seen it last, and then it has
    rw [events_pending, looks_pending, hcons, Observer.news, ih]
    split_ifs <;> rfl

end Attempted

/-! ### A whole wait -/

section Between

variable {first last : Event} {log : Log C}

/-- Reports at both ends do not show where they are not looked for. -/
theorem filterMap_between {β : Type} {f : Exchange (Call C) Call.Answer → Option β}
    (hfirst : f ⟨.report first, ()⟩ = none) (hlast : f ⟨.report last, ()⟩ = none) :
    (between first last log).filterMap f = log.filterMap f := by
  rw [between, List.filterMap_cons_none hfirst, List.filterMap_append,
    List.filterMap_cons_none hlast, List.filterMap_nil, List.append_nil]

theorem polls_between : polls (between first last log) = polls log :=
  filterMap_between rfl rfl

theorem checks_between : checks (between first last log) = checks log :=
  filterMap_between rfl rfl

theorem looks_between : looks (between first last log) = looks log :=
  filterMap_between rfl rfl

theorem events_between : events (between first last log) = first :: (events log ++ [last]) := by
  refine congrArg (first :: ·) ?_
  rw [List.filterMap_append]
  rfl

theorem elapsed_between (interval : Nat) :
    elapsed interval (between first last log) = elapsed interval log := by
  have hfirst : elapsed interval [(⟨.report first, ()⟩ : Exchange (Call C) Call.Answer)] = 0 := rfl
  have hlast : elapsed interval [(⟨.report last, ()⟩ : Exchange (Call C) Call.Answer)] = 0 := rfl
  rw [between, ← List.singleton_append, elapsed_append, elapsed_append, hfirst, hlast, Nat.zero_add,
    Nat.add_zero]

theorem getLast?_between : (between first last log).getLast? = some ⟨.report last, ()⟩ := by
  rw [between, ← List.cons_append, List.getLast?_append]
  rfl

end Between

theorem Attempted.regular {condition : C} {description : String} {max : Nat} {log : Log C}
    {found : Bool} (h : Attempted condition description {} max log found) :
    Regular description max condition
      (between (.start description) (closing description (outcome description max found)) log)
      (outcome description max found) := by
  refine
    { checks_eq := by rw [checks_between, polls_between]; exact h.checks_eq
      looks_isSome := by rw [looks_between, polls_between]; exact h.looks_isSome
      length_polls := by rw [polls_between]; exact h.length_polls_le
      ok_iff := ?_
      error_iff := ?_
      elapsed_eq := fun interval => by
        rw [elapsed_between, polls_between]
        exact h.elapsed_eq interval
      events_eq := ?_
      getLast?_eq := getLast?_between }
  · rw [looks_between]
    cases found with
    | true => exact ⟨fun _ => h.exists_looks_eq rfl, fun _ => rfl⟩
    | false =>
      constructor
      · exact nofun
      · rintro ⟨earlier, verdict, heq, hdone, _⟩
        have hmem : some verdict ∈ looks log :=
          heq ▸ List.mem_append_right _ (List.mem_singleton_self _)
        exact absurd hdone (Bool.eq_false_iff.mp (h.not_isEnough rfl _ hmem))
  · rw [looks_between, polls_between]
    intro timeout
    cases found with
    | true =>
      obtain ⟨earlier, verdict, heq, hdone, _⟩ := h.exists_looks_eq rfl
      constructor
      · exact nofun
      · rintro ⟨_, _, hnone⟩
        have hmem : some verdict ∈ looks log :=
          heq ▸ List.mem_append_right _ (List.mem_singleton_self _)
        exact absurd hdone (Bool.eq_false_iff.mp (hnone _ hmem))
    | false =>
      constructor
      · intro heq
        exact ⟨(Except.error.inj heq).symm, h.length_polls_eq rfl, h.not_isEnough rfl⟩
      · rintro ⟨rfl, _⟩
        rfl
  · rw [events_between, looks_between, h.events_eq, Observer.news_eq_destutter]

theorem Waited.regular {describe : C → String} {max : Nat} {condition : C} {log : Log C}
    {result : Except Timeout Unit} (h : Waited describe max condition log result) :
    Regular (describe condition) max condition log result := by
  cases h with
  | intro attempted => exact attempted.regular

/-- **Every wait is regular**, whatever its surroundings answer, each time anew. -/
theorem wait_regular {σ : Type} (world : σ → (q : Call C) → q.Answer × σ) (s : σ)
    (describe : C → String) (max : Nat) (condition : C) :
    Regular (describe condition) max condition
      ((wait describe max condition).runLogged world s).2.2
      ((wait describe max condition).runLogged world s).1 :=
  (branch_wait_iff.mp (branch_runLogged world _ s)).regular

end MeshControl.Wait
