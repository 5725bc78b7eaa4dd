import MeshControl.Host.Machine
import MeshControl.Proofs.Host.Parts
import MeshControl.Proofs.Wait.Hosts
import MeshControl.Proofs.Wait.InTurn
import MeshControl.Wait.Polling

/-!
# What a wait shows

While a wait goes on it shows its description, and behind it what is still missing each time that it
changes.  The observer has not seen the description, so the first text that it lets pass is news
whatever it is: it repeats the description exactly if the first attempt that saw something missing
came without a hint.  No other two texts that are shown one behind the other are equal.

* `shown`: the texts that are shown, the description included.
* `Shows`: the laws of these texts.
* `Prints`: the lines of waits on a machine, and that they repeat where the texts do.
* `wait_shows_changes`: every wait keeps to these laws, and every machine that waits.
* `baseAny_shown_twice`: a wait that shows its description twice.
-/

namespace MeshControl.Wait

open Dialogue MeshControl.Daemon

variable {C : Type}

/-! ### The texts that are shown -/

/-- The text that an event shows while the wait goes on. -/
def Event.shown? : Event → Option String
  | .start text | .update text => some text
  | .success _ | .failure _ => none

/-- The texts that a wait has shown while it went on, one behind the other. -/
def shown (log : Log C) : List String :=
  (events log).filterMap Event.shown?

/-- The hint of the first attempt that saw something missing. -/
def firstHint? (looks : List (Option Verdict)) : Option String :=
  looks.findSome? fun look => (look.filter (!·.isDone)).map Verdict.hint

/-- The laws of the texts that a wait shows. -/
structure Shows (description : String) (log : Log C) : Prop where
  /-- The description is shown first. -/
  head?_eq : (shown log).head? = some description
  /-- Behind it no text is shown twice in a row. -/
  updates_change : (shown log).tail.IsChain (· ≠ ·)
  /-- No text at all is shown twice in a row, exactly if the first attempt that saw something missing
  had a hint. -/
  changes_iff : (shown log).IsChain (· ≠ ·) ↔ firstHint? (looks log) ≠ some ""

/-- What is shown without a hint is the description, and nothing else is. -/
theorem pendingText_eq_iff {description hint : String} :
    pendingText description hint = description ↔ hint = "" := by
  rw [pendingText]
  split_ifs with hempty
  · exact ⟨fun _ => String.isEmpty_iff.mp hempty, fun _ => rfl⟩
  · constructor
    · intro heq
      have hlength := congrArg String.length heq
      rw [String.length_append, String.length_append] at hlength
      have hspace : " ".length = 1 := rfl
      omega
    · intro hhint
      exact absurd (String.isEmpty_iff.mpr hhint) hempty

theorem head?_pendingTexts (description : String) (looks : List (Option Verdict)) :
    (pendingTexts description looks).head? = (firstHint? looks).map (pendingText description) := by
  rw [pendingTexts, List.head?_filterMap, firstHint?, List.map_findSome?]
  congr 1
  funext look
  rw [Function.comp_apply, Option.map_map]
  rfl

/-- A row without repetitions begins as the row that it was taken from. -/
theorem head?_destutter {α : Type} [DecidableEq α] (l : List α) :
    (l.destutter (· ≠ ·)).head? = l.head? := by
  cases l with
  | nil => rfl
  | cons a l => rw [List.destutter_cons', ← Observer.cons_news_some, List.head?_cons, List.head?_cons]

section Regular

variable {description : String} {max : Nat} {condition : C} {log : Log C}
  {result : Except Timeout Unit}

/-- The texts that a regular wait shows are its description and what the observer let pass. -/
theorem Regular.shown_eq (h : Regular description max condition log result) :
    shown log = description :: (pendingTexts description (looks log)).destutter (· ≠ ·) := by
  have hstart : Event.shown? (.start description) = some description := rfl
  have hupdates : ∀ texts : List String, (texts.map Event.update).filterMap Event.shown? = texts := by
    intro texts
    rw [List.filterMap_map]
    exact List.filterMap_some
  have hclosing : [closing description result].filterMap Event.shown? = [] := by
    rcases result with timeout | _ <;> rfl
  rw [shown, h.events_eq, List.filterMap_cons_some hstart, List.filterMap_append, hupdates, hclosing,
    List.append_nil]

theorem Regular.shows (h : Regular description max condition log result) :
    Shows description log := by
  have hupdates := (pendingTexts description (looks log)).isChain_destutter (· ≠ ·)
  refine ⟨?_, ?_, ?_⟩
  · rw [h.shown_eq, List.head?_cons]
  · rw [h.shown_eq, List.tail_cons]
    exact hupdates
  · -- only the description and the first text behind it can be equal
    rw [h.shown_eq, List.isChain_cons, and_iff_left hupdates, head?_destutter, head?_pendingTexts]
    cases firstHint? (looks log) with
    | none => simp
    | some hint => simp [eq_comm (a := description), pendingText_eq_iff]

/-- The lines of a regular wait: one for each text that it shows, and one for how it ends. -/
theorem Regular.lines_eq (h : Regular description max condition log result) :
    (events log).map Event.line =
      (shown log).map (· ++ "\n") ++ [(closing description result).line] := by
  rw [h.shown_eq, h.events_eq, List.map_cons, List.map_append, List.map_map]
  rfl

end Regular

/-- Lines are equal where their texts are. -/
theorem isChain_lines_iff (texts : List String) :
    (texts.map (· ++ "\n")).IsChain (· ≠ ·) ↔ texts.IsChain (· ≠ ·) := by
  rw [List.isChain_map]
  exact List.IsChain.iff fun _ _ => not_congr (String.append_left_inj "\n")

/-! ### Conditions with hints -/

/-- The conditions that say what is missing whenever they do not hold. -/
def Condition.hasHints : Condition → Bool
  | .daemonReachable | .host _ | .hostnames _ => true
  | .baseAny | .baseUdp | .websetup | .joined => false

/-- Every stage that is not reached has a hint. -/
theorem Condition.Judged.hint_ne_empty {reached : Condition.Stage → Prop}
    {stages : List Condition.Stage} {verdict : Verdict}
    (h : Condition.Judged reached stages verdict) (pending : verdict.isDone = false) :
    verdict.hint ≠ "" := by
  induction h with
  | done => cases pending
  | @unmet stage rest _ => cases stage <;> decide
  | met _ _ ih => exact ih pending

theorem Condition.hint_ne_empty {c : Condition} (h : c.hasHints = true) {s : Snapshot}
    (pending : (c.check s).isDone = false) : (c.check s).hint ≠ "" := by
  cases c with
  | daemonReachable => cases pending
  | host target => exact (judged_hostVerdict s _).hint_ne_empty pending
  | hostnames names =>
    rw [check, hostnamesVerdict] at pending ⊢
    split
    · rename_i missing _
      intro hempty
      have hlength := congrArg String.length hempty
      rw [Verdict.pending, String.length_append] at hlength
      have hhint : " is unavailable".length = 15 := rfl
      have hnone : "".length = 0 := rfl
      omega
    · rename_i hfind
      rw [hfind] at pending
      cases pending
  | baseAny => cases h
  | baseUdp => cases h
  | websetup => cases h
  | joined => cases h

/-! ### Waits on a machine -/

/-- What an exchange writes to standard output. -/
def written? : Exchange Host.Call Host.Call.Answer → Option String
  | ⟨.print text, _⟩ => some text
  | _ => none

/-- What a machine has written to standard output. -/
def printed (log : Host.Log) : List String :=
  log.filterMap written?

/-- What a wait on a machine writes while it goes on. -/
def Turn.waitingLines (turn : Turn Condition) : List String :=
  (shown turn.log).map (· ++ "\n")

/-- The laws of what a machine prints that waits for conditions; `made` are the waits that are made. -/
structure Prints (access : Access) (policy : Policy) (made : List (Turn Condition))
    (log : Host.Log) : Prop where
  /-- The machine answers what the waits ask. -/
  spelled : Spelled (answerCall access policy.interval) (made.flatMap Turn.log) log
  /-- For each wait it prints a line for each text that is shown, and one for how the wait ends. -/
  printed_eq : printed log = made.flatMap fun turn =>
    turn.waitingLines ++ [(closing turn.condition.description turn.result).line]
  shows : ∀ turn ∈ made, Shows turn.condition.description turn.log
  /-- No line of a wait is printed twice in a row, exactly if the first attempt that saw something
  missing had a hint. -/
  lines_change_iff : ∀ turn ∈ made,
    turn.waitingLines.IsChain (· ≠ ·) ↔ firstHint? (looks turn.log) ≠ some ""
  /-- No line is for conditions that have hints. -/
  lines_change : ∀ turn ∈ made, turn.condition.hasHints = true →
    turn.waitingLines.IsChain (· ≠ ·)

section Machine

variable {access : Access} {interval : Nat}

/-- To poll the daemon writes nothing. -/
theorem printed_of_poll {log : Host.Log} {answer : Option Snapshot}
    (h : (answerCall access interval .poll).Branch log answer) : printed log = [] := by
  have hlink : ∀ q : Link.Call,
      Minds (fun _ => False) (fun x => (written? x).isSome = true) (access.answerLink q) := by
    intro q
    cases q with
    | secret => exact Host.minds_onFiles lasting_false (fun _ _ => Bool.false_ne_true) _
    | send request => exact minds_query fun _ => Bool.false_ne_true
  have hpoll : Minds (fun _ => False) (fun x => (written? x).isSome = true)
      (answerCall access interval .poll) :=
    (minds_answerWith lasting_false hlink _).bind_all lasting_false fun _ => minds_done _
  refine List.filterMap_eq_nil_iff.mpr fun x hx => ?_
  exact Option.not_isSome_iff_eq_none.mp ((hpoll _ _ h).idle lasting_false id x hx)

/-- A machine prints the lines of what is reported, and nothing else. -/
theorem printed_of_spelled {outer : Log Condition} {log : Host.Log}
    (h : Spelled (answerCall access interval) outer log) :
    printed log = (events outer).map Event.line := by
  induction h with
  | nil => rfl
  | @cons question answer first rest outer head tail ih =>
    rw [printed, List.filterMap_append, ← printed, ← printed, ih]
    cases question with
    | poll =>
      rw [printed_of_poll head]
      rfl
    | check condition snapshot =>
      obtain ⟨rfl, -⟩ := branch_done_iff.mp head
      rfl
    | pause =>
      obtain rfl := branch_query_iff.mp head
      rfl
    | report event =>
      obtain rfl := branch_query_iff.mp head
      rfl

/-- A check on a machine is answered with what its condition says. -/
theorem eq_check_of_spelled {outer : Log Condition} {log : Host.Log}
    (h : Spelled (answerCall access interval) outer log) {condition : Condition}
    {snapshot : Snapshot} {verdict : Verdict}
    (hmem : ⟨.check condition snapshot, verdict⟩ ∈ outer) : verdict = condition.check snapshot := by
  obtain ⟨part, hpart, -⟩ := h.exists_part hmem
  exact (branch_done_iff.mp hpart).2

end Machine

/-- A hint comes from a check. -/
theorem exists_check_of_firstHint? {log : Log C} {hint : String}
    (h : firstHint? (looks log) = some hint) : ∃ condition snapshot verdict,
      ⟨.check condition snapshot, verdict⟩ ∈ log ∧ verdict.isDone = false ∧ verdict.hint = hint := by
  obtain ⟨look, hlook, hhint⟩ := List.exists_of_findSome?_eq_some h
  obtain ⟨verdict, hverdict, rfl⟩ := Option.map_eq_some_iff.mp hhint
  obtain ⟨rfl, hpending⟩ := Option.filter_eq_some_iff.mp hverdict
  obtain ⟨⟨question, answer⟩, hmem, hlooked⟩ := List.mem_filterMap.mp hlook
  cases question with
  | poll =>
    cases answer with
    | none => cases hlooked
    | some snapshot => cases hlooked
  | check condition snapshot =>
    cases hlooked
    exact ⟨condition, snapshot, verdict, hmem, by simpa using hpending, rfl⟩
  | pause => cases hlooked
  | report event => cases hlooked

/-- What is asked in waits for conditions is what is asked in a wait for each of the first ones. -/
theorem exists_turns_of_branch {describe : C → String} {max : Nat} {conditions : List C}
    {log : Log C} {result : Except Timeout Unit}
    (h : (waitAll describe max conditions).Branch log result) : ∃ made : List (Turn C),
      made.map Turn.condition <+: conditions ∧ log = made.flatMap Turn.log ∧
        ∀ turn ∈ made, Waited describe max turn.condition turn.log turn.result := by
  induction conditions generalizing log with
  | nil =>
    obtain ⟨rfl, -⟩ := branch_done_iff.mp h
    exact ⟨[], List.prefix_refl [], rfl, nofun⟩
  | cons condition conditions ih =>
    rw [waitAll, bind_eq] at h
    obtain ⟨first, outcome, rest, hwait, hrest, rfl⟩ := branch_bind_iff.mp h
    have waited := branch_wait_iff.mp hwait
    cases outcome with
    | error timeout =>
      obtain ⟨rfl, -⟩ := branch_done_iff.mp hrest
      refine ⟨[⟨condition, .error timeout, first⟩], ?_, by simp, by simpa using waited⟩
      exact List.cons_prefix_cons.mpr ⟨rfl, List.nil_prefix⟩
    | ok _ =>
      obtain ⟨made, hprefix, rfl, hmade⟩ := ih hrest
      refine ⟨⟨condition, .ok (), first⟩ :: made, ?_, rfl, List.forall_mem_cons.mpr ⟨waited, hmade⟩⟩
      exact List.cons_prefix_cons.mpr ⟨rfl, hprefix⟩

/-- What is shown for a condition with hints changes. -/
theorem firstHint?_ne_of_hasHints {access : Access} {interval : Nat} {made : List (Turn Condition)}
    {log : Host.Log} (h : Spelled (answerCall access interval) (made.flatMap Turn.log) log)
    {turn : Turn Condition} (hturn : turn ∈ made)
    {max : Nat} (regular : Regular turn.condition.description max turn.condition turn.log turn.result)
    (hhints : turn.condition.hasHints = true) : firstHint? (looks turn.log) ≠ some "" := by
  intro hbare
  obtain ⟨condition, snapshot, verdict, hmem, hpending, hhint⟩ := exists_check_of_firstHint? hbare
  -- it is the condition of the wait that was checked
  have hchecked : (condition, snapshot) ∈ checks turn.log :=
    List.mem_filterMap.mpr ⟨_, hmem, rfl⟩
  rw [regular.checks_eq] at hchecked
  obtain ⟨_, -, heq⟩ := List.mem_map.mp hchecked
  cases heq
  obtain rfl := eq_check_of_spelled h (List.mem_flatMap.mpr ⟨turn, hturn, hmem⟩)
  exact Condition.hint_ne_empty hhints hpending hhint

theorem exists_prints {access : Access} {policy : Policy} {conditions : List Condition}
    {log : Host.Log} {result : Except Timeout Unit}
    (h : (onHost access policy conditions).Branch log result) : ∃ made : List (Turn Condition),
      made.map Turn.condition <+: conditions ∧ Prints access policy made log := by
  obtain ⟨outer, houter, hspelled⟩ := branch_answerWith_iff.mp h
  obtain ⟨made, hprefix, rfl, hmade⟩ := exists_turns_of_branch houter
  have hregular : ∀ turn ∈ made, Regular turn.condition.description policy.attempts turn.condition
      turn.log turn.result := fun turn hturn => (hmade turn hturn).regular
  have hlines : ∀ turn ∈ made,
      turn.waitingLines.IsChain (· ≠ ·) ↔ firstHint? (looks turn.log) ≠ some "" := by
    intro turn hturn
    rw [Turn.waitingLines, isChain_lines_iff]
    exact (hregular turn hturn).shows.changes_iff
  refine ⟨made, hprefix, hspelled, ?_, ?_, hlines, ?_⟩
  · rw [printed_of_spelled hspelled, events_flatMap, List.map_flatMap]
    exact List.flatMap_congr fun turn hturn => (hregular turn hturn).lines_eq
  · exact fun turn hturn => (hregular turn hturn).shows
  · intro turn hturn hhints
    exact (hlines turn hturn).mpr
      (firstHint?_ne_of_hasHints hspelled hturn (hregular turn hturn) hhints)

/-- **What a wait shows changes**, but for the beginning.  Whatever its surroundings answer, a wait
shows its description first and then no text twice in a row; the first of these texts is the
description again exactly if the first attempt that saw something missing came without a hint.  A
machine prints the texts of its waits line by line, so the same holds of its lines, and those of
waits for conditions that have hints always change. -/
theorem wait_shows_changes {σ τ : Type} (world : σ → (q : Call C) → q.Answer × σ) (s : σ)
    (describe : C → String) (max : Nat) (condition : C)
    (machine : τ → (q : Host.Call) → q.Answer × τ) (t : τ) (access : Access) (policy : Policy)
    (conditions : List Condition) :
    Shows (describe condition) ((wait describe max condition).runLogged world s).2.2 ∧
    ∃ made : List (Turn Condition), made.map Turn.condition <+: conditions ∧
      Prints access policy made ((onHost access policy conditions).runLogged machine t).2.2 :=
  ⟨(branch_wait_iff.mp (branch_runLogged world _ s)).regular.shows,
    exists_prints (branch_runLogged machine _ t)⟩

/-! ### Waits with and without hints -/

/-- A machine whose daemon reports an empty state. -/
def idleMachine : Host.Machine where
  network := {
    answers := [.ok ⟨200, Text.Utf8.encode "\x7b\"status\":\"success\",\"result\":\x7b\x7d\x7d"⟩] }

/-- The log of a wait on that machine, for two attempts at the most. -/
def idleLog (condition : Condition) : Host.Log :=
  ((onHost ⟨⟨"http://[::1]:16216"⟩, none, ""⟩ ⟨1000, 2⟩ [condition]).runLogged
    Host.Machine.answer idleMachine).2.2

/-- What a wait shows of two empty states. -/
def shownOfEmpty (condition : Condition) : List String :=
  shown ((wait Condition.description 2 condition).runLogged (polling listed) [some {}, some {}]).2.2

/-- A wait with a hint shows its description, and then the hint once. -/
theorem wait_shows_changes_host :
    printed (idleLog (.host "peer")) =
      ["Waiting until there's a connection to peer…\n",
        "Waiting until there's a connection to peer… not enough hosts in the host table yet\n",
        Terminal.failureLine "Waiting until there's a connection to peer…"] ∧
    (shownOfEmpty (.host "peer")).IsChain (· ≠ ·) ∧
    ∃ made, made.map Turn.condition <+: [.host "peer"] ∧
      Prints ⟨⟨"http://[::1]:16216"⟩, none, ""⟩ ⟨1000, 2⟩ made (idleLog (.host "peer")) := by
  obtain ⟨hshows, hprints⟩ := wait_shows_changes (polling listed) [some {}, some {}]
    Condition.description 2 (.host "peer") Host.Machine.answer idleMachine
    ⟨⟨"http://[::1]:16216"⟩, none, ""⟩ ⟨1000, 2⟩ [.host "peer"]
  exact ⟨by decide +kernel, hshows.changes_iff.mpr (by decide +kernel), hprints⟩

/-- A wait without a hint shows its description twice, and a machine prints it twice in a row. -/
theorem baseAny_shown_twice :
    shownOfEmpty .baseAny = [Condition.description .baseAny, Condition.description .baseAny] ∧
    ¬(shownOfEmpty .baseAny).IsChain (· ≠ ·) ∧
    printed (idleLog .baseAny) =
      ["Waiting for Base server connection (any protocol)…\n",
        "Waiting for Base server connection (any protocol)…\n",
        Terminal.failureLine "Waiting for Base server connection (any protocol)…"] := by
  have htwice : shownOfEmpty .baseAny =
      [Condition.description .baseAny, Condition.description .baseAny] := by
    decide +kernel
  refine ⟨htwice, ?_, by decide +kernel⟩
  rw [htwice]
  simp

end MeshControl.Wait
