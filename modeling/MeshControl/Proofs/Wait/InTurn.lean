import Mathlib.Algebra.Order.BigOperators.Group.List
import Mathlib.Algebra.Order.Ring.Nat
import MeshControl.Proofs.Wait.Polls

/-!
# Waits one after another

Waiting for several conditions is waiting for each of them in turn.  The surroundings go on from one
wait to the next: where one stops polling the next begins, with all its attempts and an observer that
has seen nothing.  The first wait that is given up is the last one that is made.

* `turns`: the waits for all conditions, each from where the one before left the surroundings,
  whatever became of it.
* `Made`: which of them are made, and what they come to.
* `InTurn`: the laws of waiting for several conditions, as a structure on the waits, the log and the
  result.
* `waitAll_in_turn`: they hold of every run, and the lists of conditions that commands wait for are
  seen to hold at later and later polls.

All totals are read off one equation: the log is what the waits that were made have asked, one behind
the other (`exists_made`).
-/

namespace MeshControl.Wait

open Dialogue MeshControl.Daemon

variable {C σ : Type}

/-- A wait for a condition: what it came to and what was asked in it. -/
structure Turn (C : Type) where
  condition : C
  result : Except Timeout Unit
  log : Log C

/-- The waits for conditions one after another, each from where the one before left the surroundings,
whatever became of it. -/
def turns (world : σ → (q : Call C) → q.Answer × σ) (describe : C → String) (max : Nat) :
    σ → List C → List (Turn C)
  | _, [] => []
  | s, condition :: rest =>
    let (result, after, log) := (wait describe max condition).runLogged world s
    ⟨condition, result, log⟩ :: turns world describe max after rest

/-- Which of the waits for several conditions are made, and what they come to: all of them up to the
first that is given up. -/
inductive Made : List (Turn C) → List (Turn C) → Except Timeout Unit → Prop
  | nothing : Made [] [] (.ok ())
  | givenUp (turn : Turn C) (timeout : Timeout) (failed : turn.result = .error timeout)
      (later : List (Turn C)) : Made (turn :: later) [turn] (.error timeout)
  | next (turn : Turn C) (succeeded : turn.result = .ok ()) {all made : List (Turn C)}
      {result : Except Timeout Unit} (rest : Made all made result) :
      Made (turn :: all) (turn :: made) result

/-- Conditions were seen to hold, each at a later poll than the one before: the snapshots at which they
were stand among the answers to the polls in this order. -/
def SeenInTurn (conditions : List C) (log : Log C) : Prop :=
  ∃ seen : List Snapshot, (seen.map some).Sublist (polls log) ∧
    List.Forall₂ (fun condition snapshot => ∃ verdict,
      ⟨.check condition snapshot, verdict⟩ ∈ log ∧ verdict.isDone = true) conditions seen

/-- The laws of waiting for several conditions: `all` are the waits for all of them and `made` those
that are made. -/
structure InTurn (describe : C → String) (max : Nat) (all made : List (Turn C)) (log : Log C)
    (result : Except Timeout Unit) : Prop where
  /-- The waits that are made come first, and nothing is asked but what they ask. -/
  made_prefix : made <+: all
  log_eq : log = made.flatMap Turn.log
  /-- All waits succeed if and only if the whole does, and then all of them are made. -/
  ok_iff : result = .ok () ↔ ∀ turn ∈ all, turn.result = .ok ()
  made_of_ok : result = .ok () → made = all
  /-- The whole is given up if and only if a wait is given up behind others that succeeded; it is the
  last one that is made. -/
  error_iff : ∀ timeout, result = .error timeout ↔ ∃ earlier last, made = earlier ++ [last] ∧
    (∀ turn ∈ earlier, turn.result = .ok ()) ∧ last.result = .error timeout
  /-- Each wait keeps the laws of a wait, with all the attempts and with reports of its own. -/
  regular : ∀ turn ∈ made, Regular (describe turn.condition) max turn.condition turn.log turn.result
  /-- It begins with the report of its start and a poll, so there is no pause before that. -/
  opening : max ≠ 0 → ∀ turn ∈ made, ∃ answer rest,
    turn.log = ⟨.report (.start (describe turn.condition)), ()⟩ :: ⟨.poll, answer⟩ :: rest
  /-- The reports are those of the waits, one behind the other. -/
  events_eq : events log = made.flatMap fun turn => events turn.log
  /-- The polls add up, and each wait that is made has so many at the most. -/
  length_polls_eq : (polls log).length = (made.map fun turn => (polls turn.log).length).sum
  length_polls_le : (polls log).length ≤ made.length * max
  /-- There is a pause of one interval between two polls of one wait, and no other. -/
  elapsed_eq : ∀ interval, elapsed interval log =
    (made.map fun turn => ((polls turn.log).length - 1) * interval).sum
  /-- If the whole succeeds, the conditions were seen to hold in their order. -/
  seen : result = .ok () → SeenInTurn (all.map Turn.condition) log

/-! ### One wait -/

section One

variable {condition : C} {description : String} {describe : C → String} {max : Nat}
  {o : Observer String} {n : Nat} {log : Log C} {found : Bool}

/-- The first thing that is asked in attempts is a poll. -/
theorem Attempted.exists_eq_cons (h : Attempted condition description o n log found) (hn : n ≠ 0) :
    ∃ answer rest, log = ⟨.poll, answer⟩ :: rest := by
  cases h with
  | spent => exact absurd rfl hn
  | unread _ next => exact ⟨none, _, rfl⟩
  | found _ left snapshot verdict done => exact ⟨some snapshot, _, rfl⟩
  | pending _ snapshot verdict notDone next => exact ⟨some snapshot, _, rfl⟩

theorem mem_afterPause {x : Exchange (Call C) Call.Answer} (h : x ∈ log) : x ∈ afterPause n log := by
  unfold afterPause
  split
  · exact h
  · exact List.mem_cons_of_mem _ h

/-- Attempts that were not in vain end with a poll at whose snapshot the condition was seen to hold. -/
theorem Attempted.exists_seen (h : Attempted condition description o n log found)
    (hfound : found = true) : ∃ earlier snapshot verdict, polls log = earlier ++ [some snapshot] ∧
      ⟨.check condition snapshot, verdict⟩ ∈ log ∧ verdict.isDone = true := by
  induction h with
  | spent => cases hfound
  | unread o next ih =>
    obtain ⟨earlier, snapshot, verdict, hpolls, hmem, hdone⟩ := ih hfound
    refine ⟨none :: earlier, snapshot, verdict, ?_, ?_, hdone⟩
    · rw [polls_unread, hpolls, List.cons_append]
    · exact List.mem_cons_of_mem _ (mem_afterPause hmem)
  | found o left snapshot verdict done => exact ⟨[], snapshot, verdict, rfl, by simp, done⟩
  | pending o first verdict notDone next ih =>
    obtain ⟨earlier, snapshot, last, hpolls, hmem, hdone⟩ := ih hfound
    refine ⟨some first :: earlier, snapshot, last, ?_, ?_, hdone⟩
    · rw [polls_pending, hpolls, List.cons_append]
    · simp [mem_afterPause hmem]

theorem Waited.exists_eq_cons {result : Except Timeout Unit}
    (h : Waited describe max condition log result) (hmax : max ≠ 0) :
    ∃ answer rest, log = ⟨.report (.start (describe condition)), ()⟩ :: ⟨.poll, answer⟩ :: rest := by
  cases h with
  | intro attempted =>
    obtain ⟨answer, rest, rfl⟩ := attempted.exists_eq_cons hmax
    exact ⟨answer, _, rfl⟩

theorem Waited.exists_seen (h : Waited describe max condition log (.ok ())) :
    ∃ earlier snapshot verdict, polls log = earlier ++ [some snapshot] ∧
      ⟨.check condition snapshot, verdict⟩ ∈ log ∧ verdict.isDone = true := by
  generalize hresult : (.ok () : Except Timeout Unit) = result at h
  cases h with
  | @intro log found attempted =>
    have hfound : found = true := by
      cases found with
      | true => rfl
      | false => cases hresult
    obtain ⟨earlier, snapshot, verdict, hpolls, hmem, hdone⟩ := attempted.exists_seen hfound
    refine ⟨earlier, snapshot, verdict, ?_, ?_, hdone⟩
    · rw [polls_between, hpolls]
    · simp [between, hmem]

end One

/-! ### The waits that are made -/

namespace Made

variable {all made : List (Turn C)} {result : Except Timeout Unit}

theorem made_prefix (h : Made all made result) : made <+: all := by
  induction h with
  | nothing => exact List.prefix_refl []
  | givenUp turn timeout failed later => exact ⟨later, rfl⟩
  | next turn succeeded rest ih => exact List.cons_prefix_cons.mpr ⟨rfl, ih⟩

theorem ok_iff (h : Made all made result) :
    result = .ok () ↔ ∀ turn ∈ all, turn.result = .ok () := by
  induction h with
  | nothing => simp
  | givenUp turn timeout failed later => simp [failed]
  | next turn succeeded rest ih => simp [succeeded, ih]

theorem eq_of_ok (h : Made all made result) (hok : result = .ok ()) : made = all := by
  induction h with
  | nothing => rfl
  | givenUp turn timeout failed later => cases hok
  | next turn succeeded rest ih => rw [ih hok]

theorem error_iff (h : Made all made result) (timeout : Timeout) :
    result = .error timeout ↔ ∃ earlier last, made = earlier ++ [last] ∧
      (∀ turn ∈ earlier, turn.result = .ok ()) ∧ last.result = .error timeout := by
  induction h with
  | nothing => simp
  | givenUp turn cause failed later =>
    constructor
    · intro hcause
      exact ⟨[], turn, rfl, nofun, failed.trans hcause⟩
    · rintro ⟨earlier, last, heq, -, hlast⟩
      have hlength : earlier.length = 0 := by
        have := congrArg List.length heq
        simpa using this
      obtain rfl := List.eq_nil_of_length_eq_zero hlength
      obtain rfl : turn = last := List.singleton_inj.mp heq
      exact failed.symm.trans hlast
  | next turn succeeded rest ih =>
    rw [ih]
    constructor
    · rintro ⟨earlier, last, rfl, hearlier, hlast⟩
      exact ⟨turn :: earlier, last, rfl, List.forall_mem_cons.mpr ⟨succeeded, hearlier⟩, hlast⟩
    · rintro ⟨earlier, last, heq, hearlier, hlast⟩
      cases earlier with
      | nil =>
        -- the wait that succeeded would be the one that was given up
        obtain ⟨rfl, -⟩ := List.cons.inj heq
        rw [succeeded] at hlast
        cases hlast
      | cons first earlier =>
        obtain ⟨rfl, rfl⟩ := List.cons.inj heq
        exact ⟨earlier, last, rfl, fun turn hturn => hearlier turn (List.mem_cons_of_mem _ hturn),
          hlast⟩

end Made

/-- Each of the waits is a wait for its condition. -/
theorem waited_of_mem_turns (world : σ → (q : Call C) → q.Answer × σ) (describe : C → String)
    (max : Nat) (conditions : List C) (s : σ) : ∀ turn ∈ turns world describe max s conditions,
      Waited describe max turn.condition turn.log turn.result := by
  induction conditions generalizing s with
  | nil => exact nofun
  | cons condition rest ih =>
    refine List.forall_mem_cons.mpr ⟨?_, ih _⟩
    exact branch_wait_iff.mp (branch_runLogged world (wait describe max condition) s)

theorem map_condition_turns (world : σ → (q : Call C) → q.Answer × σ) (describe : C → String)
    (max : Nat) (conditions : List C) (s : σ) :
    (turns world describe max s conditions).map Turn.condition = conditions := by
  induction conditions generalizing s with
  | nil => rfl
  | cons condition rest ih => simp [turns, ih]

/-- **Nothing is asked but what the waits ask**, each where the one before stopped, and nothing behind
the first that is given up. -/
theorem exists_made (world : σ → (q : Call C) → q.Answer × σ) (describe : C → String) (max : Nat)
    (conditions : List C) (s : σ) : ∃ made,
      Made (turns world describe max s conditions) made
        ((waitAll describe max conditions).runLogged world s).1 ∧
      ((waitAll describe max conditions).runLogged world s).2.2 = made.flatMap Turn.log := by
  induction conditions generalizing s with
  | nil => exact ⟨[], .nothing, rfl⟩
  | cons condition rest ih =>
    rw [waitAll, bind_eq, runLogged_bind, turns]
    -- the first wait decides whether there is another one
    generalize (wait describe max condition).runLogged world s = first
    obtain ⟨timeout | _, after, log⟩ := first
    · exact ⟨[⟨condition, .error timeout, log⟩], .givenUp _ timeout rfl _, by simp [runLogged]⟩
    · obtain ⟨made, hmade, hlog⟩ := ih after
      refine ⟨⟨condition, .ok (), log⟩ :: made, .next _ rfl hmade, ?_⟩
      simp [hlog]

/-! ### Totals -/

section Totals

variable (made : List (Turn C))

theorem polls_flatMap : polls (made.flatMap Turn.log) = made.flatMap fun turn => polls turn.log := by
  induction made with
  | nil => rfl
  | cons turn rest ih => rw [List.flatMap_cons, polls, List.filterMap_append, List.flatMap_cons, ← ih,
      polls, polls]

theorem events_flatMap :
    events (made.flatMap Turn.log) = made.flatMap fun turn => events turn.log := by
  induction made with
  | nil => rfl
  | cons turn rest ih => rw [List.flatMap_cons, events, List.filterMap_append, List.flatMap_cons, ← ih,
      events, events]

theorem elapsed_flatMap (interval : Nat) : elapsed interval (made.flatMap Turn.log) =
    (made.map fun turn => elapsed interval turn.log).sum := by
  induction made with
  | nil => rfl
  | cons turn rest ih => rw [List.flatMap_cons, elapsed_append, ih, List.map_cons, List.sum_cons]

end Totals

/-- Waits that succeeded one after another saw their conditions hold at later and later polls. -/
theorem seenInTurn_flatMap {describe : C → String} {max : Nat} {made : List (Turn C)}
    (waited : ∀ turn ∈ made, Waited describe max turn.condition turn.log turn.result)
    (succeeded : ∀ turn ∈ made, turn.result = .ok ()) :
    SeenInTurn (made.map Turn.condition) (made.flatMap Turn.log) := by
  induction made with
  | nil => exact ⟨[], List.Sublist.slnil, .nil⟩
  | cons turn rest ih =>
    obtain ⟨hwaited, hrest⟩ := List.forall_mem_cons.mp waited
    obtain ⟨hok, hoks⟩ := List.forall_mem_cons.mp succeeded
    rw [hok] at hwaited
    obtain ⟨earlier, snapshot, verdict, hpolls, hmem, hdone⟩ := hwaited.exists_seen
    obtain ⟨seen, hsublist, hseen⟩ := ih hrest hoks
    refine ⟨snapshot :: seen, ?_, ?_⟩
    · -- the snapshot is the last one of the first wait, so it comes before all those of the others
      have hfirst : [some snapshot].Sublist (polls turn.log) := by
        rw [hpolls]
        exact List.sublist_append_right _ _
      have happend := hfirst.append hsublist
      rwa [polls_flatMap] at happend ⊢
    · refine .cons ⟨verdict, List.mem_append_left _ hmem, hdone⟩ ?_
      refine hseen.imp fun condition later => ?_
      rintro ⟨verdict, hmem, hdone⟩
      exact ⟨verdict, List.mem_append_right _ hmem, hdone⟩

/-! ### The lists that commands wait for -/

/-- Surroundings that poll a source of snapshots and ask each condition what it says of them. -/
def polling {τ : Type} (source : τ → Option Snapshot × τ) (t : τ) :
    (q : Call Condition) → q.Answer × τ
  | .poll => source t
  | .check condition snapshot => (condition.check snapshot, t)
  | .pause | .report _ => ((), t)

/-- Snapshots with these properties were polled, each at a later poll than the one before. -/
def PolledInTurn (log : Log Condition) (properties : List (Snapshot → Bool)) : Prop :=
  ∃ seen : List Snapshot, (seen.map some).Sublist (polls log) ∧
    List.Forall₂ (fun holds snapshot => holds snapshot = true) properties seen

/-- The waits for a list of conditions with a source. -/
def waitWith {τ : Type} (source : τ → Option Snapshot × τ) (t : τ) (max : Nat)
    (conditions : List Condition) : Except Timeout Unit × τ × Log Condition :=
  (waitAll Condition.description max conditions).runLogged (polling source) t

/-- What a source has shown, in this order, once the waits for a list of conditions succeeded. -/
structure ListsInTurn {τ : Type} (source : τ → Option Snapshot × τ) (t : τ) (max : Nat) : Prop where
  joinable : (waitWith source t max Condition.joinable).1 = .ok () →
    PolledInTurn (waitWith source t max Condition.joinable).2.2
      [(·.base.isConnected), (·.isConnectedTo "websetup")]
  bestEffort : (waitWith source t max Condition.bestEffort).1 = .ok () →
    PolledInTurn (waitWith source t max Condition.bestEffort).2.2
      [(·.base.isConnected), (·.base.isUdp), (·.isConnectedTo "websetup")]
  afterJoin : (waitWith source t max Condition.afterJoin).1 = .ok () →
    PolledInTurn (waitWith source t max Condition.afterJoin).2.2
      [(·.base.isConnected), (·.isConnectedTo "websetup"), (·.isJoined)]

/-- A check is answered with what its condition says. -/
def IsChecked : Exchange (Call Condition) Call.Answer → Prop
  | ⟨.check condition snapshot, verdict⟩ => verdict = condition.check snapshot
  | _ => True

/-- A condition that was seen to hold is one that says so. -/
theorem isDone_of_polling {τ : Type} {source : τ → Option Snapshot × τ} {t : τ} {max : Nat}
    {conditions : List Condition} {condition : Condition} {snapshot : Snapshot} {verdict : Verdict}
    (hmem : ⟨.check condition snapshot, verdict⟩ ∈ (waitWith source t max conditions).2.2)
    (done : verdict.isDone = true) : (condition.check snapshot).isDone = true := by
  have hanswered : ∀ t q, IsChecked ⟨q, (polling source t q).1⟩ := by
    intro t q
    cases q with
    | check condition snapshot => rfl
    | _ => trivial
  have hverdict : verdict = condition.check snapshot :=
    forall_mem_runLogged hanswered _ t _ hmem
  rw [← hverdict]
  exact done

/-! ### The whole -/

/-- The waits that are made keep the laws. -/
theorem inTurn_of_made {describe : C → String} {max : Nat} {all made : List (Turn C)}
    {result : Except Timeout Unit} (h : Made all made result)
    (waited : ∀ turn ∈ all, Waited describe max turn.condition turn.log turn.result) :
    InTurn describe max all made (made.flatMap Turn.log) result := by
  have hmade : ∀ turn ∈ made, Waited describe max turn.condition turn.log turn.result :=
    fun turn hturn => waited turn (h.made_prefix.subset hturn)
  have hregular : ∀ turn ∈ made,
      Regular (describe turn.condition) max turn.condition turn.log turn.result :=
    fun turn hturn => (hmade turn hturn).regular
  have hlength : (polls (made.flatMap Turn.log)).length =
      (made.map fun turn => (polls turn.log).length).sum := by
    rw [polls_flatMap, List.length_flatMap]
  refine
    { made_prefix := h.made_prefix
      log_eq := rfl
      ok_iff := h.ok_iff
      made_of_ok := h.eq_of_ok
      error_iff := h.error_iff
      regular := hregular
      opening := fun hmax turn hturn => (hmade turn hturn).exists_eq_cons hmax
      events_eq := events_flatMap made
      length_polls_eq := hlength
      length_polls_le := ?_
      elapsed_eq := fun interval => ?_
      seen := fun hok => ?_ }
  · rw [hlength]
    have hle : ∀ n ∈ made.map fun turn => (polls turn.log).length, n ≤ max :=
      List.forall_mem_map.mpr fun turn hturn => (hregular turn hturn).length_polls
    have hsum := List.sum_le_card_nsmul _ max hle
    simpa using hsum
  · rw [elapsed_flatMap]
    refine congrArg List.sum (List.map_congr_left fun turn hturn => ?_)
    exact (hregular turn hturn).elapsed_eq interval
  · obtain rfl := h.eq_of_ok hok
    exact seenInTurn_flatMap hmade (h.ok_iff.mp hok)

theorem inTurn_waitAll (world : σ → (q : Call C) → q.Answer × σ) (s : σ) (describe : C → String)
    (max : Nat) (conditions : List C) : ∃ made,
      InTurn describe max (turns world describe max s conditions) made
        ((waitAll describe max conditions).runLogged world s).2.2
        ((waitAll describe max conditions).runLogged world s).1 := by
  obtain ⟨made, hmade, hlog⟩ := exists_made world describe max conditions s
  rw [hlog]
  exact ⟨made, inTurn_of_made hmade (waited_of_mem_turns world describe max conditions s)⟩

/-- Conditions that come to hold one after another do so at later and later polls of the source. -/
theorem polledInTurn {τ : Type} (source : τ → Option Snapshot × τ) (t : τ) (max : Nat)
    (conditions : List Condition)
    (hok : (waitWith source t max conditions).1 = .ok ()) :
    PolledInTurn (waitWith source t max conditions).2.2
      (conditions.map fun condition snapshot => (condition.check snapshot).isDone) := by
  obtain ⟨made, hmade⟩ := inTurn_waitAll (polling source) t Condition.description max conditions
  obtain ⟨seen, hsublist, hseen⟩ := hmade.seen hok
  rw [map_condition_turns] at hseen
  refine ⟨seen, hsublist, List.forall₂_map_left_iff.mpr (hseen.imp fun condition snapshot => ?_)⟩
  rintro ⟨verdict, hmem, done⟩
  exact isDone_of_polling hmem done

/-- **Waits in turn.**  Waiting for several conditions is waiting for each of them where the wait for
the one before stopped, up to the first that is given up; and when the lists that commands wait for
have come to hold, the source has shown what they are about at later and later polls. -/
theorem waitAll_in_turn {τ : Type} (world : σ → (q : Call C) → q.Answer × σ) (s : σ)
    (describe : C → String) (max : Nat) (conditions : List C) (source : τ → Option Snapshot × τ)
    (t : τ) :
    (turns world describe max s conditions).map Turn.condition = conditions ∧
    (∃ made, InTurn describe max (turns world describe max s conditions) made
      ((waitAll describe max conditions).runLogged world s).2.2
      ((waitAll describe max conditions).runLogged world s).1) ∧
    ListsInTurn source t max := by
  refine ⟨map_condition_turns .., inTurn_waitAll .., ?_⟩
  constructor
  · exact polledInTurn source t max Condition.joinable
  · exact polledInTurn source t max Condition.bestEffort
  · exact polledInTurn source t max Condition.afterJoin

/-- A source that gives the answers of a list one after another. -/
def listed (answers : List (Option Snapshot)) : Option Snapshot × List (Option Snapshot) :=
  (answers.head?.join, answers.tail)

/-- A daemon that starts, reaches the base server and then the dashboard. -/
def starting : List (Option Snapshot) :=
  [none, some { base := { kind := "tcp" } }, none,
    some { connections := .ofList [("websetup", true)] }]

/-- Both waits succeed with such a daemon, and the base server was seen before the dashboard. -/
theorem waitAll_in_turn_starting :
    (waitWith listed starting 2 Condition.joinable).1 = .ok () ∧
      PolledInTurn (waitWith listed starting 2 Condition.joinable).2.2
        [(·.base.isConnected), (·.isConnectedTo "websetup")] := by
  have hok : (waitWith listed starting 2 Condition.joinable).1 = .ok () := by decide +kernel
  obtain ⟨-, -, hlists⟩ := waitAll_in_turn (polling listed) [] Condition.description 2
    Condition.joinable listed starting
  exact ⟨hok, hlists.joinable hok⟩

end MeshControl.Wait
