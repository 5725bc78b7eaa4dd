import Mathlib.Data.List.Destutter
import MeshControl.Proofs.Daemon.Watching
import MeshControl.Proofs.Dialogue.Points

/-!
# Only what is new is shown

A follower compares a snapshot with the one that it reported last, and that may be long ago.  All the
same it reports exactly the snapshots that are new, those that do not agree with the one right before
them (`isNew_iff`): whatever it passed over agrees with what it remembers (`last?_after`), and
agreement is an equivalence.

* `Follower.after`: the follower behind a row of snapshots.
* `Watch.UpToDate`: the snapshot on the screen agrees with the latest one that was polled.
* `Watch.Shows`: what a watch has on the screen whenever it asks something.
* `rounds_law`: the screen is up to date at every point of all rounds.
* `drawn_run`: a watch draws what `List.destutter` keeps of the snapshots that were polled.
-/

namespace MeshControl.Daemon

open Dialogue

/-- Two snapshots tell something different. -/
def Differ (s t : Snapshot) : Prop :=
  s.agree t = false

instance : DecidableRel Differ := fun s t => inferInstanceAs (Decidable (s.agree t = false))

/-- A snapshot is new behind a row of others: it is the first one, or it differs from the one right
before it. -/
def IsNew (before : List Snapshot) (s : Snapshot) : Prop :=
  before = [] ∨ ∃ last, before.getLast? = some last ∧ Differ last s

namespace Follower

variable {f : Follower} {s latest : Snapshot} {before : List Snapshot}

/-- The follower behind a row of snapshots. -/
def after (f : Follower) (row : List Snapshot) : Follower :=
  row.foldl (fun f s => (f.observe s).2) f

/-- Behind a snapshot a follower remembers one that agrees with it. -/
theorem last?_snd_observe (f : Follower) (s : Snapshot) :
    ∃ last, (f.observe s).2.last? = some last ∧ last.agree s = true := by
  unfold observe
  cases hlast : f.last? with
  | none => exact ⟨s, rfl, Snapshot.agree_iff.mpr rfl⟩
  | some last =>
    dsimp only
    by_cases hagree : last.agree s = true
    · rw [if_pos hagree]
      exact ⟨last, hlast, hagree⟩
    · rw [if_neg hagree]
      exact ⟨s, rfl, Snapshot.agree_iff.mpr rfl⟩

/-- **What a follower remembers agrees with the snapshot that it saw last**, however long ago it was
reported. -/
theorem last?_after (h : before.getLast? = some latest) :
    ∃ last, (f.after before).last? = some last ∧ last.agree latest = true := by
  obtain ⟨front, rfl⟩ := List.getLast?_eq_some_iff.mp h
  rw [after, List.foldl_append]
  exact last?_snd_observe _ latest

/-- A follower that has seen a row of snapshots reports the next one exactly if it is new. -/
theorem isNew_iff : ((({} : Follower).after before).observe s).1 = true ↔ IsNew before s := by
  rw [← Bool.not_eq_false, fst_observe]
  cases hlatest : before.getLast? with
  | none =>
    obtain rfl := List.getLast?_eq_none_iff.mp hlatest
    exact ⟨fun _ => .inl rfl, fun _ ⟨_, hlast, _⟩ => nomatch hlast⟩
  | some latest =>
    obtain ⟨last, hlast, hagree⟩ := last?_after (f := {}) hlatest
    have hsame : last.agree s = true ↔ latest.agree s = true := by
      rw [Snapshot.agree_iff, Snapshot.agree_iff, Snapshot.agree_iff.mp hagree]
    constructor
    · intro hnew
      refine .inr ⟨latest, hlatest, Bool.eq_false_iff.mpr fun h => hnew ⟨last, hlast, ?_⟩⟩
      exact hsame.mpr h
    · rintro (rfl | ⟨_, hrow, hdiffers⟩) ⟨_, hremembered, h⟩
      · cases hlatest
      · cases hlatest.symm.trans hrow
        cases hlast.symm.trans hremembered
        exact Bool.eq_false_iff.mp hdiffers (hsame.mp h)

theorem length_observeAll (f : Follower) (row : List Snapshot) :
    (f.observeAll row).length = row.length := by
  induction row generalizing f with
  | nil => rfl
  | cons s rest ih => rw [observeAll, List.length_cons, ih, List.length_cons]

/-- What is told of a snapshot is told by the follower behind those before it. -/
theorem getElem?_observeAll (f : Follower) (before after : List Snapshot) (s : Snapshot) :
    (f.observeAll (before ++ s :: after))[before.length]? =
      some ((f.after before).observe s).1 := by
  induction before generalizing f with
  | nil => rfl
  | cons first before ih =>
    rw [List.cons_append, observeAll, List.length_cons, List.getElem?_cons_succ]
    exact ih _

end Follower

namespace Watch

variable {f g : Follower} {first s shown latest : Snapshot} {past log : Log} {n : Nat}

/-! ### At every point -/

/-- The snapshot on the screen agrees with the latest one that was polled. -/
def UpToDate (first : Snapshot) (log : Log) : Prop :=
  ∃ shown latest, (drawn log).getLast? = some shown ∧
    (first :: polled log).getLast? = some latest ∧ shown.agree latest = true

/-- What a watch has on the screen when it asks something: it is up to date, or it is just about to
draw the latest snapshot. -/
def Shows (first : Snapshot) (before : Log) (x : Exchange Call Call.Answer) : Prop :=
  match x.question with
  | .draw s => (first :: polled before).getLast? = some s
  | .poll | .pause => UpToDate first before

/-- A follower remembers what stands on the screen, and that is up to date. -/
structure Remembers (first : Snapshot) (past : Log) (f : Follower) (shown latest : Snapshot) :
    Prop where
  last : f.last? = some shown
  drawn : (drawn past).getLast? = some shown
  polled : (first :: polled past).getLast? = some latest
  agree : shown.agree latest = true

theorem Remembers.upToDate (h : Remembers first past f shown latest) : UpToDate first past :=
  ⟨shown, latest, h.drawn, h.polled, h.agree⟩

/-- Nothing is drawn by a question that is no drawing and nothing is polled without an answer. -/
theorem Remembers.wait (h : Remembers first past f shown latest) (more : Log)
    (hdrawn : Watch.drawn more = []) (hpolled : Watch.polled more = []) :
    Remembers first (past ++ more) f shown latest where
  last := h.last
  drawn := by rw [drawn_append, hdrawn, List.append_nil, h.drawn]
  polled := by rw [polled_append, hpolled, List.append_nil, h.polled]
  agree := h.agree

theorem getLast?_cons_polled (first s : Snapshot) (past : Log) :
    (first :: polled (past ++ [⟨.pause, ()⟩, ⟨.poll, some s⟩])).getLast? = some s := by
  rw [polled_append, ← List.cons_append, List.getLast?_append]
  rfl

/-- **The screen is up to date at every point of all rounds**, if it is so when they begin. -/
theorem rounds_law (hf : Remembers first past f shown latest) (h : (rounds f n).Branch log ()) :
    Everywhere (fun before => Shows first (past ++ before)) log ∧ UpToDate first (past ++ log) := by
  induction n generalizing f shown latest past log with
  | zero =>
    obtain ⟨rfl, _⟩ := branch_done_iff.mp h
    exact ⟨everywhere_nil, (hf.wait [] rfl rfl).upToDate⟩
  | succ n ih =>
    obtain ⟨answer, rest, rfl, hrest⟩ := branch_rounds_succ h
    let wait : Log := [⟨.pause, ()⟩, ⟨.poll, answer⟩]
    -- it is enough to follow what comes behind the poll
    suffices hlaws : Everywhere (fun before => Shows first (past ++ wait ++ before)) rest ∧
        UpToDate first (past ++ wait ++ rest) by
      obtain ⟨heach, hend⟩ := hlaws
      simp only [wait, List.append_assoc, List.cons_append, List.nil_append] at heach hend
      refine ⟨everywhere_cons_iff.mpr ⟨?_, everywhere_cons_iff.mpr ⟨?_, heach⟩⟩, hend⟩
      · exact (hf.wait [] rfl rfl).upToDate
      · exact (hf.wait [⟨.pause, ()⟩] rfl rfl).upToDate
    cases answer with
    | none => exact ih (hf.wait wait rfl rfl) hrest
    | some s =>
      have hlatest : (first :: polled (past ++ wait)).getLast? = some s :=
        getLast?_cons_polled first s past
      have hdrawn : (drawn (past ++ wait)).getLast? = some shown := by
        rw [drawn_append, show drawn wait = [] from rfl, List.append_nil, hf.drawn]
      obtain ⟨seen, g, last, hlook, hlast, rfl⟩ := hrest
      obtain ⟨hold, rfl, rfl⟩ | ⟨_, rfl, rfl⟩ := branch_look hlook
      · -- the snapshot is passed over, so it agrees with the one on the screen
        obtain ⟨_, hremembered, hagree⟩ := Follower.fst_observe.mp hold
        cases hf.last.symm.trans hremembered
        exact ih ⟨hf.last, hdrawn, hlatest, hagree⟩ hlast
      · -- the snapshot is drawn, so it is the one on the screen from here on
        have hnow : Remembers first (past ++ wait ++ [⟨.draw s, ()⟩]) ⟨some s⟩ s s := by
          refine ⟨rfl, ?_, ?_, Snapshot.agree_iff.mpr rfl⟩
          · rw [drawn_append, List.getLast?_append]
            rfl
          · rw [polled_append, show polled [⟨.draw s, ()⟩] = [] from rfl, List.append_nil, hlatest]
        obtain ⟨heach, hend⟩ := ih hnow hlast
        have hshift (more : Log) : past ++ wait ++ [⟨.draw s, ()⟩] ++ more =
            past ++ wait ++ ⟨.draw s, ()⟩ :: more := List.append_assoc _ _ _
        simp only [hshift] at heach hend
        refine ⟨everywhere_cons_iff.mpr ⟨?_, heach⟩, hend⟩
        rw [List.append_nil]
        exact hlatest

/-! ### What is drawn -/

/-- What is drawn in all rounds is what `List.destutter'` keeps behind the snapshot on the screen. -/
theorem cons_drawn_rounds (hf : f.last? = some shown) (h : (rounds f n).Branch log ()) :
    shown :: drawn log = (polled log).destutter' Differ shown := by
  induction n generalizing f shown log with
  | zero =>
    obtain ⟨rfl, _⟩ := branch_done_iff.mp h
    rfl
  | succ n ih =>
    obtain ⟨answer, rest, rfl, hrest⟩ := branch_rounds_succ h
    cases answer with
    | none =>
      have hkept : shown :: drawn rest = (polled rest).destutter' Differ shown := ih hf hrest
      exact hkept
    | some s =>
      obtain ⟨seen, g, last, hlook, hlast, rfl⟩ := hrest
      have hold_iff : (f.observe s).1 = false ↔ shown.agree s = true := by
        rw [Follower.fst_observe, hf]
        simp
      obtain ⟨hold, rfl, rfl⟩ | ⟨hnew, rfl, rfl⟩ := branch_look hlook
      · have hagree : ¬Differ shown s := Bool.not_eq_false _ ▸ hold_iff.mp hold
        exact (ih hf hlast).trans (List.destutter'_cons_neg (polled last) hagree).symm
      · have hdiffer : Differ shown s := by
          refine Bool.eq_false_iff.mpr fun hagree => ?_
          cases hnew.symm.trans (hold_iff.mpr hagree)
        exact (congrArg (shown :: ·) (ih rfl hlast)).trans
          (List.destutter'_cons_pos (polled last) hdiffer).symm

/-- A watch draws its first snapshot and goes through its rounds. -/
theorem branch_run (h : (run first n).Branch log ()) :
    ∃ rest, log = ⟨.draw first, ()⟩ :: rest ∧ (rounds ⟨some first⟩ n).Branch rest () := by
  obtain ⟨seen, g, rest, hlook, hrest, rfl⟩ := branch_bind_iff.mp h
  obtain ⟨hold, _⟩ | ⟨_, rfl, rfl⟩ := branch_look hlook
  · obtain ⟨_, hlast, _⟩ := Follower.fst_observe.mp hold
    cases hlast
  · exact ⟨rest, rfl, hrest⟩

/-- **A watch draws what is new**: what `List.destutter` keeps of the snapshots that were polled. -/
theorem drawn_run (h : (run first n).Branch log ()) :
    drawn log = (first :: polled log).destutter Differ := by
  obtain ⟨rest, rfl, hrest⟩ := branch_run h
  exact cons_drawn_rounds rfl hrest

/-- The screen is up to date at every point of a watch. -/
theorem run_law (h : (run first n).Branch log ()) :
    Everywhere (Shows first) log ∧ UpToDate first log := by
  obtain ⟨rest, rfl, hrest⟩ := branch_run h
  have hfirst : Remembers first [⟨.draw first, ()⟩] ⟨some first⟩ first first :=
    ⟨rfl, rfl, rfl, Snapshot.agree_iff.mpr rfl⟩
  obtain ⟨heach, hend⟩ := rounds_law hfirst hrest
  exact ⟨everywhere_cons_iff.mpr ⟨rfl, heach⟩, hend⟩

end Watch

end MeshControl.Daemon
