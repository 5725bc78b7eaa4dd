import MeshControl.Daemon.Watch
import MeshControl.Proofs.Daemon.Agreement
import MeshControl.Proofs.Dialogue.Branch

/-!
# What a watch has drawn

A watch draws a snapshot that the follower reports and passes over all others.  A follower reports
what does not agree with the snapshot that it reported last (`Follower.fst_observe`), so after each
poll the snapshot on the screen agrees with the latest one (`shown_agrees`).  Rounds in which the poll
failed change neither of the two.
-/

namespace MeshControl.Daemon

open Dialogue

/-- A follower passes over a snapshot exactly if it agrees with the one that was reported last. -/
theorem Follower.fst_observe {f : Follower} {s : Snapshot} :
    (f.observe s).1 = false ↔ ∃ last, f.last? = some last ∧ last.agree s = true := by
  unfold Follower.observe
  cases f.last? with
  | none => simp
  | some last => by_cases h : last.agree s = true <;> simp [h]

namespace Watch

/-- What was asked in a watch, with the answers. -/
abbrev Log := List (Exchange Call Call.Answer)

/-- The snapshots that were polled. -/
def polled (log : Log) : List Snapshot :=
  log.filterMap fun
    | ⟨.poll, answer⟩ => answer
    | _ => none

/-- The snapshots that were drawn. -/
def drawn (log : Log) : List Snapshot :=
  log.filterMap fun
    | ⟨.draw s, _⟩ => some s
    | _ => none

theorem polled_append (log log' : Log) : polled (log ++ log') = polled log ++ polled log' :=
  List.filterMap_append

theorem drawn_append (log log' : Log) : drawn (log ++ log') = drawn log ++ drawn log' :=
  List.filterMap_append

variable {f g : Follower} {s latest shown : Snapshot} {log : Log}

/-- The ways of a look: the follower passes over the snapshot, or it is drawn and remembered. -/
theorem branch_look (h : (look f s).Branch log g) :
    ((f.observe s).1 = false ∧ log = [] ∧ g = f) ∨
      ((f.observe s).1 = true ∧ log = [⟨.draw s, ()⟩] ∧ g = ⟨some s⟩) := by
  unfold look at h
  cases hnew : (f.observe s).1 with
  | false =>
    obtain ⟨last, hlast, hagree⟩ := Follower.fst_observe.mp hnew
    have hkept : f.observe s = (false, f) := by
      simp [Follower.observe, hlast, hagree]
    rw [hkept] at h
    exact .inl ⟨rfl, branch_done_iff.mp h⟩
  | true =>
    have htaken : f.observe s = (true, ⟨some s⟩) := by
      unfold Follower.observe at hnew ⊢
      cases hlast : f.last? with
      | none => rfl
      | some last =>
        rw [hlast] at hnew
        dsimp only at hnew ⊢
        by_cases hagree : last.agree s = true
        · rw [if_pos hagree] at hnew
          cases hnew
        · rw [if_neg hagree]
    rw [htaken] at h
    obtain ⟨_, rest, rfl, hrest⟩ := branch_ask_iff.mp h
    obtain ⟨rfl, rfl⟩ := branch_done_iff.mp hrest
    exact .inr ⟨rfl, rfl, rfl⟩

/-- A round is a pause and a poll; what was polled is looked at before the rounds go on. -/
theorem branch_rounds_succ {n : Nat} (h : (rounds f (n + 1)).Branch log ()) :
    ∃ answer rest, log = ⟨.pause, ()⟩ :: ⟨.poll, answer⟩ :: rest ∧
      match answer with
      | none => (rounds f n).Branch rest ()
      | some s => ∃ first g last, (look f s).Branch first g ∧ (rounds g n).Branch last () ∧
          rest = first ++ last := by
  obtain ⟨_, _, _, hpause, hround, rfl⟩ := branch_bind_iff.mp h
  obtain ⟨_, answer, rest, hpoll, hgoOn, rfl⟩ := branch_bind_iff.mp hround
  obtain rfl := branch_query_iff.mp hpause
  obtain rfl := branch_query_iff.mp hpoll
  refine ⟨answer, rest, rfl, ?_⟩
  cases answer with
  | none => exact hgoOn
  | some s => exact branch_bind_iff.mp hgoOn

/-- **One look.** It polls nothing, and leaves a snapshot on the screen that agrees with the one that
was looked at: that one, or what stood there before. -/
theorem look_shows (h : (look f s).Branch log g) :
    polled log = [] ∧ ∃ shown, g.last? = some shown ∧ shown.agree s = true ∧
      (drawn log = [shown] ∨ drawn log = [] ∧ f.last? = some shown) := by
  obtain ⟨hold, rfl, rfl⟩ | ⟨_, rfl, rfl⟩ := branch_look h
  · obtain ⟨last, hlast, hagree⟩ := Follower.fst_observe.mp hold
    exact ⟨rfl, last, hlast, hagree, .inr ⟨rfl, hlast⟩⟩
  · exact ⟨rfl, s, rfl, Snapshot.agree_iff.mpr rfl, .inl rfl⟩

/-- The last of a list that continues another one. -/
theorem getLast?_cons_append {α : Type} (x : α) (xs ys : List α) {y : α}
    (h : (x :: xs).getLast? = some y) : (x :: (xs ++ ys)).getLast? = (y :: ys).getLast? := by
  rw [← List.cons_append, List.getLast?_append, h, List.getLast?_cons]
  cases ys.getLast? <;> rfl

/-- **All rounds.** If what stands on the screen agrees with the latest snapshot, it does so after any
number of rounds. -/
theorem rounds_show {n : Nat} (hshown : f.last? = some shown) (hagree : shown.agree latest = true)
    (h : (rounds f n).Branch log ()) :
    ∃ last latest', (shown :: drawn log).getLast? = some last ∧
      (latest :: polled log).getLast? = some latest' ∧ last.agree latest' = true := by
  induction n generalizing f shown latest log with
  | zero =>
    obtain ⟨rfl, _⟩ := branch_done_iff.mp h
    exact ⟨shown, latest, rfl, rfl, hagree⟩
  | succ n ih =>
    obtain ⟨answer, rest, rfl, hgoOn⟩ := branch_rounds_succ h
    cases answer with
    | none =>
      -- nothing was polled and nothing is drawn in such a round
      have hrest := ih hshown hagree hgoOn
      exact hrest
    | some s =>
      obtain ⟨first, g, rest, hlook, hrest, rfl⟩ := hgoOn
      obtain ⟨hpolled, now, hnow, hagreeNow, hdrawn⟩ := look_shows hlook
      obtain ⟨last, latest', hlast, hlatest, hall⟩ := ih hnow hagreeNow hrest
      refine ⟨last, latest', ?_, ?_, hall⟩
      · rw [← hlast]
        have hscreen : (shown :: drawn first).getLast? = some now := by
          rcases hdrawn with hdrawn | ⟨hdrawn, hsame⟩
          · rw [hdrawn]
            rfl
          · rw [hdrawn, List.getLast?_singleton, ← hshown, hsame]
        show (shown :: drawn (first ++ rest)).getLast? = _
        rw [drawn_append, getLast?_cons_append _ _ _ hscreen]
      · rw [← hlatest]
        show (latest :: s :: polled (first ++ rest)).getLast? = _
        rw [polled_append, hpolled, List.nil_append, List.getLast?_cons_cons]

/-- **The screen is up to date.** However many rounds a watch has gone through and whatever was polled
in them, the snapshot that was drawn last agrees with the latest one. -/
theorem shown_agrees {first : Snapshot} {n : Nat} (h : (run first n).Branch log ()) :
    ∃ shown latest, (drawn log).getLast? = some shown ∧
      (first :: polled log).getLast? = some latest ∧ shown.agree latest = true := by
  obtain ⟨before, f, rest, hlook, hrest, rfl⟩ := branch_bind_iff.mp h
  obtain ⟨hpolled, now, hnow, hagree, hdrawn⟩ := look_shows hlook
  obtain ⟨shown, latest, hshown, hlatest, hall⟩ := rounds_show hnow hagree hrest
  -- nothing stood on the screen before, so the first snapshot was drawn
  rcases hdrawn with hdrawn | ⟨_, hnone⟩
  · refine ⟨shown, latest, ?_, ?_, hall⟩
    · rw [drawn_append, hdrawn]
      exact hshown
    · rw [polled_append, hpolled]
      exact hlatest
  · cases hnone

end Watch

end MeshControl.Daemon
