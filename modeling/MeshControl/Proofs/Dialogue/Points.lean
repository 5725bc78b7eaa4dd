import MeshControl.Proofs.Dialogue.Answered

/-!
# Every point of a log

`Everywhere p log` says that `p` holds of each item of a log together with what stands before it.  Such
a law is told item by item (`everywhere_cons_iff`), and where one log follows another, for each of
them with the earlier one put before it (`everywhere_append_iff`).

`stateAfter world s log` is the state of surroundings behind a log; what they answer leads to it
(`Answered.stateAfter_eq`), so it is also known at each point of a run.
-/

namespace MeshControl.Dialogue

/-! ### Laws that hold at every point -/

section Everywhere

variable {X : Type} {p q : List X → X → Prop} {x : X} {log first second : List X}

/-- What holds of each item of a log, given what stands before it. -/
def Everywhere (p : List X → X → Prop) (log : List X) : Prop :=
  ∀ before x after, log = before ++ x :: after → p before x

@[simp]
theorem everywhere_nil : Everywhere p [] := by
  intro before x after h
  simp at h

@[simp]
theorem everywhere_cons_iff :
    Everywhere p (x :: log) ↔ p [] x ∧ Everywhere (fun before => p (x :: before)) log := by
  constructor
  · intro h
    have hrest : Everywhere (fun before => p (x :: before)) log := by
      rintro before y after rfl
      exact h (x :: before) y after rfl
    exact ⟨h [] x log rfl, hrest⟩
  · rintro ⟨hx, hlog⟩ before y after heq
    cases before with
    | nil =>
      cases heq
      exact hx
    | cons z before =>
      cases heq
      exact hlog before y after rfl

theorem everywhere_append_iff :
    Everywhere p (first ++ second) ↔
      Everywhere p first ∧ Everywhere (fun before => p (first ++ before)) second := by
  induction first generalizing p with
  | nil => simp
  | cons x first ih => simp [ih, and_assoc]

theorem Everywhere.imp (h : Everywhere p log) (hpq : ∀ before x, p before x → q before x) :
    Everywhere q log :=
  fun before x after hlog => hpq before x (h before x after hlog)

/-- A law that does not mind what is put before a log holds of logs that follow one another. -/
theorem Everywhere.append (hfirst : Everywhere p first) (hsecond : Everywhere p second)
    (hprepend : ∀ before x, p before x → p (first ++ before) x) : Everywhere p (first ++ second) :=
  everywhere_append_iff.mpr ⟨hfirst, hsecond.imp hprepend⟩

end Everywhere

/-! ### States behind a log -/

section State

variable {Q : Type} {A : Q → Type} {σ : Type} {world : σ → (q : Q) → A q × σ} {s u : σ}
  {log : List (Exchange Q A)}

/-- The state of surroundings behind a log. -/
def stateAfter (world : σ → (q : Q) → A q × σ) (s : σ) (log : List (Exchange Q A)) : σ :=
  log.foldl (fun s x => (world s x.question).2) s

theorem Answered.stateAfter_eq (h : Answered world s log u) : stateAfter world s log = u := by
  induction log generalizing s with
  | nil => exact h
  | cons x log ih =>
    obtain ⟨t, hx, hrest⟩ := h
    have hstep : stateAfter world s (x :: log) = stateAfter world t log := by
      rw [stateAfter, List.foldl_cons, hx]
      rfl
    rw [hstep, ih hrest]

/-- What was asked up to a point of a log leads to the state there. -/
theorem Answered.before {before after : List (Exchange Q A)}
    (h : Answered world s (before ++ after) u) :
    Answered world s before (stateAfter world s before) := by
  obtain ⟨t, hbefore, _⟩ := answered_append_iff.mp h
  obtain rfl := hbefore.stateAfter_eq
  exact hbefore

/-- An answer in a log is the one that is given in the state there. -/
theorem Answered.answer_eq {x : Exchange Q A} {before after : List (Exchange Q A)}
    (h : Answered world s (before ++ x :: after) u) :
    (world (stateAfter world s before) x.question).1 = x.answer := by
  obtain ⟨t, hbefore, r, hx, _⟩ := answered_append_iff.mp h
  obtain rfl := hbefore.stateAfter_eq
  exact congrArg Prod.fst hx

end State

end MeshControl.Dialogue
