import MeshControl.Proofs.Dialogue.Branch

/-!
# What surroundings answer, and what becomes of them

`Answered world s log u` says that surroundings in the state `s` give the answers of `log` one after
another and are in the state `u` then.  The log of a run is answered by the surroundings it was held
with (`answered_runLogged`), so with the branches of a dialogue a run is known without being played.
-/

namespace MeshControl.Dialogue

variable {Q : Type} {A : Q → Type} {α β ε σ : Type} {world : σ → (q : Q) → A q × σ} {s t u : σ}

/-! ### Runs -/

@[simp]
theorem run_query (q : Q) : (query q).run world s = world s q := rfl

/-- A run of two dialogues that succeeds is a run of each that does. -/
theorem run_bind_eq_ok_iff {x : ExceptT ε (Dialogue Q A) α} {f : α → ExceptT ε (Dialogue Q A) β}
    {b : β} :
    (x >>= f).run.run world s = (.ok b, u) ↔
      ∃ a t, x.run.run world s = (.ok a, t) ∧ (f a).run.run world t = (.ok b, u) := by
  rw [ExceptT.run_bind, bind_eq, run_bind]
  obtain ⟨e | a, t⟩ := x.run.run world s
  · exact ⟨nofun, fun ⟨_, _, h, _⟩ => nomatch h⟩
  · constructor
    · exact fun h => ⟨a, t, rfl, h⟩
    · rintro ⟨_, _, h, hf⟩
      cases h
      exact hf

/-! ### Logs -/

/-- Surroundings give the answers of a log one after another and end in a state. -/
def Answered (world : σ → (q : Q) → A q × σ) : σ → List (Exchange Q A) → σ → Prop
  | s, [], u => s = u
  | s, x :: log, u => ∃ t, world s x.question = (x.answer, t) ∧ Answered world t log u

@[simp]
theorem answered_nil_iff : Answered world s [] u ↔ s = u := Iff.rfl

@[simp]
theorem answered_cons_iff {q : Q} {a : A q} {log : List (Exchange Q A)} :
    Answered world s (⟨q, a⟩ :: log) u ↔ ∃ t, world s q = (a, t) ∧ Answered world t log u := Iff.rfl

theorem answered_append_iff {first second : List (Exchange Q A)} :
    Answered world s (first ++ second) u ↔
      ∃ t, Answered world s first t ∧ Answered world t second u := by
  induction first generalizing s with
  | nil => exact ⟨fun h => ⟨s, rfl, h⟩, fun ⟨_, ht, h⟩ => ht ▸ h⟩
  | cons x first ih =>
    constructor
    · rintro ⟨r, hx, hrest⟩
      obtain ⟨t, hfirst, hsecond⟩ := ih.mp hrest
      exact ⟨t, ⟨r, hx, hfirst⟩, hsecond⟩
    · rintro ⟨t, ⟨r, hx, hfirst⟩, hsecond⟩
      exact ⟨r, hx, ih.mpr ⟨t, hfirst, hsecond⟩⟩

/-- The log of a run is answered by the surroundings it was held with. -/
theorem answered_runLogged (world : σ → (q : Q) → A q × σ) (d : Dialogue Q A α) (s : σ) :
    Answered world s (d.runLogged world s).2.2 (d.runLogged world s).2.1 := by
  induction d generalizing s with
  | done value => rfl
  | ask q next ih => exact ⟨(world s q).2, rfl, ih _ _⟩

end MeshControl.Dialogue
