import MeshControl.Proofs.Dialogue.Branch

/-!
# Dialogues that stop anywhere

`Begins d log` says that the questions and answers of `log` lead some way into the dialogue `d`: what
was asked and answered until whoever holds the dialogue was stopped.  It is taken apart as branches
are, by `begins_bind_iff`; each branch is begun as well (`Branch.begins`).
-/

namespace MeshControl.Dialogue

variable {Q : Type} {A : Q → Type} {α β : Type}

/-- The exchanges of a log lead some way into a dialogue, perhaps to its end. -/
inductive Begins : Dialogue Q A α → List (Exchange Q A) → Prop
  | stop (d : Dialogue Q A α) : Begins d []
  | ask {question : Q} {next : A question → Dialogue Q A α} {log : List (Exchange Q A)}
      (answer : A question) (rest : Begins (next answer) log) :
      Begins (.ask question next) (⟨question, answer⟩ :: log)

theorem Branch.begins {d : Dialogue Q A α} {log : List (Exchange Q A)} {value : α}
    (h : d.Branch log value) : d.Begins log := by
  induction h with
  | done value => exact .stop _
  | ask answer _ ih => exact .ask answer ih

@[simp]
theorem begins_done_iff {value : α} {log : List (Exchange Q A)} :
    (done value : Dialogue Q A α).Begins log ↔ log = [] := by
  constructor
  · intro h
    cases h
    rfl
  · rintro rfl
    exact .stop _

/-- To begin two dialogues, one after the other, is to begin the first one, or to go through it and
begin the second one. -/
theorem begins_bind_iff {d : Dialogue Q A α} {f : α → Dialogue Q A β}
    {log : List (Exchange Q A)} :
    (d.bind f).Begins log ↔
      d.Begins log ∨ ∃ first value rest, d.Branch first value ∧ (f value).Begins rest ∧
        log = first ++ rest := by
  constructor
  · intro h
    induction d generalizing log with
    | done value => exact .inr ⟨[], value, log, .done value, h, rfl⟩
    | ask question next ih =>
      cases h with
      | stop => exact .inl (.stop _)
      | ask answer hbehind =>
        rcases ih answer hbehind with hfirst | ⟨first, value, rest, hfirst, hrest, rfl⟩
        · exact .inl (.ask answer hfirst)
        · exact .inr ⟨_, value, rest, .ask answer hfirst, hrest, rfl⟩
  · rintro (h | ⟨first, value, rest, hfirst, hrest, rfl⟩)
    · induction h with
      | stop => exact .stop _
      | ask answer _ ih => exact .ask answer ih
    · induction hfirst with
      | done value => exact hrest
      | ask answer _ ih => exact .ask answer (ih hrest)

/-- What only makes something of the value of a dialogue adds nothing to it. -/
theorem begins_bind_done_iff {d : Dialogue Q A α} {f : α → β} {log : List (Exchange Q A)} :
    (d.bind fun value => done (f value)).Begins log ↔ d.Begins log := by
  rw [begins_bind_iff]
  constructor
  · rintro (h | ⟨first, value, rest, hfirst, hrest, rfl⟩)
    · exact h
    · obtain rfl := begins_done_iff.mp hrest
      exact (List.append_nil first).symm ▸ hfirst.begins
  · exact .inl

end MeshControl.Dialogue
