import Mathlib.Tactic.SplitIfs
import MeshControl.Proofs.Dialogue.Branch

/-!
# How often a dialogue asks

`AtMost p n d` says that no branch of `d` has more than `n` exchanges of the kind `p`.  Budgets are
added where dialogues follow each other, and `Spelled.countP_le_add` adds them up over the questions
of an outer dialogue, each of which has a budget of its own.
-/

namespace MeshControl.Dialogue

variable {Q P : Type} {A : Q → Type} {B : P → Type} {α β ε : Type}
  {p : Exchange Q A → Bool} {m n : Nat}

/-- No branch has more than so many exchanges of a kind. -/
def AtMost (p : Exchange Q A → Bool) (n : Nat) (d : Dialogue Q A α) : Prop :=
  ∀ log value, d.Branch log value → log.countP p ≤ n

/-- Nothing of a kind that costs and has no budget is in a log. -/
theorem AtMost.eq_false {d : Dialogue Q A α} (h : AtMost p 0 d) {log : List (Exchange Q A)}
    {value : α} (hlog : d.Branch log value) : ∀ x ∈ log, p x = false := by
  have hcount : log.countP p = 0 := Nat.le_zero.mp (h log value hlog)
  exact fun x hx => Bool.eq_false_iff.mpr (List.countP_eq_zero.mp hcount x hx)

theorem atMost_done (value : α) : AtMost p n (done value) := by
  intro log result h
  obtain ⟨rfl, rfl⟩ := branch_done_iff.mp h
  exact Nat.zero_le n

/-- A question of another kind costs nothing. -/
theorem atMost_query {question : Q} (h : ∀ answer, p ⟨question, answer⟩ = false) :
    AtMost p n (query question) := by
  intro log answer hquery
  obtain rfl := branch_query_iff.mp hquery
  rw [List.countP_cons_of_neg (Bool.eq_false_iff.mp (h answer))]
  exact Nat.zero_le n

/-- Budgets are added where one dialogue follows another. -/
theorem AtMost.bind {d : Dialogue Q A α} {f : α → Dialogue Q A β} (hd : AtMost p m d)
    (hf : ∀ value, AtMost p n (f value)) : AtMost p (m + n) (d.bind f) := by
  intro log result h
  obtain ⟨first, value, rest, hfirst, hrest, rfl⟩ := branch_bind_iff.mp h
  rw [List.countP_append]
  exact Nat.add_le_add (hd _ _ hfirst) (hf value _ _ hrest)

/-- What costs nothing leaves the budget to what follows. -/
theorem AtMost.bind_free {d : Dialogue Q A α} {f : α → Dialogue Q A β} (hd : AtMost p 0 d)
    (hf : ∀ value, AtMost p n (f value)) : AtMost p n (d.bind f) :=
  Nat.zero_add n ▸ hd.bind hf

/-- What costs nothing may follow at no cost. -/
theorem AtMost.then_free {d : Dialogue Q A α} {f : α → Dialogue Q A β} (hd : AtMost p n d)
    (hf : ∀ value, AtMost p 0 (f value)) : AtMost p n (d.bind f) :=
  hd.bind hf

/-- What costs nothing and may fail leaves the budget to what follows. -/
theorem AtMost.run_bind_free {x : ExceptT ε (Dialogue Q A) α} {f : α → ExceptT ε (Dialogue Q A) β}
    (hx : AtMost p 0 x.run) (hf : ∀ value, AtMost p n (f value).run) :
    AtMost p n (x >>= f).run := by
  rw [ExceptT.run_bind, bind_eq]
  refine hx.bind_free ?_
  rintro (e | value)
  · exact atMost_done _
  · exact hf value

/-- A dialogue that cannot fail costs the same among those that can. -/
theorem AtMost.run_liftM {d : Dialogue Q A α} (hd : AtMost p n d) :
    AtMost p n (liftM d : ExceptT ε (Dialogue Q A) α).run :=
  hd.then_free fun _ => atMost_done _

/-- A spelled log costs what the exchanges that it spells cost: some of them once, some of them `n`
times, all others nothing; and besides that as much as it holds of another kind. -/
theorem Spelled.countP_le_add {handler : (q : P) → Dialogue Q A (B q)}
    {single several : Exchange P B → Bool} {extra : Exchange Q A → Bool}
    (hcost : ∀ q answer log, (handler q).Branch log answer → log.countP p ≤
      (if single ⟨q, answer⟩ then 1 else 0) + (if several ⟨q, answer⟩ then n else 0) +
        log.countP extra)
    {outer : List (Exchange P B)} {log : List (Exchange Q A)} (h : Spelled handler outer log) :
    log.countP p ≤ outer.countP single + outer.countP several * n + log.countP extra := by
  induction h with
  | nil => exact Nat.zero_le _
  | @cons question answer first rest outer head _ ih =>
    have hhead := hcost question answer first head
    rw [List.countP_append, List.countP_append, List.countP_cons, List.countP_cons, Nat.add_mul]
    split_ifs at hhead ⊢ <;> omega

/-- A spelled log costs what the exchanges that it spells cost: some of them once, some of them `n`
times, all others nothing. -/
theorem Spelled.countP_le {handler : (q : P) → Dialogue Q A (B q)}
    {single several : Exchange P B → Bool}
    (hcost : ∀ q answer log, (handler q).Branch log answer → log.countP p ≤
      (if single ⟨q, answer⟩ then 1 else 0) + (if several ⟨q, answer⟩ then n else 0))
    {outer : List (Exchange P B)} {log : List (Exchange Q A)} (h : Spelled handler outer log) :
    log.countP p ≤ outer.countP single + outer.countP several * n := by
  have hnone : log.countP (fun _ => false) = 0 :=
    List.countP_eq_zero.mpr fun _ _ => Bool.false_ne_true
  rw [← Nat.add_zero (outer.countP single + outer.countP several * n), ← hnone]
  exact h.countP_le_add fun q answer log hlog => Nat.le_add_right_of_le (hcost q answer log hlog)

end MeshControl.Dialogue
