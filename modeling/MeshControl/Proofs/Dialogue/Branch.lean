import MeshControl.Dialogue

/-!
# Branches of a dialogue

`Branch d log value` says that the questions and answers of `log`, in this order, lead through the
dialogue `d` from its root to `value`.  A run against any surroundings is a branch
(`branch_runLogged`), so what holds of all branches holds whatever the surroundings answer.
Branches are taken apart along the way in which the dialogue was put together: `branch_bind_iff`
cuts a log where the second part begins, `branch_run_bind_iff` does so where the first part may
fail, and `branch_answerWith_iff` cuts it into the logs that stand for the questions of an outer
dialogue.
-/

namespace MeshControl.Dialogue

variable {Q P : Type} {A : Q → Type} {B : P → Type} {α β ε σ : Type}

/-- The exchanges of a log lead through a dialogue to a value. -/
inductive Branch : Dialogue Q A α → List (Exchange Q A) → α → Prop
  | done (value : α) : Branch (.done value) [] value
  | ask {question : Q} {next : A question → Dialogue Q A α} {log : List (Exchange Q A)} {value : α}
      (answer : A question) (rest : Branch (next answer) log value) :
      Branch (.ask question next) (⟨question, answer⟩ :: log) value

@[simp]
theorem branch_done_iff {value : α} {log : List (Exchange Q A)} {result : α} :
    (done value : Dialogue Q A α).Branch log result ↔ log = [] ∧ result = value := by
  constructor
  · intro h
    cases h
    exact ⟨rfl, rfl⟩
  · rintro ⟨rfl, rfl⟩
    exact .done _

theorem branch_ask_iff {question : Q} {next : A question → Dialogue Q A α}
    {log : List (Exchange Q A)} {result : α} :
    (ask question next).Branch log result ↔
      ∃ answer rest, log = ⟨question, answer⟩ :: rest ∧ (next answer).Branch rest result := by
  constructor
  · intro h
    cases h with
    | ask answer rest => exact ⟨answer, _, rfl, rest⟩
  · rintro ⟨answer, rest, rfl, h⟩
    exact .ask answer h

@[simp]
theorem branch_query_iff {question : Q} {log : List (Exchange Q A)} {answer : A question} :
    (query question).Branch log answer ↔ log = [⟨question, answer⟩] := by
  rw [query, branch_ask_iff]
  constructor
  · rintro ⟨a, rest, rfl, h⟩
    obtain ⟨rfl, rfl⟩ := branch_done_iff.mp h
    rfl
  · rintro rfl
    exact ⟨answer, [], rfl, .done answer⟩

/-- A branch through two dialogues, one after the other, is a branch of each. -/
theorem branch_bind_iff {d : Dialogue Q A α} {f : α → Dialogue Q A β} {log : List (Exchange Q A)}
    {result : β} :
    (d.bind f).Branch log result ↔
      ∃ first value rest, d.Branch first value ∧ (f value).Branch rest result ∧
        log = first ++ rest := by
  constructor
  · intro h
    induction d generalizing log with
    | done value => exact ⟨[], value, log, .done value, h, rfl⟩
    | ask question next ih =>
      obtain ⟨answer, tail, rfl, htail⟩ := branch_ask_iff.mp h
      obtain ⟨first, value, rest, hd, hf, rfl⟩ := ih answer htail
      exact ⟨⟨question, answer⟩ :: first, value, rest, .ask answer hd, hf, rfl⟩
  · rintro ⟨first, value, rest, hd, hf, rfl⟩
    induction hd with
    | done value => exact hf
    | ask answer _ ih => exact .ask answer (ih hf)

/-- What returns its value as it is adds nothing. -/
theorem bind_eq_self {d : Dialogue Q A α} {f : α → Dialogue Q A α}
    (h : ∀ value, f value = done value) : d.bind f = d := by
  rw [funext h, bind_done]

/-- **A run is a branch.** Whatever the surroundings answer, the log of a run leads to its value. -/
theorem branch_runLogged (world : σ → (q : Q) → A q × σ) (d : Dialogue Q A α) (s : σ) :
    d.Branch (d.runLogged world s).2.2 (d.runLogged world s).1 := by
  induction d generalizing s with
  | done value => exact .done value
  | ask question next ih => exact .ask _ (ih _ _)

/-- What holds of all answers of the surroundings holds of all exchanges of a run. -/
theorem forall_mem_runLogged {world : σ → (q : Q) → A q × σ} {p : Exchange Q A → Prop}
    (h : ∀ s q, p ⟨q, (world s q).1⟩) (d : Dialogue Q A α) (s : σ) :
    ∀ x ∈ (d.runLogged world s).2.2, p x := by
  induction d generalizing s with
  | done value => exact nofun
  | ask question next ih =>
    intro x hx
    rcases List.mem_cons.mp hx with rfl | hx
    · exact h s question
    · exact ih _ _ x hx

/-! ### Dialogues that may fail -/

/-- A branch through two dialogues of which the first may fail ends with its failure or goes on. -/
theorem branch_run_bind_iff {x : ExceptT ε (Dialogue Q A) α} {f : α → ExceptT ε (Dialogue Q A) β}
    {log : List (Exchange Q A)} {result : Except ε β} :
    (x >>= f).run.Branch log result ↔
      (∃ e, x.run.Branch log (.error e) ∧ result = .error e) ∨
      ∃ first value rest, x.run.Branch first (.ok value) ∧ (f value).run.Branch rest result ∧
        log = first ++ rest := by
  rw [ExceptT.run_bind, bind_eq, branch_bind_iff]
  constructor
  · rintro ⟨first, value | value, rest, hx, hf, rfl⟩
    · obtain ⟨rfl, rfl⟩ := branch_done_iff.mp hf
      exact .inl ⟨value, by rwa [List.append_nil], rfl⟩
    · exact .inr ⟨first, value, rest, hx, hf, rfl⟩
  · rintro (⟨e, hx, rfl⟩ | ⟨first, value, rest, hx, hf, rfl⟩)
    · exact ⟨log, .error e, [], hx, .done _, (List.append_nil log).symm⟩
    · exact ⟨first, .ok value, rest, hx, hf, rfl⟩

/-- A dialogue that cannot fail succeeds among those that can. -/
theorem branch_run_liftM_iff {d : Dialogue Q A α} {log : List (Exchange Q A)}
    {result : Except ε α} :
    (liftM d : ExceptT ε (Dialogue Q A) α).run.Branch log result ↔
      ∃ value, result = .ok value ∧ d.Branch log value := by
  show (d.bind fun value => done (.ok value)).Branch log result ↔ _
  rw [branch_bind_iff]
  constructor
  · rintro ⟨first, value, rest, hd, hdone, rfl⟩
    obtain ⟨rfl, rfl⟩ := branch_done_iff.mp hdone
    exact ⟨value, rfl, (List.append_nil first).symm ▸ hd⟩
  · rintro ⟨value, rfl, hd⟩
    exact ⟨log, value, [], hd, .done _, (List.append_nil log).symm⟩

/-! ### Dialogues in place of questions -/

theorem answerWith_bind (handler : (q : Q) → Dialogue P B (A q)) (d : Dialogue Q A α)
    (f : α → Dialogue Q A β) :
    (d.bind f).answerWith handler =
      (d.answerWith handler).bind fun a => (f a).answerWith handler := by
  induction d with
  | done value => rfl
  | ask question next ih =>
    rw [ask_bind, answerWith, answerWith, bind_assoc]
    congr 1
    funext answer
    exact ih answer

/-- Answering by dialogues whose questions are answered by dialogues is answering by the whole. -/
theorem answerWith_answerWith {R : Type} {C : R → Type} (outer : (q : Q) → Dialogue P B (A q))
    (inner : (q : P) → Dialogue R C (B q)) (d : Dialogue Q A α) :
    (d.answerWith outer).answerWith inner = d.answerWith fun q => (outer q).answerWith inner := by
  induction d with
  | done value => rfl
  | ask question next ih =>
    rw [answerWith, answerWith, answerWith_bind]
    congr 1
    funext answer
    exact ih answer

/-- A log in which the exchanges of an outer log are spelled out: each as a branch of the dialogue
that answers its question. -/
inductive Spelled (handler : (q : Q) → Dialogue P B (A q)) :
    List (Exchange Q A) → List (Exchange P B) → Prop
  | nil : Spelled handler [] []
  | cons {question : Q} {answer : A question} {first rest : List (Exchange P B)}
      {outer : List (Exchange Q A)} (head : (handler question).Branch first answer)
      (tail : Spelled handler outer rest) :
      Spelled handler (⟨question, answer⟩ :: outer) (first ++ rest)

/-- What stands in a spelled log spells one of the exchanges out. -/
theorem Spelled.exists_of_mem {handler : (q : Q) → Dialogue P B (A q)} {outer : List (Exchange Q A)}
    {log : List (Exchange P B)} (h : Spelled handler outer log) {x : Exchange P B} (hmem : x ∈ log) :
    ∃ question answer part, ⟨question, answer⟩ ∈ outer ∧ (handler question).Branch part answer ∧
      x ∈ part := by
  induction h with
  | nil => cases hmem
  | cons head _ ih =>
    rcases List.mem_append.mp hmem with hmem | hmem
    · exact ⟨_, _, _, List.mem_cons_self, head, hmem⟩
    · obtain ⟨question, answer, part, houter, hpart, hmem⟩ := ih hmem
      exact ⟨question, answer, part, List.mem_cons_of_mem _ houter, hpart, hmem⟩

/-- Each exchange is spelled out within the log. -/
theorem Spelled.exists_part {handler : (q : Q) → Dialogue P B (A q)} {outer : List (Exchange Q A)}
    {log : List (Exchange P B)} (h : Spelled handler outer log) {question : Q} {answer : A question}
    (hmem : ⟨question, answer⟩ ∈ outer) :
    ∃ part, (handler question).Branch part answer ∧ part ⊆ log := by
  induction h with
  | nil => cases hmem
  | cons head _ ih =>
    rcases List.mem_cons.mp hmem with heq | hmem
    · cases heq
      exact ⟨_, head, List.subset_append_left _ _⟩
    · obtain ⟨part, hpart, hsub⟩ := ih hmem
      exact ⟨part, hpart, fun x hx => List.mem_append_right _ (hsub hx)⟩

/-- A branch of a dialogue whose questions are answered by dialogues spells a branch of that
dialogue out. -/
theorem branch_answerWith_iff {handler : (q : Q) → Dialogue P B (A q)} {d : Dialogue Q A α}
    {log : List (Exchange P B)} {result : α} :
    (d.answerWith handler).Branch log result ↔
      ∃ outer, d.Branch outer result ∧ Spelled handler outer log := by
  constructor
  · intro h
    induction d generalizing log with
    | done value =>
      obtain ⟨rfl, rfl⟩ := branch_done_iff.mp h
      exact ⟨[], .done _, .nil⟩
    | ask question next ih =>
      obtain ⟨first, answer, rest, hq, hrest, rfl⟩ := branch_bind_iff.mp h
      obtain ⟨outer, hd, hs⟩ := ih answer hrest
      exact ⟨⟨question, answer⟩ :: outer, .ask answer hd, .cons hq hs⟩
  · rintro ⟨outer, hd, hs⟩
    induction hd generalizing log with
    | done value =>
      cases hs
      exact .done value
    | ask answer _ ih =>
      cases hs with
      | cons head tail => exact branch_bind_iff.mpr ⟨_, answer, _, head, ih tail, rfl⟩

end MeshControl.Dialogue
