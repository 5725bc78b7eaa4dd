/-!
# Dialogues

A command asks things of its surroundings: send this request, read that file, what does the user say.
A `Dialogue` is the finite tree of such questions: at each node it asks one and goes on according to
the answer.  What a command may ask, and what kind of answer belongs to each question, are its
parameters, so a law about a dialogue holds whatever the surroundings answer, and each time anew.

`run` plays a dialogue against surroundings with a state, `runLogged` also keeps the questions with
their answers in the order in which they were asked, and `answerWith` puts a dialogue with other
surroundings in the place of each question.
-/

namespace MeshControl

/-- A tree of questions with a value at the end of each branch. -/
inductive Dialogue (Q : Type) (A : Q → Type) (α : Type) : Type where
  | done (value : α)
  | ask (question : Q) (next : A question → Dialogue Q A α)

namespace Dialogue

variable {Q : Type} {A : Q → Type} {α β γ σ : Type}

/-- A dialogue followed by one that depends on its value. -/
def bind : Dialogue Q A α → (α → Dialogue Q A β) → Dialogue Q A β
  | done value, f => f value
  | ask question next, f => ask question fun answer => (next answer).bind f

instance : Monad (Dialogue Q A) where
  pure := done
  bind := bind

/-- The dialogue of one question. -/
def query (question : Q) : Dialogue Q A (A question) :=
  ask question done

/-- A question and the answer to it. -/
structure Exchange (Q : Type) (A : Q → Type) where
  question : Q
  answer : A question

/-- The value of a dialogue and the state of its surroundings at the end. -/
def run (world : σ → (q : Q) → A q × σ) : Dialogue Q A α → σ → α × σ
  | done value, s => (value, s)
  | ask question next, s =>
    let (answer, s) := world s question
    (next answer).run world s

/-- The value of a dialogue, the state of its surroundings at the end, and what was asked and answered
on the way. -/
def runLogged (world : σ → (q : Q) → A q × σ) :
    Dialogue Q A α → σ → α × σ × List (Exchange Q A)
  | done value, s => (value, s, [])
  | ask question next, s =>
    let (answer, s) := world s question
    let (value, s, log) := (next answer).runLogged world s
    (value, s, ⟨question, answer⟩ :: log)

/-- The dialogue in which each question is answered by a dialogue with other surroundings. -/
def answerWith {P : Type} {B : P → Type} (handler : (q : Q) → Dialogue P B (A q)) :
    Dialogue Q A α → Dialogue P B α
  | done value => done value
  | ask question next => (handler question).bind fun answer => (next answer).answerWith handler

@[simp]
theorem pure_eq (value : α) : (pure value : Dialogue Q A α) = done value := rfl

@[simp]
theorem bind_eq (d : Dialogue Q A α) (f : α → Dialogue Q A β) : d >>= f = d.bind f := rfl

@[simp]
theorem done_bind (value : α) (f : α → Dialogue Q A β) : (done value).bind f = f value := rfl

@[simp]
theorem ask_bind (q : Q) (next : A q → Dialogue Q A α) (f : α → Dialogue Q A β) :
    (ask q next).bind f = ask q fun a => (next a).bind f := rfl

@[simp]
theorem bind_done (d : Dialogue Q A α) : d.bind done = d := by
  induction d with
  | done value => rfl
  | ask q next ih => simp [ih]

theorem bind_assoc (d : Dialogue Q A α) (f : α → Dialogue Q A β) (g : β → Dialogue Q A γ) :
    (d.bind f).bind g = d.bind fun a => (f a).bind g := by
  induction d with
  | done value => rfl
  | ask q next ih => simp [ih]

theorem run_bind (world : σ → (q : Q) → A q × σ) (d : Dialogue Q A α) (f : α → Dialogue Q A β)
    (s : σ) : (d.bind f).run world s = (f (d.run world s).1).run world (d.run world s).2 := by
  induction d generalizing s with
  | done value => rfl
  | ask q next ih => simp [run, ih]

theorem runLogged_bind (world : σ → (q : Q) → A q × σ) (d : Dialogue Q A α)
    (f : α → Dialogue Q A β) (s : σ) :
    (d.bind f).runLogged world s =
      let (value, s, log) := d.runLogged world s
      let (result, s, rest) := (f value).runLogged world s
      (result, s, log ++ rest) := by
  induction d generalizing s with
  | done value => rfl
  | ask q next ih => simp [runLogged, ih]

end Dialogue

end MeshControl
