/-!
# Answers by a script

A script gives its answers in order, and the last one again and again.  An empty script gives none.
-/

namespace MeshControl.Script

variable {α : Type}

/-- The answer that is due, and the script after it. -/
def next : List α → Option α × List α
  | [] => (none, [])
  | [last] => (some last, [last])
  | first :: rest => (some first, rest)

/-- The answers to so many questions. -/
def answers (script : List α) : Nat → List (Option α)
  | 0 => []
  | n + 1 => (next script).1 :: answers (next script).2 n

@[simp]
theorem length_answers (script : List α) (n : Nat) : (answers script n).length = n := by
  induction n generalizing script with
  | zero => rfl
  | succ n ih => simp [answers, ih]

end MeshControl.Script
