/-!
# Observing changes

An observer remembers the value it saw last and tells whether the next one differs from it, so that of
a row of values the first of each run of equal ones is news.
-/

namespace MeshControl.Wait

/-- The value that was seen last, if there is one. -/
structure Observer (α : Type) where
  last? : Option α := none
  deriving Repr

namespace Observer

variable {α : Type} [DecidableEq α]

/-- Whether a value is news, and the observer that has seen it. -/
def update (o : Observer α) (value : α) : Bool × Observer α :=
  if o.last? = some value then (false, o) else (true, ⟨some value⟩)

/-- Which values of a row are news. -/
def updateAll (o : Observer α) : List α → List Bool
  | [] => []
  | value :: rest => let (isNew, o) := o.update value; isNew :: o.updateAll rest

/-- The observer after any value has seen that value. -/
@[simp]
theorem last?_update (o : Observer α) (value : α) : (o.update value).2.last? = some value := by
  by_cases h : o.last? = some value <;> simp [update, h]

@[simp]
theorem update_fst (o : Observer α) (value : α) :
    (o.update value).1 = decide (o.last? ≠ some value) := by
  by_cases h : o.last? = some value <;> simp [update, h]

end Observer

end MeshControl.Wait
