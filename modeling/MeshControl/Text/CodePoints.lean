/-!
# Sets of code points

A Unicode property holds of some thousand code points that lie in a few hundred regular runs: either
every code point from a first to a last one, or every other one (capital and small letters alternate
in most alphabets).  A `Run` is such a stretch, a property is a list of runs, and a `MappedRun` also
says where the stretch is moved to, which is how the case mappings are written down.
-/

namespace MeshControl.Text

/-- The code points `first`, `first + step`, …, up to `last`. -/
structure Run where
  first : Nat
  last : Nat
  step : Nat
  deriving DecidableEq, Repr

/-- Whether a code point lies on a run. -/
def Run.holds (r : Run) (code : Nat) : Bool :=
  r.first ≤ code && code ≤ r.last && (code - r.first) % r.step == 0

/-- Whether a code point lies on one of the runs. -/
def onRun (runs : List Run) (code : Nat) : Bool :=
  runs.any (·.holds code)

/-- A run whose code points are moved, the first of them to `target`. -/
structure MappedRun where
  run : Run
  target : Nat
  deriving DecidableEq, Repr

/-- Where the first run that holds a code point moves it, if one does. -/
def moved? (runs : List MappedRun) (code : Nat) : Option Nat :=
  (runs.find? (·.run.holds code)).map fun m => m.target + (code - m.run.first)

end MeshControl.Text
