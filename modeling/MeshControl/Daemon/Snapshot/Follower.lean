import MeshControl.Daemon.Snapshot.Agreement

/-!
# Following the state

A follower remembers the snapshot that it reported last and reports the next one that does not agree
with it.
-/

namespace MeshControl.Daemon

/-- The snapshot that was reported last, if there is one. -/
structure Follower where
  last? : Option Snapshot := none

namespace Follower

/-- Whether a snapshot is to be reported, and the follower after it. -/
def observe (f : Follower) (s : Snapshot) : Bool × Follower :=
  match f.last? with
  | some last => if last.agree s then (false, f) else (true, ⟨some s⟩)
  | none => (true, ⟨some s⟩)

/-- What is reported of a row of snapshots. -/
def observeAll (f : Follower) : List Snapshot → List Bool
  | [] => []
  | s :: rest => let (isNew, f) := f.observe s; isNew :: f.observeAll rest

end Follower

end MeshControl.Daemon
