import MeshControl.Daemon.Access
import MeshControl.Wait.Waiter

/-!
# Waiting on a machine

A wait polls the daemon with single attempts, so it never brings the daemon back up itself, and writes
what it reports to the terminal.
-/

namespace MeshControl.Wait

open MeshControl.Daemon

/-- How often and how long to poll. -/
structure Policy where
  /-- Milliseconds between polls. -/
  interval : Nat := 1000
  attempts : Nat := 120
  deriving DecidableEq, Repr, Inhabited

/-- The answer of the machine to a question of a wait. -/
def answerCall (access : Access) (interval : Nat) : (q : Call Condition) → Host.Asking q.Answer
  | .poll => do return (← access.onHost (statusOnce access.base)).toOption
  | .check condition snapshot => return condition.check snapshot
  | .pause => Host.pause interval
  | .report event => Host.print event.line

/-- Waits on the machine for one condition after another. -/
def onHost (access : Access) (policy : Policy) (conditions : List Condition) :
    Host.Asking (Except Timeout Unit) :=
  (waitAll Condition.description policy.attempts conditions).answerWith
    (answerCall access policy.interval)

end MeshControl.Wait
