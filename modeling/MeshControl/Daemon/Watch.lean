import MeshControl.Daemon.Access
import MeshControl.Daemon.Snapshot.Follower
import MeshControl.Daemon.Snapshot.Report

/-!
# Watching the state

The state is polled again and again, and the screen is drawn anew whenever the follower has something
to report.  A poll that fails leaves the screen as it is.  Watching goes on for a number of rounds that
the caller chooses, which may be as large as one likes.
-/

namespace MeshControl.Daemon

namespace Watch

/-- What a watch asks. -/
inductive Call where
  /-- The state of the daemon, if it can be read. -/
  | poll
  | pause
  /-- Draw the screen. -/
  | draw (snapshot : Snapshot)

/-- The kind of answer to a question. -/
abbrev Call.Answer : Call → Type
  | poll => Option Snapshot
  | pause | draw _ => Unit

/-- A dialogue of a watch. -/
abbrev Asking (α : Type) := Dialogue Call Call.Answer α

/-- Draws a snapshot if the follower reports it. -/
def look (f : Follower) (s : Snapshot) : Asking Follower := do
  let (isNew, f) := f.observe s
  if isNew then
    let _ : Unit ← Dialogue.query (Call.draw s)
  return f

/-- Polls for so many rounds. -/
def rounds (f : Follower) : Nat → Asking Unit
  | 0 => return ()
  | n + 1 => do
    let _ : Unit ← Dialogue.query Call.pause
    match (← Dialogue.query Call.poll : Option Snapshot) with
    | some s => rounds (← look f s) n
    | none => rounds f n

/-- Watches the state from a first snapshot on. -/
def run (first : Snapshot) (n : Nat) : Asking Unit := do
  rounds (← look {} first) n

/-- What clears the screen. -/
def clearScreen : String := "\x1b[2J\x1b[H"

/-- The answer of the machine to a question of a watch. -/
def answerCall (access : Access) (interval : Nat) (ctx : ReportContext) :
    (q : Call) → Host.Asking q.Answer
  | .poll => do return (← access.onHost (statusOnce access.base)).toOption
  | .pause => Host.pause interval
  | .draw s => Host.print (clearScreen ++ s.report ctx ++ "\n")

end Watch

/-- Reads the state, with a recovery if need be, and watches it from there on. -/
def watchOnHost (access : Access) (client : Client) (recovery : Host.Asking (Except Error Unit))
    (interval : Nat) (ctx : ReportContext) (n : Nat) : Host.Asking (Except Error Unit) := do
  match ← access.callOnHost recovery (client.status true) with
  | .error e => return .error e
  | .ok first =>
    (Watch.run first n).answerWith (Watch.answerCall access interval ctx)
    return .ok ()

end MeshControl.Daemon
