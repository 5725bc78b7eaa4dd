import MeshControl.Dialogue
import MeshControl.Terminal.Style
import MeshControl.Wait.Condition
import MeshControl.Wait.Observer

/-!
# Waiting

The state is polled until a condition holds or the attempts are used up, with a pause between one
attempt and the next.  A poll that fails costs an attempt and nothing else.  What is still missing is
reported when it changes.  Whether a condition holds is a question too (`Call.check`), so a statement
about waiting covers conditions that answer differently each time.
-/

namespace MeshControl.Wait

open MeshControl.Daemon MeshControl.Terminal

/-- What is reported of a wait. -/
inductive Event where
  | start (text : String)
  | update (text : String)
  | success (text : String)
  | failure (text : String)
  deriving DecidableEq, Repr

/-- What a report writes where nothing moves: a line each. -/
def Event.line : Event → String
  | start text | update text => text ++ "\n"
  | success text => successLine text
  | failure text => failureLine text

/-- What a wait for a condition asks. -/
inductive Call (C : Type) where
  /-- The state of the daemon, if it can be read. -/
  | poll
  | check (condition : C) (snapshot : Snapshot)
  | pause
  | report (event : Event)

/-- The kind of answer to a question. -/
abbrev Call.Answer {C : Type} : Call C → Type
  | poll => Option Snapshot
  | check _ _ => Verdict
  | pause | report _ => Unit

/-- A dialogue of a wait. -/
abbrev Asking (C α : Type) := Dialogue (Call C) Call.Answer α

/-- A wait that was given up. -/
structure Timeout where
  description : String
  attempts : Nat
  deriving DecidableEq, Repr

/-- The message of a wait that was given up. -/
def Timeout.message (t : Timeout) : String :=
  "timeout while waiting: " ++ t.description ++ " (gave up after " ++ toString t.attempts
    ++ " attempts)"

variable {C : Type}

/-- Reports an event. -/
def report (event : Event) : Asking C Unit :=
  Dialogue.query (Call.report event)

/-- What is reported while a condition does not hold. -/
def pendingText (description hint : String) : String :=
  if hint.isEmpty then description else description ++ " " ++ hint

/-- Makes so many attempts, with a pause between them, and tells whether the condition came to hold.
The observer has seen what was reported last. -/
def attempts (condition : C) (description : String) (o : Observer String) :
    (left : Nat) → Asking C Bool
  | 0 => return false
  | left + 1 => do
    let goOn (o : Observer String) : Asking C Bool := do
      if left = 0 then return false
      Dialogue.query Call.pause
      attempts condition description o left
    match (← Dialogue.query Call.poll : Option Snapshot) with
    | none => goOn o
    | some snapshot =>
      let verdict : Verdict ← Dialogue.query (Call.check condition snapshot)
      if verdict.isDone then return true
      let text := pendingText description verdict.hint
      let (isNew, o) := o.update text
      if isNew then report (.update text)
      goOn o

/-- Waits for a condition, for so many attempts at the most. -/
def wait (describe : C → String) (max : Nat) (condition : C) : Asking C (Except Timeout Unit) := do
  let description := describe condition
  report (.start description)
  if ← attempts condition description {} max then
    report (.success description)
    return .ok ()
  else
    report (.failure description)
    return .error ⟨description, max⟩

/-- Waits for one condition after another, up to the first that does not come to hold. -/
def waitAll (describe : C → String) (max : Nat) : List C → Asking C (Except Timeout Unit)
  | [] => return .ok ()
  | condition :: rest => do
    match ← wait describe max condition with
    | .ok () => waitAll describe max rest
    | .error timeout => return .error timeout

end MeshControl.Wait
