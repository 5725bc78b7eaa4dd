import MeshControl.Text.Search

/-!
# What the user is told of a failure

A trace is the message of a failure and the messages of its causes, the outermost first.  It is shown
in full at the end of a command (`Trace.text`) and on one line where it is part of another message.
-/

namespace MeshControl

/-- The message of a failure and those of its causes. -/
structure Trace where
  message : String
  causes : List String := []
  deriving DecidableEq, Repr, Inhabited

namespace Trace

/-- The trace of messages, outermost first. -/
def ofMessages (messages : List String) : Trace :=
  ⟨messages.headD "", messages.tail⟩

/-- The failure of which this one is the cause. -/
def within (t : Trace) (message : String) : Trace :=
  ⟨message, t.message :: t.causes⟩

/-- All messages on one line. -/
def oneLine (t : Trace) : String :=
  Text.joined ": " (t.message :: t.causes)

/-- A text with so many spaces at the beginning of each line but the first. -/
def indentLater (width : Nat) (s : String) : String :=
  String.ofList (s.toList.flatMap fun c =>
    if c = '\n' then '\n' :: List.replicate width ' ' else [c])

/-- A cause on lines of its own, with its number. -/
def numberedLine (number : Nat) (cause : String) : String :=
  let digits := toString number
  "\n" ++ String.ofList (List.replicate (5 - digits.length) ' ') ++ digits ++ ": "
    ++ indentLater 7 cause

/-- The causes below a message. -/
def causeText : List String → String
  | [] => ""
  | [cause] => "\n\nCaused by:\n    " ++ indentLater 4 cause
  | causes => "\n\nCaused by:" ++ Text.joined "" (causes.mapIdx numberedLine)

/-- A failure as it is shown at the end of a command. -/
def text (t : Trace) : String :=
  t.message ++ causeText t.causes

end Trace

end MeshControl
