import MeshControl.Host.Call
import MeshControl.Text.Blank
import MeshControl.Text.Letters
import MeshControl.Trace

/-!
# Asking for a yes

A question to the user that is answered yes by `y` or `yes` in any case, with or without blanks around
it, and no by all else.  Where nobody is to be asked the answer is no, and nothing is read.
-/

namespace MeshControl.Host

open MeshControl.Text

/-- Whether a line says yes. -/
def saysYes (line : String) : Bool :=
  ["y", "yes"].contains (asciiLowered (trimmed line))

/-- What is written before the answer is read. -/
def questionText (question : String) : String :=
  question ++ " [y/N]: "

/-- Asks the user for a yes. -/
def confirm (question : String) : Asking (Except Trace Bool) := do
  print (questionText question)
  match ← readLine with
  | .ok line => return .ok (saysYes line)
  | .error cause => return .error ⟨"Failed to read answer", [cause]⟩

/-- Asks the user for a yes, unless nobody is to be asked. -/
def confirmUnless (nonInteractive : Bool) (question : String) : Asking (Except Trace Bool) :=
  if nonInteractive then return .ok false else confirm question

end MeshControl.Host
