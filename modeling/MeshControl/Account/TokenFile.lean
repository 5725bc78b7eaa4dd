import MeshControl.Account.Error
import MeshControl.Text.Blank

/-!
# The kept token

The token is kept in a file of its own that only its owner can read.  Saving writes another file
beside it, with these permissions and the whole token in it, and renames that file at the end; so what
stands under the name is at all times a whole token, whichever step fails or is the last one taken.
-/

namespace MeshControl.Account.TokenFile

open MeshControl.Files MeshControl.Text

/-- The token in the text of a file, if it is not blank. -/
def tokenOf? (text : String) : Option String :=
  if (trimmed text).isEmpty then none else some (trimmed text)

/-- Reads the kept token. -/
def load (path : String) : Files.Asking (Except TokenError (Option String)) := do
  match ← readText path with
  | .ok text => return .ok (tokenOf? text)
  | .error .notFound => return .ok none
  | .error cause => return .error (.unreadable path cause)

/-- The steps that fill a file that has just been made and put it under its name. -/
def fill (temporary path token : String) : ExceptT Files.Error (Dialogue Call Call.Answer) Unit := do
  ExceptT.mk (Dialogue.query (Call.protect temporary))
  ExceptT.mk (Dialogue.query (Call.write temporary token))
  ExceptT.mk (Dialogue.query (Call.sync temporary))
  ExceptT.mk (Dialogue.query (Call.rename temporary path))

/-- Fills a file that has just been made and puts it under its name, or removes it. -/
def fillOrRemove (temporary path token : String) : Files.Asking (Except Files.Error Unit) := do
  match ← (fill temporary path token).run with
  | .ok () => return .ok ()
  | .error cause =>
    let _ : Except Files.Error Unit ← Dialogue.query (Call.remove temporary)
    return .error cause

/-- The steps that save a token. -/
def saveSteps (path token : String) : ExceptT Files.Error (Dialogue Call Call.Answer) Unit := do
  let directory := parent path
  ExceptT.mk (Dialogue.query (Call.makeDirectories directory))
  let temporary ← ExceptT.mk (Dialogue.query (Call.makeTemporary directory))
  ExceptT.mk (fillOrRemove temporary path token)

/-- Keeps a token. -/
def save (path token : String) : Files.Asking (Except TokenError Unit) := do
  return (← (saveSteps path token).run).mapError (.unwritable path)

/-- Forgets the kept token; there need not be one. -/
def clear (path : String) : Files.Asking (Except TokenError Unit) := do
  match (← Dialogue.query (Call.remove path) : Except Files.Error Unit) with
  | .ok () => return .ok ()
  | .error .notFound => return .ok ()
  | .error cause => return .error (.unwritable path cause)

end MeshControl.Account.TokenFile
