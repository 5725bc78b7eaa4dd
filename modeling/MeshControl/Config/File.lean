import MeshControl.Config.Layers

/-!
# The configuration file

What is asked of files to load and to save the configuration.  A file that is not there is not read;
the directory of a file that is saved is made if it is missing.
-/

namespace MeshControl.Config

open MeshControl.Files (Call)

/-- What reading a file comes to if it is there. -/
def readIfThere (path : String) : Files.Asking (Option (Except Files.Error String)) := do
  if ← Dialogue.query (Call.isThere path) then return some (← Files.readText path)
  else return none

/-- Loads the configuration from a file. -/
def loadFrom (path : String) : Files.Asking (Except LoadError Config) := do
  return ofFile (← readIfThere path)

/-- Why the configuration cannot be saved. -/
inductive SaveError where
  /-- The directory of the file cannot be made. -/
  | noDirectory (cause : Files.Error)
  | unwritable (cause : Files.Error)
  deriving DecidableEq, Repr

/-- What the user is told of an error. -/
def SaveError.trace : SaveError → Trace
  | noDirectory cause => ⟨"Failed to create config directory", [cause.message]⟩
  | unwritable cause => ⟨"Failed to write config file", [cause.message]⟩

/-- A step of saving. -/
def saveStep (fail : Files.Error → SaveError) (d : Files.Asking (Except Files.Error Unit)) :
    ExceptT SaveError (Dialogue Call Call.Answer) Unit :=
  ExceptT.mk do return (← d).mapError fail

/-- Saves the configuration to a file. -/
def saveTo (path : String) (c : Config) : Files.Asking (Except SaveError Unit) := ExceptT.run do
  saveStep .noDirectory (Dialogue.query (Call.makeDirectories (Files.parent path)))
  saveStep .unwritable (Dialogue.query (Call.write path c.fileText))

end MeshControl.Config
