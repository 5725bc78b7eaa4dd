import MeshControl.Dialogue
import MeshControl.Text.Utf8

/-!
# What may be asked of files

One question for each step that can fail on its own, so that a dialogue over these questions says
exactly which steps are taken and in which order.  A file is replaced by writing another one beside it
and renaming that one, which is the only step that changes what stands under the name.
-/

namespace MeshControl.Files

open MeshControl.Text

/-- Why a step failed. -/
inductive Error where
  | notFound
  | notDirectory
  | isDirectory
  | exists
  /-- The permissions do not allow it. -/
  | notPermitted
  /-- The name stands for a directory as seen from inside it. -/
  | busy
  | tooLong
  /-- A name to be given holds the character that ends names. -/
  | invalid
  /-- A name holds the character that ends names. -/
  | cutName
  /-- The contents are no text. -/
  | notText
  | other (message : String)
  deriving DecidableEq, Repr, Inhabited

/-- The message of an error. -/
def Error.message : Error → String
  | notFound => "No such file or directory (os error 2)"
  | notDirectory => "Not a directory (os error 20)"
  | isDirectory => "Is a directory (os error 21)"
  | .exists => "File exists (os error 17)"
  | notPermitted => "Permission denied (os error 13)"
  | busy => "Device or resource busy (os error 16)"
  | tooLong => "File name too long (os error 36)"
  | invalid => "Invalid argument (os error 22)"
  | cutName => "file name contained an unexpected NUL byte"
  | notText => "stream did not contain valid UTF-8"
  | other message => message

/-- A question about files. -/
inductive Call where
  /-- What does the file hold? -/
  | read (path : String)
  /-- Does anything stand under this name? -/
  | isThere (path : String)
  /-- Make a directory and those above it, as far as they are missing. -/
  | makeDirectories (path : String)
  /-- Make an empty file with a name of its own in a directory. -/
  | makeTemporary (directory : String)
  /-- Let only the owner read and write a file. -/
  | protect (path : String)
  /-- Write a text to a file, which is made if it is missing. -/
  | write (path text : String)
  /-- Wait until a file is on disk. -/
  | sync (path : String)
  /-- Put a file under another name, in place of a file of that name. -/
  | rename (old new : String)
  | remove (path : String)
  deriving DecidableEq, Repr

/-- The kind of answer to a question. -/
abbrev Call.Answer : Call → Type
  | read _ => Except Error (List UInt8)
  | isThere _ => Bool
  | makeTemporary _ => Except Error String
  | makeDirectories _ | protect _ | write _ _ | sync _ | rename _ _ | remove _ => Except Error Unit

/-- A dialogue about files. -/
abbrev Asking (α : Type) := Dialogue Call Call.Answer α

/-- The text that bytes encode. -/
def textOf (bytes : List UInt8) : Except Error String :=
  match Utf8.decode? bytes with
  | some text => .ok text
  | none => .error .notText

/-- The text that a file holds. -/
def readText (path : String) : Asking (Except Error String) := do
  let bytes : Except Error (List UInt8) ← Dialogue.query (Call.read path)
  return bytes.bind textOf

/-! ### Names of files -/

/-- A name in a directory. -/
def join (directory name : String) : String :=
  if name.startsWith "/" || directory.isEmpty then name
  else if directory.endsWith "/" then directory ++ name
  else directory ++ "/" ++ name

/-- The character that ends names, so that it stands in none. -/
def endOfName : Char := '\x00'

/-- The most bytes that a name in a directory has. -/
def nameLimit : Nat := 255

/-- The most bytes that a name from the root or from the working directory has. -/
def pathLimit : Nat := 4095

/-- The parts of a name between slashes, without empty ones and dots. -/
def parts (path : String) : List String :=
  ((path.toList.splitOn '/').map String.ofList).filter fun part => part ≠ "" && part ≠ "."

/-- The directory that a name lies in. -/
def parent (path : String) : String :=
  let above := "/".intercalate (parts path).dropLast
  if path.startsWith "/" then "/" ++ above else if above.isEmpty then "." else above

end MeshControl.Files
