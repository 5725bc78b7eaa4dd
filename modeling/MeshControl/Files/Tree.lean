import MeshControl.Files.Call
import MeshControl.Text.Search

/-!
# Trees of files

A tree of directories and files, as far as programs can see it: what each name in it holds, and with
which permissions.  `Tree.answer` answers every question about files.  A step that fails leaves the
tree as it is, but for directories that were made before one could not be.

A name is followed part by part, from the root if it begins with a slash and otherwise from the working
directory.  Two dots lead to the directory above, and each part but the last has to be a directory, so
that what a slash follows is one too.
-/

namespace MeshControl.Files

/-- What stands under a name. -/
inductive Entry where
  | directory
  /-- A file with its contents and the permissions on it. -/
  | file (contents : List UInt8) (mode : Nat)
  deriving DecidableEq, Repr, Inhabited

/-- Where something stands: the names on the way down from the root. -/
abbrev Place := List String

/-- A tree of files, the root left out. -/
structure Tree where
  entries : List (Place × Entry) := []
  /-- The working directory. -/
  here : Place := []
  deriving Repr, Inhabited

namespace Tree

/-- The permissions on a file that a program makes. -/
def commonMode : Nat := 0o644

/-- The permissions on a file for its owner alone. -/
def ownerMode : Nat := 0o600

/-- The permissions on a program. -/
def programMode : Nat := 0o755

/-- The permissions to run a file. -/
def runBits : Nat := 0o111

/-- What stands at a place. -/
def get? (t : Tree) (place : Place) : Option Entry :=
  if place.isEmpty then some .directory else t.entries.lookup place

/-- The tree without what stands at a place. -/
def erase (t : Tree) (place : Place) : Tree :=
  { t with entries := t.entries.filter fun e => e.1 ≠ place }

/-- The tree with an entry put at a place. -/
def put (t : Tree) (place : Place) (entry : Entry) : Tree :=
  { t with entries := (place, entry) :: (t.erase place).entries }

/-- The places right below a place. -/
def below (t : Tree) (place : Place) : List Place :=
  (t.entries.map Prod.fst).filter fun p => p.dropLast == place && !p.isEmpty

/-! ### Following names -/

/-- Whether a place is a directory, and the error otherwise. -/
def requireDirectory (t : Tree) (place : Place) : Except Error Unit :=
  match t.get? place with
  | some .directory => .ok ()
  | some (.file _ _) => .error .notDirectory
  | none => .error .notFound

/-- The place that names lead to from a place. -/
def follow (t : Tree) (here : Place) : List String → Except Error Place
  | [] => .ok here
  | name :: rest => do
    t.requireDirectory here
    if name = ".." then follow t here.dropLast rest
    else if name = "" ∨ name = "." then follow t here rest
    else if nameLimit < name.utf8ByteSize then .error .tooLong
    else follow t (here ++ [name]) rest

/-- Refuses a path that cannot be one. -/
def requirePath (path : String) : Except Error Unit :=
  if path.toList.contains endOfName then .error .cutName
  else if path.isEmpty then .error .notFound
  else if pathLimit < path.utf8ByteSize then .error .tooLong
  else .ok ()

/-- Where a path begins. -/
def start (t : Tree) (path : String) : Place :=
  if path.startsWith "/" then [] else t.here

/-- The place of a path. -/
def place (t : Tree) (path : String) : Except Error Place := do
  requirePath path
  t.follow (t.start path) ((path.toList.splitOn '/').map String.ofList)

/-- The place and the entry of a path. -/
def find (t : Tree) (path : String) : Except Error (Place × Entry) := do
  let place ← t.place path
  match t.get? place with
  | some entry => return (place, entry)
  | none => throw .notFound

/-- The place and the contents of a file. -/
def findFile (t : Tree) (path : String) : Except Error (Place × List UInt8 × Nat) := do
  match ← t.find path with
  | (place, .file contents mode) => return (place, contents, mode)
  | (_, .directory) => throw .isDirectory

/-! ### The steps -/

/-- Makes the directories that are missing on the way down.  A file in the way is no directory as long
as something is to be made below it, and is there already if not; once one directory was made, each
further one is made for itself. -/
def makeDirectories (t : Tree) (hasMade : Bool) (here : Place) :
    List String → Except Error Unit × Tree
  | [] => (.ok (), t)
  | name :: rest =>
    let next := if name = ".." then here.dropLast else here ++ [name]
    if nameLimit < name.utf8ByteSize then (.error .tooLong, t)
    else
      match t.get? next with
      | some .directory => makeDirectories t hasMade next rest
      | some (.file _ _) => (.error (if hasMade || rest.isEmpty then .exists else .notDirectory), t)
      | none => makeDirectories (t.put next .directory) true next rest

/-- How the names of temporary files begin. -/
def temporaryStart : String := ".tmp"

/-- A name that nothing in a directory has: it is longer than each name there that begins alike. -/
def freshName (t : Tree) (directory : Place) : String :=
  let alike := ((t.below directory).map fun p => p.getLast?.getD "").filter
    fun name => Text.startsWith name temporaryStart
  temporaryStart ++ String.ofList (List.replicate ((alike.map String.length).foldr max 0) 'x')

/-- Puts contents into a file, which is made if it is missing and keeps its permissions if not. -/
def write (t : Tree) (path : String) (contents : List UInt8) : Except Error Tree := do
  let place ← t.place path
  match t.get? place with
  | some .directory => throw .isDirectory
  | some (.file _ mode) => return t.put place (.file contents mode)
  | none => return t.put place (.file contents commonMode)

/-- Puts a file under another name, which must not be dots and must not end in a slash, for then it is
the name of a directory. -/
def rename (t : Tree) (old new : String) : Except Error Tree := do
  if new.toList.contains endOfName then throw .invalid
  let (source, contents, mode) ← t.findFile old
  requirePath new
  let names := ((Text.dropEndMarks '/' new.toList).splitOn '/').map String.ofList
  let target ← t.follow (t.start new) names
  if ["", ".", ".."].contains (names.getLast?.getD "") then throw .busy
  if new.endsWith "/" then throw .notDirectory
  match t.get? target with
  | some .directory => throw .isDirectory
  | _ => return (t.erase source).put target (.file contents mode)

/-- The answer that goes with the tree after a step, which is the tree before it if the step fails. -/
def settle (t : Tree) : Except Error Tree → Except Error Unit × Tree
  | .ok t => (.ok (), t)
  | .error e => (.error e, t)

/-- The answer to a question and the tree after it. -/
def answer (t : Tree) : (q : Call) → q.Answer × Tree
  | .read path => ((t.findFile path).map fun (_, contents, _) => contents, t)
  | .isThere path => ((t.find path).isOk, t)
  | .makeDirectories path =>
    match requirePath path with
    | .ok () => t.makeDirectories false (t.start path) (parts path)
    | .error e => (.error e, t)
  | .makeTemporary directory =>
    match t.place directory with
    | .error e => (.error e, t)
    | .ok place =>
      match t.requireDirectory place with
      | .error e => (.error e, t)
      | .ok () =>
        let name := t.freshName place
        (.ok (join directory name), t.put (place ++ [name]) (.file [] ownerMode))
  | .protect path =>
    t.settle ((t.findFile path).map fun (place, contents, _) =>
      t.put place (.file contents ownerMode))
  | .write path text => t.settle (t.write path (Text.Utf8.encode text))
  | .sync path => ((t.findFile path).map fun _ => (), t)
  | .rename old new => t.settle (t.rename old new)
  | .remove path => t.settle ((t.findFile path).map fun (place, _, _) => t.erase place)

/-! ### Programs -/

/-- The place of a file that may be run. -/
def runnable (t : Tree) (path : String) : Except Error Place := do
  match ← t.find path with
  | (place, .file _ mode) => if mode &&& runBits = 0 then throw .notPermitted else return place
  | (_, .directory) => throw .notPermitted

/-- The place of the first file among some paths that may be run.  Paths that lead nowhere or to what
may not be run are passed over; if there is no other, the failure is that of the last path, unless
something may not be run. -/
def firstRunnable (t : Tree) (failure : Error) : List String → Except Error Place
  | [] => .error failure
  | path :: rest =>
    match t.runnable path with
    | .ok place => .ok place
    | .error e =>
      if [.notFound, .notDirectory, .notPermitted].contains e then
        firstRunnable t (if failure = .notPermitted then failure else e) rest
      else .error e

/-! ### Setting up and looking -/

/-- The tree with a directory and those above it, as far as nothing stands in their way. -/
def withDirectory (t : Tree) (path : String) : Tree :=
  (t.answer (.makeDirectories path)).2

/-- The tree with a file and the directories above it, as far as nothing stands in their way. -/
def withFile (t : Tree) (path : String) (contents : List UInt8) : Tree :=
  let t := t.withDirectory (parent path)
  (t.settle (t.write path contents)).2

/-- The text of a file, with U+FFFD for what is no text. -/
def text? (t : Tree) (path : String) : Option String :=
  match t.findFile path with
  | .ok (_, contents, _) => some (Text.Utf8.decodeLossy contents)
  | .error _ => none

/-- The permissions on what stands under a name; a directory can also be entered by everyone. -/
def mode? (t : Tree) (path : String) : Option Nat :=
  match t.find path with
  | .ok (_, .file _ mode) => some mode
  | .ok (_, .directory) => some 0o755
  | .error _ => none

/-- The number of names in a directory. -/
def count (t : Tree) (directory : String) : Nat :=
  match t.place directory with
  | .ok place => (t.below place).length
  | .error _ => 0

end Tree

end MeshControl.Files
