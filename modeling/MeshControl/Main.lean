import MeshControl.CommandLine.Program

/-!
# The program on a real machine

Each question of a command is put to the operating system and answered with what it says; all that is
decided is decided in `MeshControl.CommandLine`.  Files, the terminal, the clock and the environment
are within reach.  Requests, other programs and typing without an echo are not, and every such question
is answered with a failure.
-/

namespace MeshControl.Main

open MeshControl.Host

/-- The reason why a question about files is answered with a failure. -/
def fileError : IO.Error → Files.Error
  | .noFileOrDirectory .. => .notFound
  | .alreadyExists .. => .exists
  | .inappropriateType _ 20 _ => .notDirectory
  | .inappropriateType _ 21 _ => .isDirectory
  | .permissionDenied .. => .notPermitted
  | .resourceBusy .. => .busy
  | .invalidArgument _ 36 _ => .tooLong
  | .invalidArgument .. => .invalid
  | e => .other (toString e)

/-- An action with its failure as a value. -/
def tried {α : Type} (action : IO α) : IO (Except Files.Error α) := do
  match ← action.toBaseIO with
  | .ok value => return .ok value
  | .error e => return .error (fileError e)

/-- Whether anything stands under a name. -/
def isThere (path : String) : IO Bool := do
  match ← tried (IO.FS.Handle.mk path .read) with
  | .error .notFound => return false
  | .error .notDirectory => return false
  | _ => return true

/-- Makes an empty file with a name of its own. -/
def makeTemporary (directory : String) : IO String := do
  let path := Files.join directory (".tmp" ++ toString (← IO.rand 100000000 999999999))
  let _ ← IO.FS.Handle.mk path .writeNew
  return path

/-- Lets only the owner read and write a file. -/
def protect (path : String) : IO Unit :=
  IO.setAccessRights path { user := { read := true, write := true } }

/-- Answers a question about files. -/
def answerFiles : (q : Files.Call) → IO q.Answer
  | .read path => tried do return (← IO.FS.readBinFile path).toList
  | .isThere path => isThere path
  | .makeDirectories path => tried (IO.FS.createDirAll path)
  | .makeTemporary directory => tried (makeTemporary directory)
  | .protect path => tried (protect path)
  | .write path text => tried (IO.FS.writeFile path text)
  | .sync path => tried do (← IO.FS.Handle.mk path .append).flush
  | .rename old new => tried (IO.FS.rename old new)
  | .remove path => tried (IO.FS.removeFile path)

/-- Reads a line byte by byte, so that nothing behind it is taken from the input. -/
partial def readLine (input : IO.FS.Stream) (line : List UInt8) : IO (List UInt8) := do
  match (← input.read 1).toList with
  | [b] => if b = 0x0A then return (b :: line).reverse else readLine input (b :: line)
  | _ => return line.reverse

/-- Answers a question. -/
def answer : (q : Call) → IO q.Answer
  | .files q => answerFiles q
  | .send _ => return .error (.broken ["the network is out of reach"])
  | .capture .. => return .error (.notStarted "other programs are out of reach")
  | .attach .. => return .error "other programs are out of reach"
  | .pause milliseconds => IO.sleep (UInt32.ofNat milliseconds)
  | .print text => do
    let out ← IO.getStdout
    out.putStr text
    out.flush
  | .complain text => IO.eprint text
  | .readLine => do
    match ← tried (readLine (← IO.getStdin) []) with
    | .ok bytes => return .ok bytes
    | .error e => return .error e.message
  | .readHidden => return .error "the terminal cannot be silenced"
  | .isSuperuser => return false
  | .accountHome => return none

/-- Holds a dialogue with the operating system. -/
def hold {α : Type} : Asking α → IO α
  | .done value => return value
  | .ask question next => do hold (next (← answer question))

/-- How the program was made. -/
def release : CommandLine.Release :=
  ⟨"unknown", "unknown", "unknown"⟩

/-- More rounds than anybody watches. -/
def rounds : Nat := UInt64.size

end MeshControl.Main

/-- Runs the program. -/
def main (words : List String) : IO UInt32 := do
  let values ← MeshControl.CommandLine.environmentNames.mapM fun name => do return (name, ← IO.getEnv name)
  let environment (name : String) : Option String := (values.lookup name).join
  let code ← MeshControl.Main.hold
    (MeshControl.CommandLine.runProgram words environment MeshControl.Main.release
      MeshControl.Main.rounds)
  return UInt32.ofNat code
