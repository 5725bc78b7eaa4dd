import MeshControl.Host.Call
import MeshControl.Text.Blank
import MeshControl.Trace

/-!
# Other programs

Where a program lies, what it says, and how its end is told.
-/

namespace MeshControl.Host

open MeshControl.Text

/-- The names of the signals that end programs. -/
def signalName? : Nat → Option String
  | 1 => some "SIGHUP"
  | 2 => some "SIGINT"
  | 3 => some "SIGQUIT"
  | 4 => some "SIGILL"
  | 5 => some "SIGTRAP"
  | 6 => some "SIGABRT"
  | 7 => some "SIGBUS"
  | 8 => some "SIGFPE"
  | 9 => some "SIGKILL"
  | 10 => some "SIGUSR1"
  | 11 => some "SIGSEGV"
  | 12 => some "SIGUSR2"
  | 13 => some "SIGPIPE"
  | 14 => some "SIGALRM"
  | 15 => some "SIGTERM"
  | 16 => some "SIGSTKFLT"
  | 17 => some "SIGCHLD"
  | 18 => some "SIGCONT"
  | 19 => some "SIGSTOP"
  | 20 => some "SIGTSTP"
  | 21 => some "SIGTTIN"
  | 22 => some "SIGTTOU"
  | 23 => some "SIGURG"
  | 24 => some "SIGXCPU"
  | 25 => some "SIGXFSZ"
  | 26 => some "SIGVTALRM"
  | 27 => some "SIGPROF"
  | 28 => some "SIGWINCH"
  | 29 => some "SIGIO"
  | 30 => some "SIGPWR"
  | 31 => some "SIGSYS"
  | _ => none

namespace Ending

/-- Whether a program ended well. -/
def isSuccess (e : Ending) : Bool :=
  e = .exited 0

/-- How the end of a program is told. -/
def text : Ending → String
  | exited code => "exit status: " ++ toString code
  | killed signal =>
    "signal: " ++ toString signal ++ ((signalName? signal).map fun n => " (" ++ n ++ ")").getD ""

/-- The exit code of a program, with the word for its presence. -/
def codeText : Ending → String
  | exited code => "Some(" ++ toString code ++ ")"
  | killed _ => "None"

end Ending

/-- The message of a program that did not run to its end. -/
def RunError.message : RunError → String
  | notStarted cause => "I/O error while running command: " ++ cause
  | timedOut => "Command timed out"

/-- What a program writes, with U+FFFD for what is no text. -/
def Output.text (o : Output) : String :=
  trimmed (Utf8.decodeLossy o.out)

/-- What a program complains of. -/
def Output.complaint (o : Output) : String :=
  trimmed (Utf8.decodeLossy o.err)

/-- The version that a program gives itself, if it ends well and says something. -/
def versionOf (program : String) : Asking (Option String) := do
  match ← capture program ["--version"] 5 with
  | .ok output =>
    if output.ending.isSuccess && !output.text.isEmpty then return some output.text else return none
  | .error _ => return none

/-- The first of some names that something stands under. -/
def firstThere? : List String → Files.Asking (Option String)
  | [] => return none
  | path :: rest => do
    if ← Dialogue.query (Files.Call.isThere path) then return some path else firstThere? rest

/-- Where a program may lie: in one of the directories of the search path, or, if its name has a slash
in it, right there. -/
def candidates (searchPath : String) (name : String) : List String :=
  if name.toList.contains '/' then [name]
  else (searchPath.toList.splitOn ':').map fun directory =>
    Files.join (String.ofList directory) name

/-- Where a program lies; without a search path only a name with a slash in it can be found. -/
def findProgram? (searchPath? : Option String) (name : String) : Files.Asking (Option String) :=
  match searchPath? with
  | some searchPath => firstThere? (candidates searchPath name)
  | none => firstThere? (if name.toList.contains '/' then [name] else [])

end MeshControl.Host
