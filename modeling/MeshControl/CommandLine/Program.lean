import MeshControl.CommandLine.Run

/-!
# The program

From the words of a command line and an environment to an exit code: the words are read, the
configuration is put together from file, environment and options, and the command is run.  A failure
is told on standard error.
-/

namespace MeshControl.CommandLine

/-- The name of the program. -/
def programName : String := "hnet"

/-- The variables of the environment that the program looks at. -/
def environmentNames : List String :=
  ["HNET_DAEMON_API_ADDRESS", Config.portVariable, "HNET_DAEMON_API_SECRET", "HNET_DASHBOARD_URL",
    "HNET_NON_INTERACTIVE", "XDG_CONFIG_HOME", "XDG_CACHE_HOME", "HOME", "TMPDIR", "PATH"]

/-- How an option is written. -/
def OptionForm.usage (o : OptionForm) : String :=
  "[--" ++ o.name ++ (if o.value?.isSome then " VALUE]" else "]")

/-- How a command is written. -/
def CommandForm.usage (c : CommandForm) : String :=
  let arguments := List.replicate c.least "ARGUMENT"
    ++ (if c.most? = some c.least then [] else ["[ARGUMENT]"])
  " ".intercalate (programName :: c.words ++ arguments ++ c.options.map OptionForm.usage)

/-- How the program is used. -/
def usage : String :=
  "\n".intercalate (
    ["Usage: " ++ programName ++ " [OPTIONS] COMMAND", "", "Options:"]
    ++ grammar.globals.map (fun o => "  " ++ o.usage)
    ++ ["", "Commands:"] ++ grammar.commands.map (fun c => "  " ++ c.usage)) ++ "\n"

/-- Puts together what is known when a command is run. -/
def findSetting (flags : Config.Flags) (env : String → Option String) (release : Release)
    (rounds : Nat) : Running Setting := do
  let places : Places ← findPlaces env
  let config ← attempt id (loadConfig places env)
  return ⟨config.withFlags flags, flags.isVerbose, places, release, rounds⟩

/-- Puts the configuration together and runs a command. -/
def runCommand (command : Command) (flags : Config.Flags) (env : String → Option String)
    (release : Release) (rounds : Nat) : Running Unit := do
  (← findSetting flags env release rounds).run command

/-- What the user is told of a failure. -/
def failureText (t : Trace) : String :=
  "Error: " ++ t.text ++ "\n"

/-- Runs the program; the exit code. -/
def runProgram (words : List String) (env : String → Option String) (release : Release)
    (rounds : Nat) : Host.Asking Nat := do
  match Command.read words with
  | .error .version =>
    Host.printLine (programName ++ " " ++ Http.version)
    return 0
  | .error .help =>
    Host.print usage
    return 0
  | .error .refused =>
    Host.complain usage
    return 2
  | .ok (command, flags) =>
    match ← (runCommand command flags env release rounds).run with
    | .ok () => return 0
    | .error t =>
      Host.complain (failureText t)
      return 1

end MeshControl.CommandLine
