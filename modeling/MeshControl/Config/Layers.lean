import MeshControl.Config.Basic
import MeshControl.Files.Call
import MeshControl.Text.Digits
import MeshControl.Trace

/-!
# Where settings come from

A setting may stand in the configuration file, in an environment variable and on the command line, and
the later of these wins.  A variable that is set to nothing leaves a setting as it is, except that of
`HNET_NON_INTERACTIVE`, which any value sets and nothing clears.
-/

namespace MeshControl.Config

open MeshControl.Text

/-- Why a text is no port. -/
inductive PortFlaw where
  | notDecimal
  | tooLarge
  deriving DecidableEq, Repr

/-- What is wrong with a text that is no port. -/
def PortFlaw.message : PortFlaw → String
  | notDecimal => "invalid digit found in string"
  | tooLarge => "number too large to fit in target type"

/-- Why the configuration cannot be loaded. -/
inductive LoadError where
  /-- The file is there but cannot be read as text. -/
  | unreadable (cause : Files.Error)
  /-- The file is no configuration. -/
  | malformed
  /-- The variable for the port holds this text. -/
  | badPort (text : String) (flaw : PortFlaw)
  deriving DecidableEq, Repr

/-- The name of the variable for the port. -/
def portVariable : String := "HNET_DAEMON_API_PORT"

namespace LoadError

/-- The message of an error. -/
def message : LoadError → String
  | unreadable _ => "Failed to read config file"
  | malformed => "Failed to parse config file"
  | badPort text _ => portVariable ++ " is not a valid port: " ++ text

/-- The message of the cause of an error. -/
def cause : LoadError → String
  | unreadable cause => cause.message
  | malformed => "the text is not of the expected form"
  | badPort _ flaw => flaw.message

/-- What the user is told of an error. -/
def trace (e : LoadError) : Trace :=
  ⟨e.message, [e.cause]⟩

end LoadError

/-- Whether the text of a variable means yes. -/
def meansYes (text : String) : Bool :=
  ["1", "true", "yes", "on"].contains (asciiLowered (trimmed text))

/-- The port that digits continue when `start` stands before them.  The first digit at which the text
cannot be a port any more tells what is wrong with it. -/
def continuePort (start : Nat) : List Char → Except PortFlaw Nat
  | [] => .ok start
  | c :: rest =>
    match decimalValue? c with
    | none => .error .notDecimal
    | some d =>
      if 10 * start + d < UInt16.size then continuePort (10 * start + d) rest else .error .tooLarge

/-- The port that a text writes in decimal, with or without a plus sign. -/
def port (text : String) : Except PortFlaw UInt16 :=
  let digits := match text.toList with
    | '+' :: rest => rest
    | cs => cs
  if digits.isEmpty then .error .notDecimal else (continuePort 0 digits).map UInt16.ofNat

/-- A variable that is set to something. -/
def given? (env : String → Option String) (name : String) : Option String :=
  (env name).filter (!·.isEmpty)

/-- The configuration with the settings of the environment. -/
def withEnvironment (c : Config) (env : String → Option String) : Except LoadError Config := do
  let port ← match given? env portVariable with
    | none => pure c.daemonPort
    | some text =>
      match Config.port text with
      | .ok port => pure port
      | .error flaw => throw (.badPort text flaw)
  return { c with
    daemonAddress := (given? env "HNET_DAEMON_API_ADDRESS").getD c.daemonAddress
    daemonPort := port
    daemonSecret? := (given? env "HNET_DAEMON_API_SECRET").or c.daemonSecret?
    dashboardUrl := (given? env "HNET_DASHBOARD_URL").getD c.dashboardUrl
    nonInteractive := ((env "HNET_NON_INTERACTIVE").map meansYes).getD c.nonInteractive }

/-- The settings that the command line gives. -/
structure Flags where
  isVerbose : Bool := false
  nonInteractive : Bool := false
  daemonAddress? : Option String := none
  daemonPort? : Option UInt16 := none
  daemonSecret? : Option String := none
  deriving DecidableEq, Repr, Inhabited

/-- The configuration with the settings of the command line. -/
def withFlags (c : Config) (flags : Flags) : Config :=
  { c with
    nonInteractive := flags.nonInteractive || c.nonInteractive
    daemonAddress := flags.daemonAddress?.getD c.daemonAddress
    daemonPort := flags.daemonPort?.getD c.daemonPort
    daemonSecret? := flags.daemonSecret?.or c.daemonSecret? }

/-- The configuration of a file, given by what reading it came to.  A file that is not there stands for
the defaults. -/
def ofFile : Option (Except Files.Error String) → Except LoadError Config
  | none => .ok {}
  | some (.error cause) => .error (.unreadable cause)
  | some (.ok text) =>
    match ofFileText? text with
    | some c => .ok c
    | none => .error .malformed

/-- The configuration of a file and the environment. -/
def load (file? : Option (Except Files.Error String)) (env : String → Option String) :
    Except LoadError Config := do
  (← ofFile file?).withEnvironment env

/-- How much is logged: what the environment says if it says anything, everything if the user wants to
see more, and otherwise the configured level. -/
def logDirective (environment? : Option String) (isVerbose : Bool) (configured : String) : String :=
  match environment?.filter fun text => !(trimmed text).isEmpty with
  | some text => text
  | none => if isVerbose then "debug" else configured

end MeshControl.Config
