import MeshControl.Json.Decoder
import MeshControl.Json.Printer
import MeshControl.Text.Blank
import MeshControl.Text.Letters
import MeshControl.Text.Search

/-!
# The configuration

Where the daemon and the dashboard are, how long to wait and what to do when the daemon is down.  The
configuration is kept as one JSON record; a field that the record leaves out has its default.
-/

namespace MeshControl

open MeshControl.Json MeshControl.Text

/-- What to do when the daemon refuses a connection. -/
inductive RecoveryPolicy where
  /-- Ask, then restart the service. -/
  | promptRestart
  /-- Ask, install the service if it is missing, then restart it. -/
  | installAndRestart
  /-- Fail at once. -/
  | never
  deriving DecidableEq, Repr, Inhabited

namespace RecoveryPolicy

/-- The name of a policy. -/
def name : RecoveryPolicy → String
  | .promptRestart => "prompt-restart"
  | .installAndRestart => "install-and-restart"
  | .never => "never"

/-- The policy of a name. -/
def ofName? : String → Option RecoveryPolicy
  | "prompt-restart" => some .promptRestart
  | "install-and-restart" => some .installAndRestart
  | "never" => some .never
  | _ => none

end RecoveryPolicy

/-- The configuration. -/
structure Config where
  daemonAddress : String := "127.0.0.1"
  daemonPort : UInt16 := 16216
  /-- Stands for the secret in the daemon's secret file. -/
  daemonSecret? : Option String := none
  dashboardUrl : String := "https://app.husarnet.com"
  logLevel : String := "warn"
  nonInteractive : Bool := false
  /-- Milliseconds between polls. -/
  waitInterval : UInt64 := 1000
  waitAttempts : UInt32 := 120
  recovery : RecoveryPolicy := .promptRestart
  serviceName : String := "husarnet"
  daemonBinary : String := "husarnet-daemon"
  deriving DecidableEq, Repr, Inhabited

namespace Config

/-! ### As JSON -/

/-- The names of the fields. -/
def fieldNames : List String :=
  ["daemon_api_address", "daemon_api_port", "daemon_api_secret", "dashboard_url", "log_level",
    "non_interactive", "wait_interval_ms", "wait_max_attempts", "recovery", "service_name",
    "daemon_binary"]

/-- The configuration that a text writes. -/
def ofNode? (node : Node) : Option Config := do
  let fields ← node.fields? fieldNames
  let defaults : Config := {}
  return {
    daemonAddress := ← fields.get? "daemon_api_address" Node.text? defaults.daemonAddress
    daemonPort := ← fields.get? "daemon_api_port"
      (fun n => (n.below? UInt16.size).map UInt16.ofNat) defaults.daemonPort
    daemonSecret? := ← fields.get? "daemon_api_secret" (Node.nullable? Node.text?) none
    dashboardUrl := ← fields.get? "dashboard_url" Node.text? defaults.dashboardUrl
    logLevel := ← fields.get? "log_level" Node.text? defaults.logLevel
    nonInteractive := ← fields.bool? "non_interactive"
    waitInterval := ← fields.get? "wait_interval_ms"
      (fun n => (n.below? UInt64.size).map UInt64.ofNat) defaults.waitInterval
    waitAttempts := ← fields.get? "wait_max_attempts"
      (fun n => (n.below? UInt32.size).map UInt32.ofNat) defaults.waitAttempts
    recovery := ← fields.get? "recovery" (fun n => n.choice?.bind RecoveryPolicy.ofName?)
      defaults.recovery
    serviceName := ← fields.get? "service_name" Node.text? defaults.serviceName
    daemonBinary := ← fields.get? "daemon_binary" Node.text? defaults.daemonBinary }

/-- The members that are written; a secret that is not set is left out. -/
def members (c : Config) : List (String × Value) :=
  [("daemon_api_address", .string c.daemonAddress),
    ("daemon_api_port", .nat c.daemonPort.toNat)]
  ++ (c.daemonSecret?.map fun secret => ("daemon_api_secret", .string secret)).toList
  ++ [("dashboard_url", .string c.dashboardUrl),
    ("log_level", .string c.logLevel),
    ("non_interactive", .bool c.nonInteractive),
    ("wait_interval_ms", .nat c.waitInterval.toNat),
    ("wait_max_attempts", .nat c.waitAttempts.toNat),
    ("recovery", .string c.recovery.name),
    ("service_name", .string c.serviceName),
    ("daemon_binary", .string c.daemonBinary)]

/-- The configuration as a value. -/
def toValue (c : Config) : Value :=
  .object c.members

/-- The text of the configuration file. -/
def fileText (c : Config) : String :=
  c.toValue.pretty

/-- The configuration that a file with a given text holds. -/
def ofFileText? (text : String) : Option Config :=
  (Node.ofText? text).bind ofNode?

/-! ### Places -/

/-- The address of the daemon's interface; an address of version 6 is put in brackets. -/
def daemonUrl (c : Config) : String :=
  let address := c.daemonAddress
  let host :=
    if address.toList.contains ':' && !startsWith address "[" then "[" ++ address ++ "]" else address
  "http://" ++ host ++ ":" ++ toString c.daemonPort.toNat

/-- A text without the slashes at its end. -/
def withoutEndSlashes (s : String) : String :=
  String.ofList (dropEndMarks '/' s.toList)

/-- The address of the account server. -/
def accountUrl (c : Config) : String :=
  withoutEndSlashes c.dashboardUrl ++ "/graphql"

/-- The host of the dashboard, as the daemon reports it. -/
def dashboardHost (c : Config) : String :=
  let rest := dropAll "http://".toList (dropAll "https://".toList c.dashboardUrl.toList)
  String.ofList ((dropEndMarks '/' rest).takeWhile (· ≠ '/'))

end Config

end MeshControl
