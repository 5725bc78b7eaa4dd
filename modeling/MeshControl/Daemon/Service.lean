import MeshControl.Host.Programs

/-!
# The daemon as a service of the system

The service is started, stopped and restarted by `systemctl`, which writes to the terminal itself.
Its exit codes for lacking rights are told apart from other failures, so that the user learns what to
do.
-/

namespace MeshControl.Daemon

open MeshControl.Host

/-- The service that runs the daemon. -/
structure Service where
  name : String
  /-- The name of the daemon's program. -/
  binary : String
  deriving DecidableEq, Repr

namespace Service

/-- Where the description of the service lies. -/
def unitPath (s : Service) : String :=
  "/etc/systemd/system/" ++ s.name ++ ".service"

/-- The description of the service, whose program is at `program`. -/
def unitText (s : Service) (program : String) : String :=
  "\n".intercalate [
    "[Unit]",
    "Description=Husarnet daemon (" ++ s.name ++ ")",
    "After=network-online.target",
    "Wants=network-online.target",
    "",
    "[Service]",
    "Type=simple",
    "ExecStart=" ++ program,
    "Restart=on-failure",
    "RestartSec=3",
    "StandardOutput=journal",
    "StandardError=journal",
    "TimeoutStopSec=30",
    "",
    "[Install]",
    "WantedBy=multi-user.target",
    ""]

/-- Whether the exit code of `systemctl` means that the user lacks rights. -/
def lacksRights : Ending → Bool
  | .exited 1 => true
  | .exited 4 => true
  | _ => false

/-- What the user is told when `systemctl` fails. -/
def failureMessage (ending : Ending) (action : String) : String :=
  if lacksRights ending then
    "Permission denied. Unable to " ++ action
      ++ " the daemon service without root privileges.\nPlease run with: sudo hnet daemon " ++ action
  else "systemctl " ++ action ++ " failed with exit code: " ++ ending.codeText

/-- Runs `systemctl`. -/
def systemctl (arguments : List String) (action : String) : Asking (Except Trace Unit) := do
  match ← attach "systemctl" arguments with
  | .error cause => return .error ⟨"Failed to run systemctl " ++ action, [cause]⟩
  | .ok ending =>
    if ending.isSuccess then return .ok () else return .error ⟨failureMessage ending action, []⟩

/-- Starts the service. -/
def start (s : Service) : Asking (Except Trace Unit) :=
  systemctl ["start", s.name] "start"

/-- Stops the service. -/
def stop (s : Service) : Asking (Except Trace Unit) :=
  systemctl ["stop", s.name] "stop"

/-- Restarts the service. -/
def restart (s : Service) : Asking (Except Trace Unit) :=
  systemctl ["restart", s.name] "restart"

/-- Whether the service is known to the system. -/
def isInstalled (s : Service) : Asking Bool :=
  Dialogue.query (Call.files (.isThere s.unitPath))

/-- Makes the service known to the system. -/
def install (s : Service) (searchPath? : Option String) : ExceptT Trace Asking Unit := do
  unless ← (isSuperuser : Asking Bool) do
    throw ⟨"Installing the " ++ s.name
      ++ " service requires root privileges.\nPlease run with: sudo hnet daemon install", []⟩
  let some program ← (onFiles (findProgram? searchPath? s.binary) : Asking (Option String))
    | throw ⟨"Daemon binary '" ++ s.binary ++ "' not found in PATH", []⟩
  match ← (writeFile s.unitPath (s.unitText program) : Asking (Except Files.Error Unit)) with
  | .error cause => throw ⟨"Failed to write systemd service file", [cause.message]⟩
  | .ok () =>
    systemctl ["daemon-reload"] "reload"
    systemctl ["enable", s.name] "enable"

end Service

end MeshControl.Daemon
