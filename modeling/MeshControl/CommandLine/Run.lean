import MeshControl.Account.Server
import MeshControl.CommandLine.Command
import MeshControl.CommandLine.Places
import MeshControl.Daemon.Recovery
import MeshControl.Daemon.Watch
import MeshControl.Dashboard.Naming
import MeshControl.Identity.Generator

/-!
# Running commands

What each command asks of the machine, in which order, and what it tells the user.  A command that
changes anything for good asks for a yes before the request is sent, and ends with a failure if the
answer is not a yes.
-/

namespace MeshControl.CommandLine

open MeshControl.Daemon MeshControl.Terminal

/-- How the program was made. -/
structure Release where
  commit : String
  compiler : String
  platform : String
  deriving DecidableEq, Repr

/-- What is known when a command is run. -/
structure Setting where
  config : Config
  isVerbose : Bool
  places : Places
  release : Release
  /-- How many rounds the state is watched for. -/
  rounds : Nat

/-- The run of a command, which may fail. -/
abbrev Running (α : Type) := ExceptT Trace Host.Asking α

/-- A part of a run whose errors are told as `tell` says. -/
def attempt {α ε : Type} (tell : ε → Trace) (d : Host.Asking (Except ε α)) : Running α :=
  ExceptT.mk do return (← d).mapError tell

/-- A part of a run that cannot fail. -/
def always {α : Type} (d : Host.Asking α) : Running α :=
  ExceptT.lift d

/-- Writes a line. -/
def say (line : String) : Running Unit :=
  always (Host.printLine line)

/-- Tells of a success. -/
def succeed (text : String) : Running Unit :=
  always (Host.print (successLine text))

/-- The failure of a command that was not confirmed. -/
def aborted : Trace := ⟨"Aborted", []⟩

namespace Setting

/-- The service that runs the daemon. -/
def service (s : Setting) : Service :=
  ⟨s.config.serviceName, s.config.daemonBinary⟩

/-- How the daemon is reached. -/
def access (s : Setting) : Access :=
  ⟨.ofText s.config.daemonUrl, s.config.daemonSecret?, Secret.standardPath⟩

/-- How often and how long the daemon is polled. -/
def waitPolicy (s : Setting) : Wait.Policy :=
  ⟨s.config.waitInterval.toNat, s.config.waitAttempts.toNat⟩

/-- How the daemon is to be brought back up. -/
def recoveryPlan (s : Setting) : Recovery :=
  ⟨s.service, s.config.recovery, s.config.nonInteractive, s.waitPolicy, s.places.searchPath?⟩

/-- Brings the daemon back up. -/
def recovery (s : Setting) : Host.Asking (Except Daemon.Error Unit) :=
  s.recoveryPlan.run s.access

/-- Who calls the daemon, and brings it back up if need be. -/
def client (s : Setting) : Client :=
  ⟨s.access.base, true⟩

/-- Where sessions with the account server take place. -/
def desk (s : Setting) : Account.Desk :=
  ⟨⟨s.config.accountUrl⟩, s.places.tokenFile, s.config.nonInteractive⟩

/-- A call to the daemon. -/
def callDaemon {α : Type} (s : Setting) (tell : Daemon.Error → Trace)
    (d : Client.Asking (Except Daemon.Error α)) : Running α :=
  attempt tell (s.access.callOnHost s.recovery d)

/-- Reads the state of the daemon. -/
def snapshot (s : Setting) : Running Snapshot :=
  s.callDaemon Daemon.Error.trace (s.client.status true)

/-- Posts fields to a route of the daemon. -/
def post (s : Setting) (tell : Daemon.Error → Trace) (route : String)
    (fields : List (String × String)) : Running Unit :=
  s.callDaemon tell (s.client.post ignored? () route fields true)

/-- Waits for conditions. -/
def waitFor (s : Setting) (conditions : List Wait.Condition) : Running Unit :=
  attempt (fun timeout => ⟨timeout.message, []⟩) (Wait.onHost s.access s.waitPolicy conditions)

/-- A call to the dashboard. -/
def askDashboard {α : Type} (s : Setting) (d : Dashboard.Asking α) : Running α :=
  attempt Dashboard.Error.trace (Dashboard.onHost s.access d)

/-- Goes on only after a yes. -/
def confirm (s : Setting) (question : String) : Running Unit := do
  if !(← attempt id (Host.confirmUnless s.config.nonInteractive question)) then throw aborted

/-! ### The daemon -/

/-- What a report is about besides the state of the daemon. -/
def reportContext (s : Setting) : Host.Asking ReportContext := do
  return {
    version := Http.version
    dashboardHost := s.config.dashboardHost
    binaryVersion? := ← Host.versionOf s.config.daemonBinary
    isDetailed := s.isVerbose }

/-- Shows the state of the daemon. -/
def showStatus (s : Setting) (follows : Bool) : Running Unit := do
  let ctx ← always s.reportContext
  if follows then
    attempt Daemon.Error.trace
      (watchOnHost s.access s.client s.recovery s.waitPolicy.interval ctx s.rounds)
  else say ((← s.snapshot).report ctx)

/-- Shows the versions of the program and of the daemon. -/
def showVersion (s : Setting) : Running Unit := do
  say ("Version: " ++ Http.version)
  say ("Build: " ++ s.release.commit)
  say ("Rust: " ++ s.release.compiler)
  say ("Platform: " ++ s.release.platform)
  match ← always (s.access.onHost (statusOnce s.access.base)) with
  | .ok snapshot => say ("Daemon: " ++ snapshot.version)
  | .error _ => say "Daemon: not running"

/-- An address in full, and a text that is none as it is. -/
def addressText (text : String) : String :=
  (Address.expanded? text).getD text

/-- Shows the address of this device or of a host. -/
def showAddress (s : Setting) (host? : Option String) : Running Unit := do
  let snapshot ← s.snapshot
  match host? with
  | none => say (addressText snapshot.localAddress)
  | some host =>
    match snapshot.hosts.get? host with
    | some address => say (addressText address)
    | none => throw ⟨host ++ " is not in the host table", []⟩

/-- Joins a network. -/
def join (s : Setting) (code hostname : String) (waits : Bool) : Running Unit := do
  s.post (fun e => e.trace.within "join request failed") "/api/join"
    [("code", code), ("hostname", hostname)]
  if waits then s.waitFor Wait.Condition.afterJoin
  succeed "Successfully joined the network"

/-- What the user is told if the service cannot be restarted. -/
def restartWarning (cause : Trace) : String :=
  "Wasn't able to restart the daemon (" ++ cause.oneLine
    ++ "). Try restarting the service manually."

/-- Restarts the service and waits for the daemon. -/
def restartAndWait (s : Setting) : Running Unit := do
  match ← always s.service.restart with
  | .error cause => always (Host.complain (warningLine (restartWarning cause)))
  | .ok () =>
    always (Host.pause 500)
    s.waitFor [.daemonReachable]

/-- Points the daemon to another dashboard. -/
def changeServer (s : Setting) (domain : String) : Running Unit := do
  s.post (fun e => e.trace.within "changing the dashboard server failed") "/api/change-server"
    [("domain", domain)]
  succeed ("Dashboard server set to " ++ domain)
  s.restartAndWait

/-- The address that a text writes, in its canonical form. -/
def canonicalAddress (text : String) : Except Trace String :=
  match Address.Ip.ofText? (Text.trimmed text) with
  | some ip => .ok ip.text
  | none => .error ⟨text ++ " is not a valid address", ["invalid IP address syntax"]⟩

/-- The entries of a whitelist as they are listed. -/
def whitelistEntries (snapshot : Snapshot) : List String :=
  (snapshot.whitelist.map addressText).mergeSort fun a b => a ≤ b

/-- Runs a command on the whitelist. -/
def runWhitelist (s : Setting) (command : WhitelistCommand) : Running Unit := do
  let post := s.post Daemon.Error.trace
  match command with
  | .enable =>
    post "/api/whitelist/enable" []
    succeed "Whitelist enabled"
  | .disable =>
    post "/api/whitelist/disable" []
    succeed "Whitelist disabled"
  | .list =>
    (whitelistEntries (← s.snapshot)).forM say
  | .add text =>
    let address ← ExceptT.mk (return canonicalAddress text)
    post "/api/whitelist/add" [("address", address)]
    succeed ("Added " ++ bold address ++ " to whitelist")
  | .remove text =>
    let address ← ExceptT.mk (return canonicalAddress text)
    post "/api/whitelist/rm" [("address", address)]
    succeed ("Removed " ++ bold address ++ " from whitelist")

/-- Makes sure that the daemon is up, then waits for conditions. -/
def runWait (s : Setting) (conditions : List Wait.Condition) : Running Unit := do
  let _ ← s.snapshot
  s.waitFor conditions

/-- Runs a command on the service. -/
def runService (s : Setting) : ServiceCommand → Running Unit
  | .start waits => do
    attempt id s.service.start
    if waits then s.waitFor [.daemonReachable]
  | .stop => attempt id s.service.stop
  | .restart waits => do
    attempt id s.service.restart
    if waits then s.waitFor [.daemonReachable]
  | .install => s.service.install s.places.searchPath?

/-! ### The dashboard -/

/-- Claims this device. -/
def claim (s : Setting) (params : Dashboard.ClaimParams) (waits : Bool) : Running Unit := do
  if waits then s.waitFor Wait.Condition.joinable
  succeed (← s.askDashboard ((Dashboard.Operation.claim params).run s.access.base))

/-- The question before this device is given up. -/
def unclaimQuestion : String := "Are you sure you want to unclaim this device?"

/-- The question before a device is given up. -/
def unclaimDeviceQuestion (device : String) : String :=
  "Are you sure you want to unclaim " ++ device ++ "?"

/-- Gives this device up. -/
def unclaim (s : Setting) : Running Unit := do
  s.confirm unclaimQuestion
  succeed (← s.askDashboard (Dashboard.Operation.unclaimSelf.run s.access.base))

/-- The group and the device that names stand for. -/
def membership (s : Setting) (group device : String) : Running Dashboard.Membership := do
  let groupId ← s.askDashboard (Dashboard.resolveGroupId s.access.base group)
  let deviceIp ← s.askDashboard (Dashboard.resolveDeviceIp s.access.base device)
  return { groupId, deviceIp }

/-- Carries an operation out and shows what comes back. -/
def perform (s : Setting) (op : Dashboard.Operation) : Running Unit := do
  say (← s.askDashboard (op.run s.access.base))

/-- Runs a command on the dashboard. -/
def runDashboard (s : Setting) (command : DashboardCommand) : Running Unit := do
  let base := s.access.base
  match command with
  | .login =>
    let _ ← attempt Account.Error.trace s.desk.logIn
    succeed "Logged in to the dashboard"
  | .logout =>
    attempt (fun e => (Account.Error.token e).trace)
      (Host.onFiles (Account.TokenFile.clear s.places.tokenFile))
    succeed "Logged out"
  | .operation op => s.perform op
  | .showGroup group =>
    s.perform (.showGroup (← s.askDashboard (Dashboard.resolveGroupId base group)))
  | .updateGroup group changes =>
    s.perform (← s.askDashboard (Dashboard.updateGroup base group changes))
  | .removeGroup group =>
    s.perform (.removeGroup (← s.askDashboard (Dashboard.resolveGroupId base group)))
  | .updateDevice device changes =>
    s.perform (← s.askDashboard (Dashboard.updateDevice base device changes))
  | .unclaimDevice device =>
    let id ← s.askDashboard (Dashboard.resolveDeviceId base device)
    s.confirm (unclaimDeviceQuestion device)
    s.perform (.unclaimDevice id)
  | .attach group device => s.perform (.attachDevice (← s.membership group device))
  | .detach group device => s.perform (.detachDevice (← s.membership group device))

/-! ### This machine -/

/-- The failure of a search that breaks off. -/
def overstaffed : Trace := ⟨Identity.Search.overstaffed, []⟩

/-- Searches for an identity.  A search that breaks off ends the command with it. -/
def generate (s : Setting) (start : String) (workers attempts : Nat) : Running Unit := do
  always (Host.print (infoLine ("Searching for an address starting with " ++ start)))
  match ← always (Identity.searchOnHost s.config.daemonBinary start workers attempts) with
  | none => throw overstaffed
  | some (.error e) => throw ⟨e.message, []⟩
  | some (.ok none) =>
    throw ⟨"no identity matched " ++ start ++ " within " ++ toString attempts ++ " attempts", []⟩
  | some (.ok (some identity)) => say identity.raw

/-- Shows the configuration that is in force, without the secret. -/
def showConfig (s : Setting) : Running Unit := do
  say ({ s.config with daemonSecret? := s.config.daemonSecret?.map fun _ => "<redacted>" }).fileText
  say ("# " ++ (← ExceptT.mk (return s.places.configFile)))

/-- Runs a command. -/
def run (s : Setting) : Command → Running Unit
  | .status follows => s.showStatus follows
  | .version => s.showVersion
  | .address host? => s.showAddress host?
  | .join code hostname waits => s.join code hostname waits
  | .changeServer domain => s.changeServer domain
  | .whitelist command => s.runWhitelist command
  | .wait conditions => s.runWait conditions
  | .service command => s.runService command
  | .claim params waits => s.claim params waits
  | .unclaim => s.unclaim
  | .dashboard command => s.runDashboard command
  | .account op => do say (← attempt Account.Error.trace (s.desk.run op))
  | .generate start workers attempts => s.generate start workers attempts
  | .showConfig => s.showConfig
  | .initConfig => do
    succeed ("Config written to " ++ (← attempt id (CommandLine.initConfig s.places)))

end Setting

end MeshControl.CommandLine
