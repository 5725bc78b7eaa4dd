import MeshControl.Account.Operation
import MeshControl.CommandLine.Arguments
import MeshControl.Config.Layers
import MeshControl.Dashboard.Operation
import MeshControl.Wait.Condition

/-!
# The commands of the program

Each command with what the user said about it, the grammar of the command line, and how a command is
found in arguments that follow the grammar (`Command.ofArguments?`).
-/

namespace MeshControl.CommandLine

open MeshControl.Dashboard (ClaimParams DeviceChanges GroupChanges)

/-- What is done with the whitelist of the daemon. -/
inductive WhitelistCommand where
  | enable
  | disable
  | list
  | add (address : String)
  | remove (address : String)
  deriving DecidableEq, Repr

/-- What is done with the service that runs the daemon. -/
inductive ServiceCommand where
  | start (waits : Bool)
  | stop
  | restart (waits : Bool)
  | install
  deriving DecidableEq, Repr

/-- What is done on the dashboard.  Groups and devices are named as the user likes. -/
inductive DashboardCommand where
  | login
  | logout
  /-- An operation that needs nothing to be looked up. -/
  | operation (op : Dashboard.Operation)
  | showGroup (group : String)
  | updateGroup (group : String) (changes : GroupChanges)
  | removeGroup (group : String)
  | updateDevice (device : String) (changes : DeviceChanges)
  | unclaimDevice (device : String)
  | attach (group device : String)
  | detach (group device : String)
  deriving DecidableEq, Repr

/-- A command. -/
inductive Command where
  | status (follows : Bool)
  | version
  /-- The address of this device, or of a host. -/
  | address (host? : Option String)
  | join (code hostname : String) (waits : Bool)
  | changeServer (domain : String)
  | whitelist (command : WhitelistCommand)
  | wait (conditions : List Wait.Condition)
  | service (command : ServiceCommand)
  | claim (params : ClaimParams) (waits : Bool)
  | unclaim
  | dashboard (command : DashboardCommand)
  | account (op : Account.Operation)
  /-- Search for an identity. -/
  | generate (start : String) (workers attempts : Nat)
  | showConfig
  | initConfig
  deriving Repr

/-! ### The grammar -/

/-- An option without a value. -/
def flag (name : String) (letter? : Option Char := none) : OptionForm :=
  { name, letter? }

/-- An option with a text as its value. -/
def valued (name : String) : OptionForm :=
  { name, value? := some .text }

/-- An option with a text as its value that may be repeated. -/
def repeated (name : String) : OptionForm :=
  { name, value? := some .text, repeats := true }

/-- An option with a number below `2 ^ 64` as its value. -/
def counted (name : String) : OptionForm :=
  { name, value? := some (.number UInt64.size false) }

/-- The kind of numbers of ports. -/
def portKind : ValueKind :=
  .number UInt16.size true

/-- A command that takes exactly so many plain arguments. -/
def form (words : List String) (count : Nat := 0) (options : List OptionForm := []) : CommandForm :=
  { words, options, least := count, most? := some count }

/-- The grammar of the command line. -/
def grammar : Grammar where
  globals := [flag "verbose" (some 'v'), flag "non-interactive", valued "daemon-api-address",
    { name := "daemon-api-port", value? := some portKind }, valued "daemon-api-secret"]
  commands := [
    form ["status"] 0 [flag "follow" (some 'f')],
    form ["version"],
    { words := ["ip"], most? := some 1 },
    { words := ["join"], options := [flag "no-wait"], least := 1, most? := some 2 },
    form ["setup-server"] 1,
    form ["whitelist", "enable"],
    form ["whitelist", "disable"],
    form ["whitelist", "ls"],
    form ["whitelist", "add"] 1,
    form ["whitelist", "rm"] 1,
    form ["wait"],
    form ["wait", "base"] 0 [flag "udp"],
    form ["wait", "websetup"],
    form ["wait", "joinable"],
    form ["wait", "joined"],
    form ["wait", "host"] 1,
    { words := ["wait", "hostnames"], least := 1, most? := none },
    form ["daemon", "start"] 0 [flag "wait"],
    form ["daemon", "stop"],
    form ["daemon", "restart"] 0 [flag "wait"],
    form ["daemon", "install"],
    form ["claim"] 1
      [valued "hostname", repeated "alias", valued "comment", valued "emoji", flag "no-wait"],
    form ["unclaim"],
    form ["dashboard", "login"],
    form ["dashboard", "logout"],
    form ["dashboard", "groups"],
    form ["dashboard", "group"] 1,
    form ["dashboard", "group-create"] 1 [valued "emoji", valued "comment"],
    form ["dashboard", "group-update"] 1 [valued "name", valued "emoji", valued "comment"],
    form ["dashboard", "group-remove"] 1,
    form ["dashboard", "token"],
    form ["dashboard", "token-rotate"],
    form ["dashboard", "devices"],
    form ["dashboard", "device"] 1,
    form ["dashboard", "device-update"] 1
      [valued "hostname", valued "emoji", valued "comment", repeated "alias"],
    form ["dashboard", "device-unclaim"] 1,
    form ["dashboard", "attach"] 2,
    form ["dashboard", "detach"] 2,
    form ["account", "groups"],
    form ["account", "group"] 1,
    form ["account", "group-remove"] 1,
    form ["account", "kick"] 2,
    form ["genid"] 1 [counted "workers", counted "max-attempts"],
    form ["config", "show"],
    form ["config", "init"]]

/-! ### From arguments to commands -/

namespace Arguments

/-- The value of an option, empty if it is not given. -/
def text (a : Arguments) (name : String) : String :=
  (a.text? name).getD ""

/-- The settings that hold for every command. -/
def flags (a : Arguments) : Config.Flags where
  isVerbose := a.has "verbose"
  nonInteractive := a.has "non-interactive"
  daemonAddress? := a.text? "daemon-api-address"
  daemonPort? := ((a.text? "daemon-api-port").bind (number? UInt16.size true)).map UInt16.ofNat
  daemonSecret? := a.text? "daemon-api-secret"

/-- What is to change on a group. -/
def groupChanges (a : Arguments) : GroupChanges where
  name? := a.text? "name"
  emoji? := a.text? "emoji"
  comment? := a.text? "comment"

/-- What is to change on a device. -/
def deviceChanges (a : Arguments) : DeviceChanges where
  hostname? := a.text? "hostname"
  emoji? := a.text? "emoji"
  comment? := a.text? "comment"
  aliases? := if a.has "alias" then some (a.texts "alias") else none

/-- What is claimed with a code. -/
def claimParams (a : Arguments) (code : String) : ClaimParams where
  code := code
  hostname := a.text "hostname"
  aliases := a.texts "alias"
  comment := a.text "comment"
  emoji := a.text "emoji"

/-- The number that an option gives, or else the common one. -/
def count (a : Arguments) (name : String) (common : Nat) : Nat :=
  ((a.text? name).bind (number? UInt64.size false)).getD common

/-- The workers of a search.  One stands for as many as the machine has, which are never too many. -/
def workers (a : Arguments) : Nat :=
  a.count "workers" 1

/-- The most identities that a search generates. -/
def attempts (a : Arguments) : Nat :=
  a.count "max-attempts" 1000000

end Arguments

namespace Command

/-- The conditions that a `wait` is for. -/
def conditions? (a : Arguments) : List String → List String → Option (List Wait.Condition)
  | [], [] => some Wait.Condition.bestEffort
  | ["base"], [] => some [if a.has "udp" then .baseUdp else .baseAny]
  | ["websetup"], [] => some [.websetup]
  | ["joinable"], [] => some Wait.Condition.joinable
  | ["joined"], [] => some [.joined]
  | ["host"], [name] => some [.host name]
  | ["hostnames"], names => some [.hostnames names]
  | _, _ => none

/-- The command below `whitelist`. -/
def whitelist? : List String → List String → Option WhitelistCommand
  | ["enable"], [] => some .enable
  | ["disable"], [] => some .disable
  | ["ls"], [] => some .list
  | ["add"], [entry] => some (.add entry)
  | ["rm"], [entry] => some (.remove entry)
  | _, _ => none

/-- The command below `daemon`. -/
def service? (a : Arguments) : List String → List String → Option ServiceCommand
  | ["start"], [] => some (.start (a.has "wait"))
  | ["stop"], [] => some .stop
  | ["restart"], [] => some (.restart (a.has "wait"))
  | ["install"], [] => some .install
  | _, _ => none

/-- The command below `dashboard`. -/
def dashboard? (a : Arguments) : List String → List String → Option DashboardCommand
  | ["login"], [] => some .login
  | ["logout"], [] => some .logout
  | ["groups"], [] => some (.operation .listGroups)
  | ["group"], [group] => some (.showGroup group)
  | ["group-create"], [name] =>
    some (.operation (.createGroup ⟨name, a.text "emoji", a.text "comment"⟩))
  | ["group-update"], [group] => some (.updateGroup group a.groupChanges)
  | ["group-remove"], [group] => some (.removeGroup group)
  | ["token"], [] => some (.operation .claimToken)
  | ["token-rotate"], [] => some (.operation .rotateClaimToken)
  | ["devices"], [] => some (.operation .listDevices)
  | ["device"], [id] => some (.operation (.showDevice id))
  | ["device-update"], [device] => some (.updateDevice device a.deviceChanges)
  | ["device-unclaim"], [device] => some (.unclaimDevice device)
  | ["attach"], [group, device] => some (.attach group device)
  | ["detach"], [group, device] => some (.detach group device)
  | _, _ => none

/-- The command below `account`. -/
def account? : List String → List String → Option Account.Operation
  | ["groups"], [] => some .listGroups
  | ["group"], [id] => some (.showGroup id)
  | ["group-remove"], [id] => some (.removeGroup id)
  | ["kick"], [groupId, deviceId] => some (.kickDevice groupId deviceId)
  | _, _ => none

/-- The command of one word. -/
def simple? (a : Arguments) (word : String) (plain : List String) : Option Command :=
  match word, plain with
  | "status", [] => some (.status (a.has "follow"))
  | "version", [] => some .version
  | "ip", [] => some (.address none)
  | "ip", [host] => some (.address (some host))
  | "join", [code] => some (.join code "" (!a.has "no-wait"))
  | "join", [code, hostname] => some (.join code hostname (!a.has "no-wait"))
  | "setup-server", [domain] => some (.changeServer domain)
  | "claim", [code] => some (.claim (a.claimParams code) (!a.has "no-wait"))
  | "unclaim", [] => some .unclaim
  | "genid", [start] => some (.generate start a.workers a.attempts)
  | _, _ => none

/-- The command that arguments name. -/
def ofArguments? (a : Arguments) : Option Command :=
  match a.words with
  | ["config", "show"] => some .showConfig
  | ["config", "init"] => some .initConfig
  | "wait" :: words => (conditions? a words a.plain).map .wait
  | "whitelist" :: words => (whitelist? words a.plain).map .whitelist
  | "daemon" :: words => (service? a words a.plain).map .service
  | "dashboard" :: words => (dashboard? a words a.plain).map .dashboard
  | "account" :: words => (account? words a.plain).map .account
  | [word] => simple? a word a.plain
  | _ => none

/-- The command that a row of words names, and the settings given with it. -/
def read (words : List String) : Except Stop (Command × Config.Flags) := do
  let a ← grammar.read words
  match ofArguments? a with
  | some command => return (command, a.flags)
  | none => throw .refused

end Command

end MeshControl.CommandLine
