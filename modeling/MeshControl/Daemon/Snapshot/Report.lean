import MeshControl.Daemon.Snapshot.Basic
import MeshControl.Terminal.Style

/-!
# The report on a snapshot

The screen that `status` shows: versions, dashboard, connection, readiness, settings, this device and
the whitelist, section by section.  A whitelist entry is a block of lines: its address in expanded
form with the names it goes by, the flags of the peer that has it, and, in a detailed report, the
addresses of that peer.
-/

namespace MeshControl.Daemon

open MeshControl.Address MeshControl.Terminal MeshControl.Text

/-- What is known of this side when a snapshot is shown. -/
structure ReportContext where
  version : String
  dashboardHost : String
  /-- The version of the daemon's binary on disk. -/
  binaryVersion? : Option String
  isDetailed : Bool

/-- The dashboard in general use. -/
def defaultDashboardHost : String := "app.husarnet.com"

namespace Report

/-- Status lines with one mark, and a remark if there is one. -/
def marked (dot : Dot) (lines : List (String × String)) (help? : Option String) : List String :=
  lines.map (fun (name, value) => statusLine dot name value) ++ (help?.map (statusHelp dot)).toList

/-- The versions in use. -/
def versionLines (s : Snapshot) (ctx : ReportContext) : List String :=
  let binary := ctx.binaryVersion?.getD "unknown"
  let (dot, help?) : Dot × Option String :=
    if s.version ≠ ctx.version then
      (.red, some "CLI and Husarnet Daemon versions differ - you may get unexpected results!")
    else if s.version ≠ binary then
      (.yellow, some "Husarnet Daemon you're running and the one saved on a disk differ!")
    else (.green, none)
  marked dot [("CLI", ctx.version), ("Daemon (running)", s.version), ("Daemon (binary)", binary)]
    help?

/-- The dashboards in use. -/
def dashboardLines (s : Snapshot) (ctx : ReportContext) : List String :=
  let own := ctx.dashboardHost
  let (dot, help?) : Dot × Option String :=
    if s.dashboardHost ≠ own then
      (.red, some ("Dashboards used by the CLI and Husarnet Daemon differ - "
        ++ "you may get unexpected results!"))
    else if own = defaultDashboardHost then (.green, none)
    else if endsWith own ".husarnet.com" then
      (.yellow, some "You're using development environment")
    else (.yellow, some "You're using self-hosted environment")
  marked dot [("CLI", own), ("Daemon", s.dashboardHost)] help?
    ++ (if s.notices.isDirty then
      [statusHelp .red ("Daemon's dirty flag is set. You need to restart husarnet-daemon in order to "
        ++ "reflect the current settings (like the Dashboard URL)")]
    else [])

/-- A text whose first character is put in its capital form. -/
def titleCase (s : String) : String :=
  match s.toList with
  | [] => ""
  | c :: rest => String.ofList (upper c ++ rest)

/-- The connection to the base server and, in detail, to the other parts of the network. -/
def connectionLines (s : Snapshot) (isDetailed : Bool) : List String :=
  let base := s.base
  let (dot, help?) : Dot × Option String :=
    if base.isUdp then (.green, none)
    else if base.isTcp then
      (.yellow, some "TCP is a fallback connection method. You'll get better results on UDP")
    else
      (.red, some ("There's no Base Server connection - "
        ++ "Husarnet will not be fully functional"))
  let place := base.address ++ ":" ++ toString base.port.toNat ++ " (" ++ base.kind ++ ")"
  marked dot [("Base Server", place)] help?
    ++ (if isDetailed then
      (s.connections.sortedEntries.filter (·.1 ≠ "base")).map fun (name, connected) =>
        boolStatus connected (titleCase name) "connected" "not connected"
    else [])

/-- What the daemon is ready for. -/
def readinessLines (s : Snapshot) : List String :=
  [boolStatus s.isReady "Is ready to handle data?" "ready" "not ready",
    boolStatus s.isReadyToJoin "Is ready to join?" "ready" "not ready",
    boolStatus s.isJoined "Is joined?" "ready" "not ready"]

/-- The characters of a setting's name as an environment variable: capitals, with an underscore for
each separator and before each capital that follows a small letter or a digit.  `afterSmall` tells
whether the character before was one of those. -/
def variableChars (afterSmall : Bool) : List Char → List Char
  | [] => []
  | c :: rest =>
    if c = '-' ∨ c = ' ' ∨ c = '_' then '_' :: variableChars false rest
    else
      (if isUpper c && afterSmall then ['_'] else []) ++ upper c
        ++ variableChars (isLower c || isAsciiDigit c) rest

/-- A setting's name as an environment variable: `enableHooks` is `ENABLE_HOOKS`. -/
def variableName (setting : String) : String :=
  String.ofList (variableChars false setting.toList)

/-- The settings of the user. -/
def settingLines (s : Snapshot) : List String :=
  (s.settings.sortedEntries.map fun (name, value) => statusLine .neutral (variableName name) value)
    ++ ["", "If you want to override any of those variables, prefix them with " ++ bold "HUSARNET_"
      ++ " and provide as an environment variable to " ++ bold "husarnet-daemon"]

/-- The flags of a peer on one line. -/
def peerFlags (peer : Peer) : String :=
  let active :=
    if peer.isActive then Dot.green.mark ++ " active   " else Dot.neutral.mark ++ " inactive "
  let secure :=
    if peer.isSecure then Dot.green.mark ++ " secure       "
    else Dot.neutral.mark ++ " no data flow "
  let route :=
    if peer.isTunnelled then Dot.yellow.mark ++ " tunelled     "
    else Dot.green.mark ++ " peer to peer "
  trimmedEnd (active ++ "  " ++ secure ++ "  " ++ route)

/-- Whether the address in use for a peer, with or without port, is the one of the base server. -/
def usesBase (used base : String) : Bool :=
  let host := match Socket.ofText? used with
    | some socket => socket.ip.text
    | none => used
  same host base

/-- The names that a whitelist entry is labelled with. -/
def labels (s : Snapshot) (address : String) : List String :=
  (if same address s.localAddress then ["(localhost)"] else [])
    ++ (if same address s.websetupAddress then ["(websetup)"] else [])
    ++ s.hostnamesFor address

/-- Texts in order, each once. -/
def sortedOnce (texts : List String) : List String :=
  (texts.mergeSort fun a b => a ≤ b).eraseReps

/-- The addresses of a peer. -/
def peerAddressLines (s : Snapshot) (peer : Peer) : List String :=
  (if peer.targetAddresses.isEmpty then []
  else ["Addresses from Base Server: " ++ " ".intercalate (sortedOnce peer.targetAddresses)])
    ++ (if isUnspecified peer.usedTargetAddress || usesBase peer.usedTargetAddress s.base.address
    then [] else ["Used destination address:   " ++ peer.usedTargetAddress])

/-- The block of a whitelist entry. -/
def whitelistBlock (s : Snapshot) (isDetailed : Bool) (address : String) : List String :=
  let peer := (s.peerAt? address).getD {}
  [trimmedEnd (expandedOrSelf address ++ " " ++ " ".intercalate (labels s address)), peerFlags peer]
    ++ (if isDetailed then peerAddressLines s peer else [])
    ++ [""]

/-- The whitelist in the order of the addresses as they are shown. -/
def sortedWhitelist (s : Snapshot) : List String :=
  s.whitelist.mergeSort fun a b => expandedOrSelf a ≤ expandedOrSelf b

/-- The blocks of the whitelist. -/
def whitelistLines (s : Snapshot) (isDetailed : Bool) : List String :=
  (sortedWhitelist s).flatMap (whitelistBlock s isDetailed)

/-- A section with its heading. -/
def titled (title : String) (lines : List String) : List String :=
  underline title :: lines ++ [""]

/-- The lines of a report. -/
def lines (s : Snapshot) (ctx : ReportContext) : List String :=
  titled "Version" (versionLines s ctx)
    ++ titled "Dashboard URL" (dashboardLines s ctx)
    ++ titled "Connection status" (connectionLines s ctx.isDetailed)
    ++ titled "Readiness" (readinessLines s)
    ++ (if ctx.isDetailed then titled "User settings" (settingLines s) else [])
    ++ titled "Local" [Dot.neutral.mark ++ " Husarnet IP:\n" ++ bold (expandedOrSelf s.localAddress)]
    ++ underline "Whitelist" :: whitelistLines s ctx.isDetailed

end Report

/-- The report on a snapshot. -/
def Snapshot.report (s : Snapshot) (ctx : ReportContext) : String :=
  "\n".intercalate (Report.lines s ctx)

end MeshControl.Daemon
