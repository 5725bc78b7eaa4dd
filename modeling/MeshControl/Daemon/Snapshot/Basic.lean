import MeshControl.Address.Canonical
import MeshControl.NameMap
import MeshControl.Text.Letters

/-!
# Snapshots of the daemon's state

What the daemon reports about itself at one moment, and the questions asked of such a report: which
peer has an address, what an address is called, whether a part of the network is connected.  Addresses
are texts and are compared by value.
-/

namespace MeshControl.Daemon

open MeshControl.Address MeshControl.Text

/-- What the daemon wants its users to know. -/
structure Notices where
  messages : List String := []
  enabled : Bool := false
  toDisplay : Bool := false
  /-- The settings in force are not the ones on disk. -/
  isDirty : Bool := false
  deriving DecidableEq, Repr, Inhabited

/-- The connection to the base server. -/
structure BaseConnection where
  address : String := ""
  port : UInt16 := 0
  kind : String := ""
  deriving DecidableEq, Repr, Inhabited

namespace BaseConnection

/-- Whether the base server is reached over UDP. -/
def isUdp (base : BaseConnection) : Bool :=
  sameIgnoringAsciiCase base.kind "udp"

/-- Whether the base server is reached over TCP. -/
def isTcp (base : BaseConnection) : Bool :=
  sameIgnoringAsciiCase base.kind "tcp"

/-- Whether the base server is reached at all. -/
def isConnected (base : BaseConnection) : Bool :=
  base.isUdp || base.isTcp

end BaseConnection

/-- What the daemon knows of another device. -/
structure Peer where
  address : String := ""
  linkLocalAddress : String := ""
  isActive : Bool := false
  isReestablishing : Bool := false
  isSecure : Bool := false
  isTunnelled : Bool := false
  sourceAddresses : List String := []
  targetAddresses : List String := []
  usedTargetAddress : String := ""
  deriving DecidableEq, Repr, Inhabited

/-- The state of the daemon at one moment. -/
structure Snapshot where
  version : String := ""
  dashboardHost : String := ""
  notices : Notices := {}
  hooksEnabled : Bool := false
  websetupAddress : String := ""
  base : BaseConnection := {}
  localAddress : String := ""
  localHostname : String := ""
  isJoined : Bool := false
  isReady : Bool := false
  isReadyToJoin : Bool := false
  connections : NameMap Bool := .empty
  whitelist : List String := []
  settings : NameMap String := .empty
  hosts : NameMap String := .empty
  peers : List Peer := []
  deriving BEq, Inhabited

namespace Snapshot

/-- The first peer with an address. -/
def peerAt? (s : Snapshot) (address : String) : Option Peer :=
  s.peers.find? fun peer => same peer.address address

/-- Whether a part of the network is reported as connected. -/
def isConnectedTo (s : Snapshot) (element : String) : Bool :=
  (s.connections.get? element).getD false

/-- The names of an address in the host table, in order. -/
def hostnamesFor (s : Snapshot) (address : String) : List String :=
  ((s.hosts.entries.filter fun e => same e.2 address).map Prod.fst).mergeSort fun a b => a ≤ b

end Snapshot

end MeshControl.Daemon
