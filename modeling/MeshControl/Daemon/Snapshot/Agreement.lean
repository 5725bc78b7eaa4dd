import MeshControl.Daemon.Snapshot.Basic

/-!
# When two snapshots say the same

The daemon spells one address in several ways, so equality of reports is too fine: `Snapshot.agree`
compares every address by value, everything else exactly, lists position by position and tables name
by name.  The second definition, `Snapshot.canonical`, puts each address in its canonical value; two
snapshots agree exactly if these views are the same.
-/

namespace MeshControl.Daemon

open MeshControl.Address

/-- Whether two lists have as many items, related position by position. -/
def agreeLists {α : Type} (related : α → α → Bool) : List α → List α → Bool
  | [], [] => true
  | x :: xs, y :: ys => related x y && agreeLists related xs ys
  | _, _ => false

/-- Whether two base connections agree. -/
def BaseConnection.agree (a b : BaseConnection) : Bool :=
  a.port == b.port && a.kind == b.kind && same a.address b.address

/-- Whether two reports of a peer agree. -/
def Peer.agree (a b : Peer) : Bool :=
  same a.address b.address
    && same a.linkLocalAddress b.linkLocalAddress
    && a.isActive == b.isActive
    && a.isReestablishing == b.isReestablishing
    && a.isSecure == b.isSecure
    && a.isTunnelled == b.isTunnelled
    && agreeLists same a.sourceAddresses b.sourceAddresses
    && agreeLists same a.targetAddresses b.targetAddresses
    && same a.usedTargetAddress b.usedTargetAddress

/-- Whether two snapshots agree. -/
def Snapshot.agree (a b : Snapshot) : Bool :=
  a.version == b.version
    && a.dashboardHost == b.dashboardHost
    && a.notices == b.notices
    && a.hooksEnabled == b.hooksEnabled
    && same a.websetupAddress b.websetupAddress
    && a.base.agree b.base
    && same a.localAddress b.localAddress
    && a.localHostname == b.localHostname
    && a.isJoined == b.isJoined
    && a.isReady == b.isReady
    && a.isReadyToJoin == b.isReadyToJoin
    && a.connections.agree (· == ·) b.connections
    && agreeLists same a.whitelist b.whitelist
    && a.settings.agree (· == ·) b.settings
    && a.hosts.agree same b.hosts
    && agreeLists Peer.agree a.peers b.peers

/-! ### The view by value -/

/-- A base connection with its address by value. -/
structure CanonicalBase where
  address : Canonical
  port : UInt16
  kind : String

/-- A peer with its addresses by value. -/
structure CanonicalPeer where
  address : Canonical
  linkLocalAddress : Canonical
  isActive : Bool
  isReestablishing : Bool
  isSecure : Bool
  isTunnelled : Bool
  sourceAddresses : List Canonical
  targetAddresses : List Canonical
  usedTargetAddress : Canonical

/-- A snapshot with its addresses by value and its tables as functions from names. -/
structure CanonicalSnapshot where
  version : String
  dashboardHost : String
  notices : Notices
  hooksEnabled : Bool
  websetupAddress : Canonical
  base : CanonicalBase
  localAddress : Canonical
  localHostname : String
  isJoined : Bool
  isReady : Bool
  isReadyToJoin : Bool
  connections : String → Option Bool
  whitelist : List Canonical
  settings : String → Option String
  hosts : String → Option Canonical
  peers : List CanonicalPeer

/-- The view of a base connection by value. -/
def BaseConnection.canonical (b : BaseConnection) : CanonicalBase where
  address := .ofText b.address
  port := b.port
  kind := b.kind

/-- The view of a peer by value. -/
def Peer.canonical (p : Peer) : CanonicalPeer where
  address := .ofText p.address
  linkLocalAddress := .ofText p.linkLocalAddress
  isActive := p.isActive
  isReestablishing := p.isReestablishing
  isSecure := p.isSecure
  isTunnelled := p.isTunnelled
  sourceAddresses := p.sourceAddresses.map .ofText
  targetAddresses := p.targetAddresses.map .ofText
  usedTargetAddress := .ofText p.usedTargetAddress

/-- The view of a snapshot by value. -/
def Snapshot.canonical (s : Snapshot) : CanonicalSnapshot where
  version := s.version
  dashboardHost := s.dashboardHost
  notices := s.notices
  hooksEnabled := s.hooksEnabled
  websetupAddress := .ofText s.websetupAddress
  base := s.base.canonical
  localAddress := .ofText s.localAddress
  localHostname := s.localHostname
  isJoined := s.isJoined
  isReady := s.isReady
  isReadyToJoin := s.isReadyToJoin
  connections := s.connections.get?
  whitelist := s.whitelist.map .ofText
  settings := s.settings.get?
  hosts := fun name => (s.hosts.get? name).map .ofText
  peers := s.peers.map Peer.canonical

end MeshControl.Daemon
