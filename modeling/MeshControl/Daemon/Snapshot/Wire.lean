import MeshControl.Daemon.Snapshot.Basic
import MeshControl.Json.Decoder

/-!
# Snapshots as JSON

The fields of each record in the order of their declaration.  Every field may be missing and then has
the value that says nothing.
-/

namespace MeshControl.Daemon

open MeshControl.Json

namespace Notices

/-- The names of the fields. -/
def fieldNames : List String :=
  ["notifications", "notifications_enabled", "notifications_to_display", "is_dirty"]

/-- The record that a text writes. -/
def ofNode? (node : Node) : Option Notices := do
  let fields ← node.fields? fieldNames
  return {
    messages := ← fields.texts? "notifications"
    enabled := ← fields.bool? "notifications_enabled"
    toDisplay := ← fields.bool? "notifications_to_display"
    isDirty := ← fields.bool? "is_dirty" }

/-- The record as a value. -/
def toValue (n : Notices) : Value :=
  .object [
    ("notifications", .strings n.messages),
    ("notifications_enabled", .bool n.enabled),
    ("notifications_to_display", .bool n.toDisplay),
    ("is_dirty", .bool n.isDirty)]

end Notices

namespace BaseConnection

/-- The names of the fields. -/
def fieldNames : List String :=
  ["address", "port", "type"]

/-- A port. -/
def portOfNode? (node : Node) : Option UInt16 :=
  (node.below? UInt16.size).map UInt16.ofNat

/-- The record that a text writes. -/
def ofNode? (node : Node) : Option BaseConnection := do
  let fields ← node.fields? fieldNames
  return {
    address := ← fields.text? "address"
    port := ← fields.get? "port" portOfNode? 0
    kind := ← fields.text? "type" }

/-- The record as a value. -/
def toValue (b : BaseConnection) : Value :=
  .object [("address", .string b.address), ("port", .nat b.port.toNat), ("type", .string b.kind)]

end BaseConnection

namespace Peer

/-- The names of the fields. -/
def fieldNames : List String :=
  ["husarnet_address", "link_local_address", "is_active", "is_reestablishing", "is_secure",
    "is_tunelled", "source_addresses", "target_addresses", "used_target_address"]

/-- The record that a text writes. -/
def ofNode? (node : Node) : Option Peer := do
  let fields ← node.fields? fieldNames
  return {
    address := ← fields.text? "husarnet_address"
    linkLocalAddress := ← fields.text? "link_local_address"
    isActive := ← fields.bool? "is_active"
    isReestablishing := ← fields.bool? "is_reestablishing"
    isSecure := ← fields.bool? "is_secure"
    isTunnelled := ← fields.bool? "is_tunelled"
    sourceAddresses := ← fields.texts? "source_addresses"
    targetAddresses := ← fields.texts? "target_addresses"
    usedTargetAddress := ← fields.text? "used_target_address" }

/-- The record as a value. -/
def toValue (p : Peer) : Value :=
  .object [
    ("husarnet_address", .string p.address),
    ("link_local_address", .string p.linkLocalAddress),
    ("is_active", .bool p.isActive),
    ("is_reestablishing", .bool p.isReestablishing),
    ("is_secure", .bool p.isSecure),
    ("is_tunelled", .bool p.isTunnelled),
    ("source_addresses", .strings p.sourceAddresses),
    ("target_addresses", .strings p.targetAddresses),
    ("used_target_address", .string p.usedTargetAddress)]

end Peer

namespace Snapshot

/-- A table of truth values. -/
def flagsOfNode? (node : Node) : Option (NameMap Bool) :=
  (node.members? Node.bool?).map NameMap.ofList

/-- A table of texts. -/
def textsOfNode? (node : Node) : Option (NameMap String) :=
  (node.members? Node.text?).map NameMap.ofList

/-- The names of the fields. -/
def fieldNames : List String :=
  ["version", "dashboard_fqdn", "standard_result", "hooks_enabled", "websetup_address",
    "base_connection", "local_ip", "local_hostname", "is_joined", "is_ready", "is_ready_to_join",
    "connection_status", "whitelist", "user_settings", "host_table", "peers"]

/-- The record that a text writes. -/
def ofNode? (node : Node) : Option Snapshot := do
  let fields ← node.fields? fieldNames
  return {
    version := ← fields.text? "version"
    dashboardHost := ← fields.text? "dashboard_fqdn"
    notices := ← fields.get? "standard_result" Notices.ofNode? {}
    hooksEnabled := ← fields.bool? "hooks_enabled"
    websetupAddress := ← fields.text? "websetup_address"
    base := ← fields.get? "base_connection" BaseConnection.ofNode? {}
    localAddress := ← fields.text? "local_ip"
    localHostname := ← fields.text? "local_hostname"
    isJoined := ← fields.bool? "is_joined"
    isReady := ← fields.bool? "is_ready"
    isReadyToJoin := ← fields.bool? "is_ready_to_join"
    connections := ← fields.get? "connection_status" flagsOfNode? .empty
    whitelist := ← fields.texts? "whitelist"
    settings := ← fields.get? "user_settings" textsOfNode? .empty
    hosts := ← fields.get? "host_table" textsOfNode? .empty
    peers := ← fields.get? "peers" (Node.list? Peer.ofNode?) [] }

/-- The record as a value, its tables in the order of their entries. -/
def toValue (s : Snapshot) : Value :=
  .object [
    ("version", .string s.version),
    ("dashboard_fqdn", .string s.dashboardHost),
    ("standard_result", s.notices.toValue),
    ("hooks_enabled", .bool s.hooksEnabled),
    ("websetup_address", .string s.websetupAddress),
    ("base_connection", s.base.toValue),
    ("local_ip", .string s.localAddress),
    ("local_hostname", .string s.localHostname),
    ("is_joined", .bool s.isJoined),
    ("is_ready", .bool s.isReady),
    ("is_ready_to_join", .bool s.isReadyToJoin),
    ("connection_status", .object (s.connections.entries.map fun (name, b) => (name, .bool b))),
    ("whitelist", .strings s.whitelist),
    ("user_settings", .object (s.settings.entries.map fun (name, t) => (name, .string t))),
    ("host_table", .object (s.hosts.entries.map fun (name, t) => (name, .string t))),
    ("peers", .array (s.peers.map Peer.toValue))]

end Snapshot

end MeshControl.Daemon
