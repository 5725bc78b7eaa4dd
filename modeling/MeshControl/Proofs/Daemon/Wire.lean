import MeshControl.Daemon.Snapshot.Wire
import MeshControl.Proofs.Daemon.Agreement
import MeshControl.Proofs.Json.Faithful

/-!
# Snapshots survive as JSON

For each record of a snapshot, how its fields may be written anew (`rules`), and that its reader is
faithful to its writer.  The entries of a table may be written in any order, and the table that is read
has the same values (`reads_table`); so a snapshot is read as an equal one (`Snapshot.reads`).
-/

namespace MeshControl.Json

variable {α : Type} {write : α → Value} {decode? : Node → Option α} {m : NameMap α}

/-! ### Tables -/

/-- A table as an object. -/
def tableValue (write : α → Value) (m : NameMap α) : Value :=
  .object (m.entries.map fun (name, x) => (name, write x))

/-- A table written anew: its entries may stand in any order. -/
inductive TableOf : Node → Node → Prop
  | object {members others : List (Option String × Node)} : others.Perm members →
    TableOf (.object members) (.object others)

theorem exists_eq_map_of_perm {β : Type} {f : α → β} {xs : List α} {ys : List β}
    (h : ys.Perm (xs.map f)) : ∃ zs : List α, zs.Perm xs ∧ ys = zs.map f := by
  have hsame : List.Forall₂ (fun y x => y = f x) (xs.map f) xs := by
    rw [List.forall₂_map_left_iff, List.forall₂_same]
    exact fun _ _ => rfl
  obtain ⟨zs, hzs, hperm⟩ := List.perm_comp_forall₂ h hsame
  refine ⟨zs, hperm, ?_⟩
  rw [← List.forall₂_eq_eq_eq, List.forall₂_map_right_iff]
  exact hzs

theorem node_tableValue : (tableValue write m).node =
    .object (m.entries.map fun (name, x) => (some name, (write x).node)) := by
  rw [tableValue, Value.node, Value.memberNodes_eq_map, List.map_map]
  rfl

theorem members?_map (h : ∀ x, decode? (write x).node = some x) (entries : List (String × α)) :
    Node.members? decode? (.object (entries.map fun (name, x) => (some name, (write x).node))) =
      some entries := by
  rw [Node.members?]
  induction entries with
  | nil => rfl
  | cons e rest ih =>
    obtain ⟨name, x⟩ := e
    rw [List.map_cons, List.mapM_cons, ih]
    dsimp only
    rw [h x]
    rfl

/-- A table is read with the same values, in whatever order its entries stand. -/
theorem reads_table (h : ∀ x, decode? (write x).node = some x) {node : Node}
    (hnode : TableOf (tableValue write m).node node) :
    ∃ n : NameMap α, (node.members? decode?).map NameMap.ofList = some n ∧ n.get? = m.get? := by
  rw [node_tableValue] at hnode
  obtain ⟨hperm⟩ := hnode
  obtain ⟨entries, hentries, rfl⟩ := exists_eq_map_of_perm hperm
  refine ⟨NameMap.ofList entries, ?_, NameMap.get?_ofList_of_perm hentries⟩
  rw [members?_map h, Option.map_some]

/-- A table, without entries if it is missing. -/
def Rule.table (name : String) : Rule :=
  ⟨name, TableOf, some (.object [])⟩

theorem Rule.Admits.table_refl (name : String) (m : NameMap α) :
    (Rule.table name).Admits [(tableValue write m).node] [(tableValue write m).node] := by
  rw [node_tableValue]
  exact .keep (.object (.refl _))

/-- A table is read with the same values, also if it was left out. -/
theorem Rule.Admits.table (write : α → Value) (m : NameMap α) {name : String} {fields : Fields}
    (h : ∀ x, decode? (write x).node = some x)
    (hadmits : (Rule.table name).Admits [(tableValue write m).node] (fields.find? name).toList) :
    ∃ n : NameMap α, fields.get? name (fun node => (node.members? decode?).map NameMap.ofList) .empty =
      some n ∧ n.get? = m.get? := by
  rw [Fields.get?]
  cases hfind : fields.find? name with
  | none =>
    rw [hfind] at hadmits
    cases hadmits with
    | leaveOut hleft =>
      rw [node_tableValue] at hleft
      have hentries : m.entries = [] := by
        injection Option.some.inj hleft with hmembers
        exact List.map_eq_nil_iff.mp hmembers.symm
      refine ⟨.empty, rfl, ?_⟩
      funext other
      rw [NameMap.get?, NameMap.get?, hentries]
      rfl
  | some node =>
    rw [hfind] at hadmits
    cases hadmits with
    | keep hrespelled => exact reads_table h hrespelled

end MeshControl.Json

namespace MeshControl.Daemon

open MeshControl.Json

namespace Notices

/-- How the fields may be written anew. -/
def rules : List Rule :=
  [.texts "notifications", .bool "notifications_enabled", .bool "notifications_to_display",
    .bool "is_dirty"]

theorem faithful : Faithful (fun n : Notices => n.toValue.node) (RecordOf rules) ofNode? := by
  refine .record (fun n => ?_) fun n fields h => ?_
  · simp only [rules, List.forall_mem_cons]
    exact ⟨.keep rfl, .keep rfl, .keep rfl, .keep rfl, nofun⟩
  · simp only [rules, List.forall_mem_cons] at h
    obtain ⟨hmessages, henabled, hdisplay, hdirty, -⟩ := h
    rw [hmessages.texts, henabled.bool, hdisplay.bool, hdirty.bool]
    rfl

end Notices

namespace BaseConnection

/-- How the fields may be written anew. -/
def rules : List Rule :=
  [.text "address", .plain "port" (Value.nat 0).node, .text "type"]

theorem faithful_port : Faithful (fun p : UInt16 => (Value.nat p.toNat).node) Eq portOfNode? :=
  .below (by decide) UInt16.toNat_lt fun _ => UInt16.ofNat_toNat

theorem faithful : Faithful (fun b : BaseConnection => b.toValue.node) (RecordOf rules) ofNode? := by
  refine .record (fun b => ?_) fun b fields h => ?_
  · simp only [rules, List.forall_mem_cons]
    exact ⟨.keep rfl, .keep rfl, .keep rfl, nofun⟩
  · simp only [rules, List.forall_mem_cons] at h
    obtain ⟨haddress, hport, hkind, -⟩ := h
    have hport : fields.get? "port" portOfNode? 0 = some b.port :=
      faithful_port.get?_eq (.plain "port" (Value.nat 0).node) rfl hport
    rw [haddress.text, hport, hkind.text]
    rfl

end BaseConnection

namespace Peer

/-- How the fields may be written anew. -/
def rules : List Rule :=
  [.text "husarnet_address", .text "link_local_address", .bool "is_active", .bool "is_reestablishing",
    .bool "is_secure", .bool "is_tunelled", .texts "source_addresses", .texts "target_addresses",
    .text "used_target_address"]

theorem faithful : Faithful (fun p : Peer => p.toValue.node) (RecordOf rules) ofNode? := by
  refine .record (fun p => ?_) fun p fields h => ?_
  · simp only [rules, List.forall_mem_cons]
    exact ⟨.keep rfl, .keep rfl, .keep rfl, .keep rfl, .keep rfl, .keep rfl, .keep rfl, .keep rfl,
      .keep rfl, nofun⟩
  · simp only [rules, List.forall_mem_cons] at h
    obtain ⟨haddress, hlink, hactive, hreestablishing, hsecure, htunnelled, hsources, htargets, hused,
      -⟩ := h
    rw [haddress.text, hlink.text, hactive.bool, hreestablishing.bool, hsecure.bool, htunnelled.bool,
      hsources.texts, htargets.texts, hused.text]
    rfl

theorem faithful_list :
    Faithful (fun peers : List Peer => (Value.array (peers.map Peer.toValue)).node)
      (ListOf (RecordOf rules)) (Node.list? Peer.ofNode?) := by
  simpa only [Value.node, Value.nodes_eq_map, List.map_map, Function.comp_def] using faithful.list

end Peer

namespace Snapshot

/-- How the fields may be written anew. -/
def rules : List Rule :=
  [.text "version", .text "dashboard_fqdn",
    ⟨"standard_result", RecordOf Notices.rules, some ({} : Notices).toValue.node⟩,
    .bool "hooks_enabled", .text "websetup_address",
    ⟨"base_connection", RecordOf BaseConnection.rules, some ({} : BaseConnection).toValue.node⟩,
    .text "local_ip", .text "local_hostname", .bool "is_joined", .bool "is_ready",
    .bool "is_ready_to_join", .table "connection_status", .texts "whitelist", .table "user_settings",
    .table "host_table", ⟨"peers", ListOf (RecordOf Peer.rules), some (.array [])⟩]

/-- A snapshot with other tables of the same values is equal. -/
theorem beq_of_tables {s : Snapshot} {connections : NameMap Bool} {settings hosts : NameMap String}
    (hconnections : connections.get? = s.connections.get?) (hsettings : settings.get? = s.settings.get?)
    (hhosts : hosts.get? = s.hosts.get?) :
    ({ s with connections := connections, settings := settings, hosts := hosts } == s) = true := by
  unfold BEq.beq instBEqSnapshot
  dsimp only
  unfold instBEqSnapshot.beq
  simp only [Bool.and_eq_true, beq_self_eq_true, NameMap.beq_iff, true_and, and_true]
  exact ⟨hconnections, hsettings, hhosts⟩

theorem respelled_refl (s : Snapshot) : RecordOf rules s.toValue.node s.toValue.node := by
  refine RecordOf.refl (by simp [Value.memberNodes_eq_map]) ?_
  simp only [rules, List.forall_mem_cons]
  exact ⟨.keep rfl, .keep rfl, .keep (Notices.faithful.refl s.notices), .keep rfl, .keep rfl,
    .keep (BaseConnection.faithful.refl s.base), .keep rfl, .keep rfl, .keep rfl, .keep rfl, .keep rfl,
    Rule.Admits.table_refl _ s.connections, .keep rfl, Rule.Admits.table_refl _ s.settings,
    Rule.Admits.table_refl _ s.hosts, .keep (Peer.faithful_list.refl s.peers), nofun⟩

/-- Every respelling of a snapshot is read as an equal one. -/
theorem reads {s : Snapshot} {node : Node} (h : RecordOf rules s.toValue.node node) :
    ∃ t, ofNode? node = some t ∧ (t == s) = true := by
  obtain ⟨fields, hfields, h⟩ := RecordOf.fields? h
  have hfields : node.fields? fieldNames = some fields := hfields
  simp only [rules, List.forall_mem_cons] at h
  obtain ⟨hversion, hdashboard, hnotices, hhooks, hwebsetup, hbase, haddress, hhostname, hjoined, hready,
    hreadyToJoin, hconnections, hwhitelist, hsettings, hhosts, hpeers, -⟩ := h
  have hnotices : fields.get? "standard_result" Notices.ofNode? {} = some s.notices :=
    Notices.faithful.get?_eq ⟨"standard_result", _, _⟩ rfl hnotices
  have hbase : fields.get? "base_connection" BaseConnection.ofNode? {} = some s.base :=
    BaseConnection.faithful.get?_eq ⟨"base_connection", _, _⟩ rfl hbase
  have hpeers : fields.get? "peers" (Node.list? Peer.ofNode?) [] = some s.peers :=
    Peer.faithful_list.get?_eq ⟨"peers", _, _⟩ rfl hpeers
  have bool?_node : ∀ b, Node.bool? (Value.bool b).node = some b := fun _ => rfl
  have text?_node : ∀ t, Node.text? (Value.string t).node = some t := fun _ => rfl
  obtain ⟨connections, hconnections, hsameConnections⟩ :=
    Rule.Admits.table .bool s.connections bool?_node hconnections
  obtain ⟨settings, hsettings, hsameSettings⟩ :=
    Rule.Admits.table .string s.settings text?_node hsettings
  obtain ⟨hosts, hhosts, hsameHosts⟩ :=
    Rule.Admits.table .string s.hosts text?_node hhosts
  have hconnections : fields.get? "connection_status" flagsOfNode? .empty = some connections :=
    hconnections
  have hsettings : fields.get? "user_settings" textsOfNode? .empty = some settings := hsettings
  have hhosts : fields.get? "host_table" textsOfNode? .empty = some hosts := hhosts
  refine ⟨_, ?_, beq_of_tables hsameConnections hsameSettings hsameHosts⟩
  rw [ofNode?, hfields, Option.bind_eq_bind, Option.bind_some, hversion.text, hdashboard.text, hnotices,
    hhooks.bool, hwebsetup.text, hbase, haddress.text, hhostname.text, hjoined.bool, hready.bool,
    hreadyToJoin.bool, hconnections, hwhitelist.texts, hsettings, hhosts, hpeers]
  rfl

end Snapshot

end MeshControl.Daemon
