import MeshControl.Config.File
import MeshControl.Files.Tree
import MeshControl.Proofs.Dialogue.Answered
import MeshControl.Proofs.Files.Tree
import MeshControl.Proofs.Json.Faithful

/-!
# The configuration is read back

A configuration that was saved is loaded as it was (`saved_read_back`), and a file in which fields were
removed from it, put into another order and mixed with members of other names is loaded as the same
configuration with the removed fields at their defaults (`ofNode?_of_edited`).

A file is edited on the level of its JSON: `IsEdited` says which members stand in it, whatever the text
looks like otherwise.
-/

namespace MeshControl.Config

open MeshControl.Files MeshControl.Json MeshControl.Text Dialogue

variable {c : Config} {removed : List String} {members : List (Option String × Node)}

/-! ### Edited files -/

/-- The configuration with some fields at their defaults. -/
def reset (removed : List String) (c : Config) : Config :=
  let defaults : Config := {}
  { daemonAddress :=
      if "daemon_api_address" ∈ removed then defaults.daemonAddress else c.daemonAddress
    daemonPort := if "daemon_api_port" ∈ removed then defaults.daemonPort else c.daemonPort
    daemonSecret? := if "daemon_api_secret" ∈ removed then defaults.daemonSecret? else c.daemonSecret?
    dashboardUrl := if "dashboard_url" ∈ removed then defaults.dashboardUrl else c.dashboardUrl
    logLevel := if "log_level" ∈ removed then defaults.logLevel else c.logLevel
    nonInteractive := if "non_interactive" ∈ removed then defaults.nonInteractive else c.nonInteractive
    waitInterval := if "wait_interval_ms" ∈ removed then defaults.waitInterval else c.waitInterval
    waitAttempts := if "wait_max_attempts" ∈ removed then defaults.waitAttempts else c.waitAttempts
    recovery := if "recovery" ∈ removed then defaults.recovery else c.recovery
    serviceName := if "service_name" ∈ removed then defaults.serviceName else c.serviceName
    daemonBinary := if "daemon_binary" ∈ removed then defaults.daemonBinary else c.daemonBinary }

/-- The members of a configuration file in which fields of `c` were removed, in any order and among
members of other names. -/
structure IsEdited (c : Config) (removed : List String) (members : List (Option String × Node)) :
    Prop where
  exists_perm : ∃ extra : List (Option String × Node),
    (∀ m ∈ extra, ∃ name, m.1 = some name ∧ name ∉ fieldNames) ∧
    members.Perm (Value.memberNodes (c.members.filter fun m => m.1 ∉ removed) ++ extra)

/-- What stands under the names of the fields in a file that was saved. -/
structure Written (c : Config) (members : List (Option String × Node)) : Prop where
  address : under "daemon_api_address" members = [.string (some c.daemonAddress)]
  port : under "daemon_api_port" members = [(Value.nat c.daemonPort.toNat).node]
  secret : under "daemon_api_secret" members =
    (c.daemonSecret?.map fun secret => .string (some secret)).toList
  url : under "dashboard_url" members = [.string (some c.dashboardUrl)]
  logLevel : under "log_level" members = [.string (some c.logLevel)]
  nonInteractive : under "non_interactive" members = [.bool c.nonInteractive]
  interval : under "wait_interval_ms" members = [(Value.nat c.waitInterval.toNat).node]
  attempts : under "wait_max_attempts" members = [(Value.nat c.waitAttempts.toNat).node]
  recovery : under "recovery" members = [.string (some c.recovery.name)]
  service : under "service_name" members = [.string (some c.serviceName)]
  binary : under "daemon_binary" members = [.string (some c.daemonBinary)]

theorem written_members (c : Config) : Written c (Value.memberNodes c.members) := by
  obtain ⟨address, port, secret?, url, logLevel, nonInteractive, interval, attempts, recovery, service,
    binary⟩ := c
  cases secret? with
  | none => constructor <;> rfl
  | some secret => constructor <;> rfl

theorem nodup_members (c : Config) : (c.members.map Prod.fst).Nodup := by
  obtain ⟨address, port, secret?, url, logLevel, nonInteractive, interval, attempts, recovery, service,
    binary⟩ := c
  cases secret? with
  | none => simp [Config.members]
  | some secret => simp [Config.members]

/-- What stands under the name of a field in an edited file: nothing if it was removed, and otherwise
what was saved. -/
theorem IsEdited.under_eq (h : IsEdited c removed members) {name : String} (hname : name ∈ fieldNames) :
    under name members =
      if name ∈ removed then [] else under name (Value.memberNodes c.members) := by
  obtain ⟨extra, hextra, hperm⟩ := h.exists_perm
  have hnone : under name extra = [] := under_eq_nil fun m hm heq => by
    obtain ⟨other, hother, hunknown⟩ := hextra m hm
    rw [heq] at hother
    exact hunknown (Option.some.inj hother ▸ hname)
  have hkept : under name (Value.memberNodes (c.members.filter fun m => m.1 ∉ removed) ++ extra) =
      if name ∈ removed then [] else under name (Value.memberNodes c.members) := by
    rw [under_append, hnone, List.append_nil, under_filter]
  rw [← hkept]
  refine under_eq_of_perm hperm ?_
  rw [hkept]
  split_ifs
  · exact Nat.zero_le 1
  · exact length_under_le (nodup_members c) name

/-- The fields that a reader finds in an edited file. -/
theorem IsEdited.fields? (h : IsEdited c removed members) :
    ∃ fields, Node.fields? fieldNames (.object members) = some fields ∧ ∀ name ∈ fieldNames,
      (fields.find? name).toList =
        if name ∈ removed then [] else under name (Value.memberNodes c.members) := by
  have hlength : ∀ name ∈ fieldNames, (under name members).length ≤ 1 := by
    intro name hname
    rw [h.under_eq hname]
    split_ifs
    · exact Nat.zero_le 1
    · exact length_under_le (nodup_members c) name
  have hplain : IsPlain fieldNames members := by
    refine ⟨fun m hm => ?_, hlength⟩
    obtain ⟨extra, hextra, hperm⟩ := h.exists_perm
    rcases List.mem_append.mp (hperm.subset hm) with hm | hm
    · rw [Value.memberNodes_eq_map] at hm
      obtain ⟨_, _, rfl⟩ := List.mem_map.mp hm
      rfl
    · obtain ⟨name, hname, _⟩ := hextra m hm
      rw [hname]
      rfl
  obtain ⟨fields, hfields, hfind⟩ := Node.fields?_object hplain
  refine ⟨fields, hfields, fun name hname => ?_⟩
  rw [hfind name hname, ← h.under_eq hname]
  match under name members, hlength name hname with
  | [], _ => rfl
  | [_], _ => rfl

/-- A field that was removed is read as its default, and any other as it was saved. -/
theorem get?_eq_ite {α : Type} {write : α → Node} {decode? : Node → Option α} {fields : Fields}
    {name : String} {x default : α} (h : Faithful write Eq decode?)
    (hfind : (fields.find? name).toList = if name ∈ removed then [] else [write x]) :
    fields.get? name decode? default = some (if name ∈ removed then default else x) := by
  rw [Fields.get?]
  split_ifs at hfind ⊢
  · rw [Option.toList_eq_nil_iff.mp hfind]
  · rw [Option.toList_eq_singleton_iff.mp hfind]
    exact h.read_written x

theorem faithful_recovery : Faithful (fun p : RecoveryPolicy => .string (some p.name)) Eq
    (fun node => node.choice?.bind RecoveryPolicy.ofName?) := by
  refine .of_eq fun p => ?_
  cases p <;> rfl

theorem faithful_secret :
    Faithful (fun s? : Option String => (s?.map fun s => Node.string (some s)).getD .null) Eq
      (Node.nullable? Node.text?) := by
  refine .of_eq fun s? => ?_
  cases s? with
  | none => rfl
  | some s => rfl

/-- **An edited file** is read as the configuration with the removed fields at their defaults. -/
theorem ofNode?_of_edited (h : IsEdited c removed members) :
    ofNode? (.object members) = some (c.reset removed) := by
  obtain ⟨fields, hfields, hfind⟩ := h.fields?
  have hwritten := written_members c
  simp only [fieldNames, List.forall_mem_cons, hwritten.address, hwritten.port, hwritten.secret,
    hwritten.url, hwritten.logLevel, hwritten.nonInteractive, hwritten.interval, hwritten.attempts,
    hwritten.recovery, hwritten.service, hwritten.binary] at hfind
  obtain ⟨haddress, hport, hsecret, hurl, hlog, hinteractive, hinterval, hattempts, hrecovery, hservice,
    hbinary, -⟩ := hfind
  have hsecret : fields.get? "daemon_api_secret" (Node.nullable? Node.text?) none =
      some (if "daemon_api_secret" ∈ removed then none else c.daemonSecret?) := by
    cases hset : c.daemonSecret? with
    | none =>
      rw [hset, Option.map_none, Option.toList_none, ite_self] at hsecret
      rw [Fields.get?, Option.toList_eq_nil_iff.mp hsecret, ite_self]
    | some secret =>
      rw [hset] at hsecret
      exact get?_eq_ite faithful_secret hsecret
  have hport : fields.get? "daemon_api_port" (fun n => (n.below? UInt16.size).map UInt16.ofNat) 16216 =
      some (if "daemon_api_port" ∈ removed then 16216 else c.daemonPort) :=
    get?_eq_ite (.below (by decide) UInt16.toNat_lt fun _ => UInt16.ofNat_toNat) hport
  have hinterval : fields.get? "wait_interval_ms" (fun n => (n.below? UInt64.size).map UInt64.ofNat) 1000 =
      some (if "wait_interval_ms" ∈ removed then 1000 else c.waitInterval) :=
    get?_eq_ite (.below (by decide) UInt64.toNat_lt fun _ => UInt64.ofNat_toNat) hinterval
  have hattempts : fields.get? "wait_max_attempts" (fun n => (n.below? UInt32.size).map UInt32.ofNat) 120 =
      some (if "wait_max_attempts" ∈ removed then 120 else c.waitAttempts) :=
    get?_eq_ite (.below (by decide) UInt32.toNat_lt fun _ => UInt32.ofNat_toNat) hattempts
  have hinteractive : fields.bool? "non_interactive" =
      some (if "non_interactive" ∈ removed then false else c.nonInteractive) :=
    get?_eq_ite .bool hinteractive
  rw [ofNode?, hfields, Option.bind_eq_bind, Option.bind_some]
  dsimp only
  rw [get?_eq_ite .text haddress, hport, hsecret, get?_eq_ite .text hurl, get?_eq_ite .text hlog,
    hinteractive, hinterval, hattempts, get?_eq_ite faithful_recovery hrecovery,
    get?_eq_ite .text hservice, get?_eq_ite .text hbinary]
  rfl

/-- A configuration as it was saved is an edited file in which nothing was changed. -/
theorem isEdited_saved (c : Config) : IsEdited c [] (Value.memberNodes c.members) := by
  refine ⟨[], nofun, ?_⟩
  simp

theorem reset_nil (c : Config) : c.reset [] = c := by
  simp [reset]

theorem ofFileText?_fileText (c : Config) : ofFileText? c.fileText = some c := by
  have hread := ofNode?_of_edited (isEdited_saved c)
  rw [reset_nil] at hread
  rw [ofFileText?, fileText, Value.pretty, Node.ofText?_write, Option.bind_some]
  exact hread

/-! ### Files -/

variable {t u v w : Tree} {path text : String}

theorem run_readIfThere_of_findFile {p : Place} {mode : Nat}
    (h : t.findFile path = .ok (p, Utf8.encode text, mode)) :
    (readIfThere path).run Tree.answer t = (some (.ok text), t) := by
  have hthere : (t.find path).isOk = true := by
    obtain ⟨x, hfind, _⟩ := bind_eq_ok_iff.mp h
    rw [hfind]
    rfl
  have htext : textOf (Utf8.encode text) = .ok text := by
    rw [textOf, Utf8.decode?_encode]
  have hread : (readText path).run Tree.answer t = (.ok text, t) := by
    rw [readText]
    simp only [bind_eq, run_bind, run_query, pure_eq, Dialogue.run, Tree.answer, h]
    exact congrArg (fun x => (x, t)) htext
  rw [readIfThere]
  simp only [bind_eq, run_bind, run_query, Tree.answer, hthere, if_true, pure_eq, hread, Dialogue.run]

/-- A file that is there is loaded as the configuration that its text writes. -/
theorem run_loadFrom_of_findFile {p : Place} {mode : Nat}
    (h : t.findFile path = .ok (p, Utf8.encode text, mode)) (hc : ofFileText? text = some c) :
    (loadFrom path).run Tree.answer t = (.ok c, t) := by
  rw [loadFrom]
  simp only [bind_eq, run_bind, run_readIfThere_of_findFile h, pure_eq, Dialogue.run, ofFile, hc]

/-- A step of saving succeeds if what it asks for does. -/
theorem run_saveStep_eq_ok_iff {fail : Files.Error → SaveError}
    {d : Files.Asking (Except Files.Error Unit)} :
    (saveStep fail d).run.run Tree.answer t = (.ok (), u) ↔ d.run Tree.answer t = (.ok (), u) := by
  show (d.bind fun r => .done (r.mapError fail)).run Tree.answer t = (.ok (), u) ↔ _
  rw [run_bind]
  obtain ⟨cause | _, w⟩ := d.run Tree.answer t
  · exact ⟨nofun, nofun⟩
  · constructor
    · exact fun h => congrArg (Prod.mk _) (Prod.mk.inj h).2
    · exact fun h => congrArg (Prod.mk _) (Prod.mk.inj h).2

/-- A configuration is saved by making the directory and writing the file. -/
theorem run_saveTo_eq_ok_iff :
    (saveTo path c).run Tree.answer t = (.ok (), u) ↔ ∃ w,
      Tree.answer t (.makeDirectories (parent path)) = (.ok (), w) ∧
        w.write path (Utf8.encode c.fileText) = .ok u := by
  rw [saveTo, run_bind_eq_ok_iff]
  constructor
  · rintro ⟨_, w, hmade, hwritten⟩
    have hwrite : w.settle (w.write path (Utf8.encode c.fileText)) = (.ok (), u) :=
      run_saveStep_eq_ok_iff.mp hwritten
    exact ⟨w, run_saveStep_eq_ok_iff.mp hmade, Tree.settle_eq_ok_iff.mp hwrite⟩
  · rintro ⟨w, hmade, hwrite⟩
    refine ⟨(), w, run_saveStep_eq_ok_iff.mpr hmade, run_saveStep_eq_ok_iff.mpr ?_⟩
    exact Tree.settle_eq_ok_iff.mpr hwrite

theorem text?_of_findFile {p : Place} {mode : Nat}
    (h : t.findFile path = .ok (p, Utf8.encode text, mode)) : t.text? path = some text := by
  rw [Tree.text?, h]
  exact congrArg some (Utf8.decodeLossy_encode text)

/-- Directories that were made need not be made again. -/
theorem answer_makeDirectories_again {directory : String}
    (h : Tree.answer t (.makeDirectories directory) = (.ok (), w)) (hkeeps : Tree.Keeps w u) :
    Tree.answer u (.makeDirectories directory) = (.ok (), u) := by
  simp only [Tree.answer] at h ⊢
  cases hpath : Tree.requirePath directory with
  | error e =>
    rw [hpath] at h
    cases (Prod.mk.inj h).1
  | ok _ =>
    rw [hpath] at h
    dsimp only at h ⊢
    have hw : Tree.Keeps t (t.makeDirectories false (t.start directory) (parts directory)).2 :=
      Tree.keeps_makeDirectories
    rw [h] at hw
    rw [(hw.trans hkeeps).start_eq]
    exact Tree.makeDirectories_again h hkeeps

/-- **A configuration is read back as it was saved.**  The file that was saved holds the text of the
configuration and is loaded as the configuration, and saving what was loaded leaves the text as it is.
A file that holds, in whatever text, an edited configuration is loaded as that configuration with the
removed fields at their defaults. -/
theorem saved_read_back (c : Config) :
    (∀ t u path, (saveTo path c).run Tree.answer t = (.ok (), u) →
      u.text? path = some c.fileText ∧ (loadFrom path).run Tree.answer u = (.ok c, u) ∧
        ∃ v, (saveTo path c).run Tree.answer u = (.ok (), v) ∧ v.text? path = u.text? path) ∧
    ∀ removed members text, IsEdited c removed members →
      Node.ofText? text = some (.object members) → ∀ t path place mode,
      t.findFile path = .ok (place, Utf8.encode text, mode) →
        (loadFrom path).run Tree.answer t = (.ok (c.reset removed), t) := by
  constructor
  · intro t u path hsaved
    obtain ⟨w, hmade, hwrite⟩ := run_saveTo_eq_ok_iff.mp hsaved
    obtain ⟨place, mode, hfind⟩ := Tree.findFile_of_write hwrite
    have htext := text?_of_findFile hfind
    have hagain := answer_makeDirectories_again hmade (Tree.keeps_write hwrite)
    obtain ⟨v, hv⟩ := Tree.exists_write hfind (Utf8.encode c.fileText)
    obtain ⟨_, _, hfound⟩ := Tree.findFile_of_write hv
    refine ⟨htext, run_loadFrom_of_findFile hfind (ofFileText?_fileText c), v, ?_, ?_⟩
    · exact run_saveTo_eq_ok_iff.mpr ⟨u, hagain, hv⟩
    · rw [htext, text?_of_findFile hfound]
  · intro removed members text hedited htext t path place mode hfind
    refine run_loadFrom_of_findFile hfind ?_
    rw [ofFileText?, htext, Option.bind_some]
    exact ofNode?_of_edited hedited

/-- A configuration with a secret that takes escapes to write. -/
def escaped : Config := { daemonSecret? := some "\"a\\b\"\n", daemonPort := 80, recovery := .never }

/-- The same file without its port, from the last field to the first, and with a member of another
name. -/
def escapedEdited : Value :=
  .object ((escaped.members.filter fun m => m.1 ∉ ["daemon_api_port"]).reverse ++
    [("comment", .array [.null])])

theorem isEdited_escapedEdited : ∃ members, escapedEdited.node = .object members ∧
    IsEdited escaped ["daemon_api_port"] members := by
  refine ⟨_, rfl, [(some "comment", (Value.array [.null]).node)], fun m hm => ?_, ?_⟩
  · exact ⟨"comment", by rw [List.mem_singleton.mp hm], by decide⟩
  · simp only [Value.memberNodes_eq_map, List.map_append]
    exact ((List.reverse_perm _).map _).append_right _

theorem saved_read_back_escaped :
    (∃ u, (saveTo "/mesh/config.json" escaped).run Tree.answer {} = (.ok (), u) ∧
      (loadFrom "/mesh/config.json").run Tree.answer u = (.ok escaped, u)) ∧
    ∃ t : Tree, t.text? "/edited" = some escapedEdited.pretty ∧
      (loadFrom "/edited").run Tree.answer t = (.ok { escaped with daemonPort := 16216 }, t) := by
  obtain ⟨hsaved, hedited⟩ := saved_read_back escaped
  constructor
  · have hok : ((saveTo "/mesh/config.json" escaped).run Tree.answer {}).1.isOk = true := by
      decide +kernel
    generalize hrun : (saveTo "/mesh/config.json" escaped).run Tree.answer {} = run at hok
    obtain ⟨outcome, u⟩ := run
    obtain ⟨⟨⟩, rfl⟩ := exists_eq_ok_of_isOk hok
    exact ⟨u, rfl, (hsaved {} u _ hrun).2.1⟩
  · obtain ⟨members, hnode, hmembers⟩ := isEdited_escapedEdited
    have htext : Node.ofText? escapedEdited.pretty = some (.object members) := by
      rw [← hnode]
      exact Node.ofText?_write .indented escapedEdited
    have hok : (Tree.write {} "/edited" (Utf8.encode escapedEdited.pretty)).isOk = true := by
      decide +kernel
    obtain ⟨t, hwrite⟩ := exists_eq_ok_of_isOk hok
    obtain ⟨_, _, hfind⟩ := Tree.findFile_of_write hwrite
    exact ⟨t, text?_of_findFile hfind, hedited _ _ _ hmembers htext t _ _ _ hfind⟩

end MeshControl.Config
