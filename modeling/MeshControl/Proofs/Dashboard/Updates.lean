import MeshControl.Dashboard.Naming
import MeshControl.Proofs.Dashboard.Rejection

/-!
# What an update leaves as it is

An update replaces a group or a device as a whole, so the fields that are not to change are filled in
from what the dashboard reports.  Each one is sent as it is reported; but a field that is not reported
is read as an empty one, at every level from the payload down, and is sent as such.

* `FilledIn`: how the value that is sent for a field comes about.
* `Group.readFrom`, `Device.readFrom`: a record holds for each field what is reported for it.
* `update_keeps_reported`: an update keeps what is reported.
* `update_blanks_unreported`: what is not reported is lost.
-/

namespace MeshControl.Dashboard

open Daemon Dialogue MeshControl.Http MeshControl.Json MeshControl.Text

/-! ### What an answer reports -/

/-- The payload of an answer. -/
def payloadOf? (answer : Answer) : Option Node :=
  (Node.ofBytes? answer.body).bind (Node.given? Envelope.fieldNames "payload")

/-- What an answer about a group reports for a field of the group. -/
def groupField? (name : String) (answer : Answer) : Option Node :=
  ((payloadOf? answer).bind (Node.given? ["group", "attachableDevices", "joinCode"] "group")).bind
    (Node.given? Group.fieldNames name)

/-- What an answer about a device reports for a field of the device. -/
def deviceField? (name : String) (answer : Answer) : Option Node :=
  (payloadOf? answer).bind (Node.given? Device.fieldNames name)

variable {node : Node}

theorem Envelope.readFrom {α : Type} {decode? : Node → Option α} {envelope : Envelope α}
    (h : Envelope.ofNode? decode? node = some envelope) :
    ReadFrom (Node.nullable? decode?) none (node.given? fieldNames "payload")
      envelope.payload? := by
  simp only [Envelope.ofNode?, Bind.bind, Option.bind_eq_some_iff] at h
  obtain ⟨fields, hfields, kind, -, errors, -, warnings, -, message, -, payload?, hpayload, h⟩ := h
  cases h
  exact readFrom_of_get? hfields hpayload (by decide)

theorem GroupDetails.readFrom {details : GroupDetails}
    (h : GroupDetails.ofNode? node = some details) :
    ReadFrom Group.ofNode? {} (node.given? ["group", "attachableDevices", "joinCode"] "group")
      details.group := by
  simp only [GroupDetails.ofNode?, Bind.bind, Option.bind_eq_some_iff] at h
  obtain ⟨fields, hfields, group, hgroup, devices, -, code, -, h⟩ := h
  cases h
  exact readFrom_of_get? hfields hgroup (by decide)

/-- A group has the name, emoji and comment that its text gives. -/
theorem Group.readFrom {group : Group} (h : Group.ofNode? node = some group) :
    ReadFrom Node.text? "" (node.given? fieldNames "name") group.name ∧
      ReadFrom Node.text? "" (node.given? fieldNames "emoji") group.emoji ∧
      ReadFrom Node.text? "" (node.given? fieldNames "comment") group.comment := by
  simp only [Group.ofNode?, Bind.bind, Option.bind_eq_some_iff] at h
  obtain ⟨fields, hfields, id, -, emoji, hemoji, name, hname, comment, hcomment, devices, -, codes,
    -, h⟩ := h
  cases h
  exact ⟨readFrom_of_get? hfields hname (by decide), readFrom_of_get? hfields hemoji (by decide),
    readFrom_of_get? hfields hcomment (by decide)⟩

/-- A device has the hostname, emoji, comment and aliases that its text gives. -/
theorem Device.readFrom {device : Device} (h : Device.ofNode? node = some device) :
    ReadFrom Node.text? "" (node.given? fieldNames "hostname") device.hostname ∧
      ReadFrom Node.text? "" (node.given? fieldNames "emoji") device.emoji ∧
      ReadFrom Node.text? "" (node.given? fieldNames "comment") device.comment ∧
      ReadFrom Node.texts? [] (node.given? fieldNames "aliases") device.aliases := by
  simp only [Device.ofNode?, Bind.bind, Option.bind_eq_some_iff] at h
  obtain ⟨fields, hfields, id, -, ip, -, emoji, hemoji, hostname, hhostname, agent, -, comment,
    hcomment, aliases, haliases, status, -, last, -, h⟩ := h
  cases h
  exact ⟨readFrom_of_get? hfields hhostname (by decide),
    readFrom_of_get? hfields hemoji (by decide), readFrom_of_get? hfields hcomment (by decide),
    readFrom_of_get? hfields haliases (by decide)⟩

section Answer

variable {α β : Type} {endpoint : String} {decode? : Node → Option α} {default : α}
  {answer : Answer} {envelope : Envelope α}

/-- A field of the payload of an answer. -/
theorem readFrom_of_readAnswer {read? : Node → Option β} {blank : β} {look : Node → Option Node}
    {f : α → β} (h : readAnswer decode? endpoint answer = .ok envelope)
    (hfield : ∀ node record, decode? node = some record →
      ReadFrom read? blank (look node) (f record))
    (habsent : f default = blank) (hnull : look .null = none) :
    ReadFrom read? blank ((payloadOf? answer).bind look) (f (envelope.payload?.getD default)) := by
  obtain ⟨body, hbody, henvelope⟩ := ofNode?_of_readAnswer h
  rw [payloadOf?, hbody, Option.bind_some]
  exact (Envelope.readFrom henvelope).field_of_nullable hfield habsent hnull

end Answer

/-! ### What an update sends -/

/-- How the value that an update sends for a field comes about. -/
structure FilledIn {α : Type} (read? : Node → Option α) (blank : α) (change? : Option α)
    (reported? : Option Node) (sent : α) : Prop where
  /-- What is to change has its new value. -/
  changed : ∀ value, change? = some value → sent = value
  /-- What is not to change has the value that is reported for it, or is blank if none is. -/
  kept : change? = none → ReadFrom read? blank reported? sent

theorem FilledIn.of_readFrom {α : Type} {read? : Node → Option α} {blank current : α}
    {reported? : Option Node} (h : ReadFrom read? blank reported? current) (change? : Option α) :
    FilledIn read? blank change? reported? (change?.getD current) where
  changed value hvalue := by rw [hvalue, Option.getD_some]
  kept hnone := by rwa [hnone, Option.getD_none]

/-- An update of a group is one of the group that the last answer is about, and keeps what that answer
reports. -/
def KeepsGroup (base : BaseUrl) (changes : GroupChanges) (log : Log) (op : Operation) : Prop :=
  ∃ id input secret asked answer,
    op = .updateGroup id input ∧
    forwarded base .get ("/web/groups/" ++ id) none secret = .ok asked ∧
    LastAnswered log asked answer ∧
    FilledIn Node.text? "" changes.name? (groupField? "name" answer) input.name ∧
    FilledIn Node.text? "" changes.emoji? (groupField? "emoji" answer) input.emoji ∧
    FilledIn Node.text? "" changes.comment? (groupField? "comment" answer) input.comment

/-- An update of a device is one of the device that the last answer is about, and keeps what that
answer reports. -/
def KeepsDevice (base : BaseUrl) (changes : DeviceChanges) (log : Log) (op : Operation) : Prop :=
  ∃ id input secret asked answer,
    op = .updateDevice id input ∧
    forwarded base .get ("/web/devices/" ++ id) none secret = .ok asked ∧
    LastAnswered log asked answer ∧
    FilledIn Node.text? "" changes.hostname? (deviceField? "hostname" answer) input.hostname ∧
    FilledIn Node.text? "" changes.emoji? (deviceField? "emoji" answer) input.emoji ∧
    FilledIn Node.text? "" changes.comment? (deviceField? "comment" answer) input.comment ∧
    FilledIn Node.texts? [] changes.aliases? (deviceField? "aliases" answer) input.aliases

variable {base : BaseUrl} {name : String} {log : Log} {op : Operation}

theorem keepsGroup_of_branch {changes : GroupChanges}
    (h : (updateGroup base name changes).run.Branch log (.ok op)) :
    KeepsGroup base changes log op := by
  obtain ⟨_, _, hok⟩ | ⟨first, id, rest, _, hrest, rfl⟩ := branch_run_bind_iff.mp h
  · cases hok
  obtain ⟨_, _, hok⟩ | ⟨second, details, _, hdetails, hdone, rfl⟩ := branch_run_bind_iff.mp hrest
  · cases hok
  cases hdone
  obtain ⟨secret, asked, answer, envelope, hforwarded, hlast, hread, rfl⟩ :=
    lastAnswered_of_call hdetails
  rw [List.append_nil]
  have hfield {field : Group → String} (hblank : field {} = "") {named : String}
      (hnamed : ∀ node group, Group.ofNode? node = some group →
        ReadFrom Node.text? "" (node.given? Group.fieldNames named) (field group)) :
      ReadFrom Node.text? "" (groupField? named answer)
        (field (envelope.payload?.getD {}).group) := by
    rw [groupField?, Option.bind_assoc]
    refine readFrom_of_readAnswer (f := fun details => field details.group) hread ?_ ?_ ?_
    · exact fun _ _ h => (GroupDetails.readFrom h).field (hnamed · _) hblank
    · exact hblank
    · rfl
  refine ⟨id, _, secret, asked, answer, rfl, hforwarded, hlast.prepend first, ?_, ?_, ?_⟩
  · exact .of_readFrom (hfield rfl fun _ _ h => (Group.readFrom h).1) _
  · exact .of_readFrom (hfield rfl fun _ _ h => (Group.readFrom h).2.1) _
  · exact .of_readFrom (hfield rfl fun _ _ h => (Group.readFrom h).2.2) _

theorem keepsDevice_of_branch {changes : DeviceChanges}
    (h : (updateDevice base name changes).run.Branch log (.ok op)) :
    KeepsDevice base changes log op := by
  obtain ⟨_, _, hok⟩ | ⟨first, id, rest, _, hrest, rfl⟩ := branch_run_bind_iff.mp h
  · cases hok
  obtain ⟨_, _, hok⟩ | ⟨second, current, _, hcurrent, hdone, rfl⟩ := branch_run_bind_iff.mp hrest
  · cases hok
  cases hdone
  obtain ⟨secret, asked, answer, envelope, hforwarded, hlast, hread, rfl⟩ :=
    lastAnswered_of_call hcurrent
  rw [List.append_nil]
  refine ⟨id, _, secret, asked, answer, rfl, hforwarded, hlast.prepend first, ?_, ?_, ?_, ?_⟩
  · exact .of_readFrom
      (readFrom_of_readAnswer hread (fun _ _ h => (Device.readFrom h).1) rfl rfl) _
  · exact .of_readFrom
      (readFrom_of_readAnswer hread (fun _ _ h => (Device.readFrom h).2.1) rfl rfl) _
  · exact .of_readFrom
      (readFrom_of_readAnswer hread (fun _ _ h => (Device.readFrom h).2.2.1) rfl rfl) _
  · exact .of_readFrom
      (readFrom_of_readAnswer hread (fun _ _ h => (Device.readFrom h).2.2.2) rfl rfl) _

/-- **An update keeps what is reported.** Whatever the dashboard answers, an update that is put
together is one of the group or the device that it reported last; a field that is to change has its new
value, and any other field has the value that is reported for it.  A field that is not reported is
blank. -/
theorem update_keeps_reported (base : BaseUrl) (name : String) (log : Log) (op : Operation) :
    (∀ changes : GroupChanges, (updateGroup base name changes).run.Branch log (.ok op) →
      KeepsGroup base changes log op) ∧
    ∀ changes : DeviceChanges, (updateDevice base name changes).run.Branch log (.ok op) →
      KeepsDevice base changes log op :=
  ⟨fun _ => keepsGroup_of_branch, fun _ => keepsDevice_of_branch⟩

/-! ### Updates with and without a report -/

/-- The text of a list of one group. -/
def groupListText : String :=
  "\x7b\"type\":\"success\",\"payload\":[\x7b\"id\":\"g1\",\"name\":\"Team\"\x7d]\x7d"

/-- The text of a report on that group. -/
def groupReportText : String :=
  "\x7b\"type\":\"success\",\"payload\":\x7b\"group\":\x7b\"name\":\"Team\",\"emoji\":\"E\"\x7d\x7d\x7d"

/-- The text of a list of one device. -/
def deviceListText : String :=
  "\x7b\"type\":\"success\",\"payload\":[\x7b\"id\":\"d1\"\x7d]\x7d"

/-- The text of a report on that device. -/
def deviceReportText : String :=
  "\x7b\"type\":\"success\",\"payload\":\x7b\"hostname\":\"alpha\",\"aliases\":[\"a\"]\x7d\x7d"

/-- The text of an answer that reports success and nothing else. -/
def bareSuccessText : String :=
  "\x7b\"type\":\"success\"\x7d"

/-- A group can be updated by whatever is reported of it. -/
theorem exists_branch_updateGroup {text : String} {details? : Option GroupDetails}
    (hread : readAnswer GroupDetails.ofNode? "/web/groups/g1" ⟨200, Utf8.encode text⟩ =
      .ok ⟨"success", [], [], "", details?⟩) (changes : GroupChanges) :
    ∃ log asked, LastAnswered log asked ⟨200, Utf8.encode text⟩ ∧
      (updateGroup loopback "g1" changes).run.Branch log
        (.ok (.updateGroup "g1" (changes.apply (details?.getD {}).group))) := by
  have hlist : readAnswer groups? "/web/groups" ⟨200, Utf8.encode groupListText⟩ =
      .ok ⟨"success", [], [], "", some [{ id := "g1", name := "Team" }]⟩ :=
    readAnswer_encode _ (by decide +kernel)
  obtain ⟨listed, hgroups⟩ := exists_branch_get [] (by decide +kernel) hlist
  obtain ⟨asked, hdetails⟩ := exists_branch_get {} (by decide +kernel) hread
  have hresolve : (resolveGroupId loopback "g1").run.Branch _ (.ok "g1") :=
    branch_run_bind_iff.mpr (.inr ⟨_, _, [], hgroups, .done _, rfl⟩)
  have hchange : (get loopback "/web/groups/g1" GroupDetails.ofNode? {} >>= fun details =>
      pure (.updateGroup "g1" (changes.apply details.group)) : Asking Operation).run.Branch _ _ :=
    branch_run_bind_iff.mpr (.inr ⟨_, _, [], hdetails, .done _, rfl⟩)
  exact ⟨_, asked, ⟨[_, _, _], [], rfl, fun _ _ => List.not_mem_nil⟩,
    branch_run_bind_iff.mpr (.inr ⟨_, _, _, hresolve, hchange, rfl⟩)⟩

/-- A device can be updated by whatever is reported of it. -/
theorem exists_branch_updateDevice {text : String} {device? : Option Device}
    (hread : readAnswer Device.ofNode? "/web/devices/d1" ⟨200, Utf8.encode text⟩ =
      .ok ⟨"success", [], [], "", device?⟩) (changes : DeviceChanges) :
    ∃ log asked, LastAnswered log asked ⟨200, Utf8.encode text⟩ ∧
      (updateDevice loopback "d1" changes).run.Branch log
        (.ok (.updateDevice "d1" (changes.apply (device?.getD {})))) := by
  have hlist : readAnswer devices? "/web/devices" ⟨200, Utf8.encode deviceListText⟩ =
      .ok ⟨"success", [], [], "", some [{ id := "d1" }]⟩ :=
    readAnswer_encode _ (by decide +kernel)
  obtain ⟨listed, hdevices⟩ := exists_branch_get [] (by decide +kernel) hlist
  obtain ⟨asked, hdetails⟩ := exists_branch_get {} (by decide +kernel) hread
  have hresolve : (resolveDeviceId loopback "d1").run.Branch _ (.ok "d1") :=
    branch_run_bind_iff.mpr (.inr ⟨_, _, [], hdevices, .done _, rfl⟩)
  have hchange : (get loopback "/web/devices/d1" Device.ofNode? {} >>= fun current =>
      pure (.updateDevice "d1" (changes.apply current)) : Asking Operation).run.Branch _ _ :=
    branch_run_bind_iff.mpr (.inr ⟨_, _, [], hdetails, .done _, rfl⟩)
  exact ⟨_, asked, ⟨[_, _, _], [], rfl, fun _ _ => List.not_mem_nil⟩,
    branch_run_bind_iff.mpr (.inr ⟨_, _, _, hresolve, hchange, rfl⟩)⟩

/-- A comment is changed and the rest is kept. -/
theorem update_keeps_reported_comment :
    (∃ log, (updateGroup loopback "g1" { comment? := some "new" }).run.Branch log
        (.ok (.updateGroup "g1" ⟨"Team", "E", "new"⟩)) ∧
      KeepsGroup loopback { comment? := some "new" } log
        (.updateGroup "g1" ⟨"Team", "E", "new"⟩)) ∧
    ∃ log, (updateDevice loopback "d1" { comment? := some "new" }).run.Branch log
        (.ok (.updateDevice "d1" ⟨"", "alpha", "new", ["a"]⟩)) ∧
      KeepsDevice loopback { comment? := some "new" } log
        (.updateDevice "d1" ⟨"", "alpha", "new", ["a"]⟩) := by
  constructor
  · have hread : readAnswer GroupDetails.ofNode? "/web/groups/g1"
        ⟨200, Utf8.encode groupReportText⟩ =
        .ok ⟨"success", [], [], "", some { group := { name := "Team", emoji := "E" } }⟩ :=
      readAnswer_encode _ (by decide +kernel)
    obtain ⟨log, _, _, h⟩ := exists_branch_updateGroup hread { comment? := some "new" }
    exact ⟨log, h, (update_keeps_reported loopback "g1" log _).1 _ h⟩
  · have hread : readAnswer Device.ofNode? "/web/devices/d1"
        ⟨200, Utf8.encode deviceReportText⟩ =
        .ok ⟨"success", [], [], "", some { hostname := "alpha", aliases := ["a"] }⟩ :=
      readAnswer_encode _ (by decide +kernel)
    obtain ⟨log, _, _, h⟩ := exists_branch_updateDevice hread { comment? := some "new" }
    exact ⟨log, h, (update_keeps_reported loopback "d1" log _).2 _ h⟩

/-- A group of which nothing is reported loses its name. -/
theorem update_blanks_unreported :
    ∃ log asked, LastAnswered log asked ⟨200, Utf8.encode bareSuccessText⟩ ∧
      (updateGroup loopback "g1" { comment? := some "new" }).run.Branch log
        (.ok (.updateGroup "g1" ⟨"", "", "new"⟩)) := by
  have hread : readAnswer GroupDetails.ofNode? "/web/groups/g1"
      ⟨200, Utf8.encode bareSuccessText⟩ = .ok ⟨"success", [], [], "", none⟩ :=
    readAnswer_encode _ (by decide +kernel)
  exact exists_branch_updateGroup hread { comment? := some "new" }

end MeshControl.Dashboard
