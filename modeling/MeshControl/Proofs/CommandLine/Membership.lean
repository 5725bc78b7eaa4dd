import MeshControl.Host.Machine
import MeshControl.Proofs.CommandLine.Setting
import MeshControl.Proofs.Dashboard.Naming
import MeshControl.Proofs.Dashboard.OnMachine

/-!
# The device that is put into a group

A device is put into a group, or taken from it, by its address.  A name that is no address stands for
the address that it leads to in the list of the dashboard, and nothing else is posted.

* `LeadsTo`: the address that a name leads to in a list of devices.
* `named_device_found`: looking a name up and posting what was found.
* `beta_found_as_alpha`: a name that leads to the address of another device.
-/

namespace MeshControl.CommandLine

open Dialogue MeshControl.Address MeshControl.Daemon MeshControl.Http MeshControl.Text
open MeshControl.Dashboard (Device FirstNamed IsForwarded Membership Operation Unshadowed devices?
  exists_firstNamed exists_list_of_resolveDeviceIp deviceIp? deviceIp?_eq_none_iff
  deviceIp?_of_firstNamed forwarded forwarded_of_get forwarded_of_run mem_link_of_mem_send
  mem_send_of_mem_link method_of_forwarded namesake namesake_ip_iff namesake_mem noDevice outcome
  resolveDeviceIp resolveDeviceIp_eq resolveGroupId resolveGroupId_eq result_of_resolveDeviceIp)

variable {name ip : String} {devices before : List Device} {d : Device}

/-- The address that a name leads to: the one of a device with the id of the first device that goes by
the name, and of that device itself exactly if it is unshadowed. -/
def LeadsTo (name : String) (devices : List Device) (ip : String) : Prop :=
  ∃ before d, FirstNamed name devices before d ∧ (∃ e ∈ devices, e.id = d.id ∧ ip = e.ip) ∧
    (ip = d.ip ↔ Unshadowed before d)

theorem leadsTo_of_firstNamed (h : FirstNamed name devices before d) :
    LeadsTo name devices (namesake before d).ip := by
  obtain ⟨hmem, hid⟩ := namesake_mem h
  exact ⟨before, d, h, ⟨_, hmem, hid, rfl⟩, namesake_ip_iff⟩

theorem leadsTo_of_deviceIp? (h : deviceIp? name devices = some ip) : LeadsTo name devices ip := by
  have hnamed : ∃ d ∈ devices, d.GoesBy name := by
    by_contra hnot
    have hnone := deviceIp?_eq_none_iff.mpr fun d hd hname => hnot ⟨d, hd, hname⟩
    cases hnone.symm.trans h
  obtain ⟨d, hd, hname⟩ := hnamed
  obtain ⟨before, first, hfirst⟩ := exists_firstNamed hd hname
  cases (deviceIp?_of_firstNamed hfirst).symm.trans h
  exact leadsTo_of_firstNamed hfirst

namespace Setting

variable {s : Setting} {group : String} {log : Host.Log}

/-- Whatever is posted is an operation on a membership, with the address that the name leads to in the
list that the dashboard answered. -/
def PostsNamed (s : Setting) (name : String) (op : Membership → Operation) (log : Host.Log) : Prop :=
  ∀ request told, ⟨.send request, told⟩ ∈ log → request.method = .post →
    ∃ m secret listing answer devices,
      forwarded s.access.base .post (op m).endpoint (op m).body? secret = .ok request ∧
      IsForwarded s.access.base .get "/web/devices" ⟨.send listing, .ok answer⟩ ∧
      ⟨.send listing, .ok answer⟩ ∈ log ∧
      outcome devices? [] "/web/devices" answer = .ok devices ∧ LeadsTo name devices m.deviceIp

/-- Nothing is posted while group and device are looked up. -/
theorem not_post_of_get {endpoint : String} (h : ∀ x ∈ log, Host.isSend x = true →
      IsForwarded s.access.base .get endpoint x) {request : Request}
    {told : Except Failure Answer} (hmem : ⟨.send request, told⟩ ∈ log) :
    request.method ≠ .post := by
  obtain ⟨secret, _, _, hforwarded, heq⟩ := h _ hmem rfl
  cases heq
  rw [method_of_forwarded hforwarded]
  exact Method.noConfusion

theorem not_post_of_resolveGroupId {result : Except Trace String}
    (h : (s.askDashboard (resolveGroupId s.access.base group)).run.Branch log result)
    {request : Request} {told : Except Failure Answer} (hmem : ⟨.send request, told⟩ ∈ log) :
    request.method ≠ .post := by
  obtain ⟨_, hlog, _⟩ := branch_attempt_iff.mp h
  rw [resolveGroupId_eq] at hlog
  exact not_post_of_get (forwarded_of_get hlog).2 hmem

theorem not_post_of_resolveDeviceIp (hname : Ip.ofText? name = none) {result : Except Trace String}
    (h : (s.askDashboard (resolveDeviceIp s.access.base name)).run.Branch log result)
    {request : Request} {told : Except Failure Answer} (hmem : ⟨.send request, told⟩ ∈ log) :
    request.method ≠ .post := by
  obtain ⟨_, hlog, _⟩ := branch_attempt_iff.mp h
  rw [resolveDeviceIp_eq _ hname] at hlog
  exact not_post_of_get (forwarded_of_get hlog).2 hmem

/-- A membership that was found has the address that the name leads to, and nothing was posted. -/
theorem membership_named (hname : Ip.ofText? name = none) {result : Except Trace Membership}
    (h : (s.membership group name).run.Branch log result) :
    (∀ request told, ⟨.send request, told⟩ ∈ log → request.method ≠ .post) ∧
      ∀ m, result = .ok m → ∃ listing answer devices,
        IsForwarded s.access.base .get "/web/devices" ⟨.send listing, .ok answer⟩ ∧
        ⟨.send listing, .ok answer⟩ ∈ log ∧
        outcome devices? [] "/web/devices" answer = .ok devices ∧
        LeadsTo name devices m.deviceIp := by
  obtain ⟨e, hgroup, rfl⟩ | ⟨first, groupId, rest, hgroup, hrest, rfl⟩ := branch_run_bind_iff.mp h
  · exact ⟨fun _ _ => not_post_of_resolveGroupId hgroup, nofun⟩
  obtain ⟨e, hdevice, rfl⟩ | ⟨second, ip, last, hdevice, hdone, rfl⟩ :=
    branch_run_bind_iff.mp hrest
  · refine ⟨fun request told hmem => ?_, nofun⟩
    exact (List.mem_append.mp hmem).elim (not_post_of_resolveGroupId hgroup)
      (not_post_of_resolveDeviceIp hname hdevice)
  · obtain ⟨rfl, rfl⟩ := branch_done_iff.mp hdone
    rw [List.append_nil]
    refine ⟨fun request told hmem => ?_, fun m hm => ?_⟩
    · exact (List.mem_append.mp hmem).elim (not_post_of_resolveGroupId hgroup)
        (not_post_of_resolveDeviceIp hname hdevice)
    · cases hm
      obtain ⟨outcome, hlog, houtcome⟩ := branch_attempt_iff.mp hdevice
      cases outcome with
      | error e => cases houtcome
      | ok found =>
        cases houtcome
        obtain ⟨outer, houter, hspelled⟩ := branch_answerWith_iff.mp hlog
        obtain ⟨secret, listing, answer, devices, hforwarded, hmem, hlist, hip⟩ :=
          exists_list_of_resolveDeviceIp hname houter
        exact ⟨listing, answer, devices, ⟨secret, listing, _, hforwarded, rfl⟩,
          List.mem_append_right first (mem_send_of_mem_link hspelled hmem), hlist,
          leadsTo_of_deviceIp? hip⟩

/-- What is posted behind a membership that was found is posted with it. -/
theorem postsNamed_of_branch (hname : Ip.ofText? name = none) {op : Membership → Operation}
    (hpost : ∀ m, (op m).method = .post) {result : Except Trace Unit}
    (h : (s.membership group name >>= fun m => s.perform (op m)).run.Branch log result) :
    s.PostsNamed name op log := by
  intro request told hmem hmethod
  obtain ⟨e, hfind, _⟩ | ⟨first, m, rest, hfind, hperform, rfl⟩ := branch_run_bind_iff.mp h
  · exact absurd hmethod ((membership_named hname hfind).1 _ _ hmem)
  obtain ⟨hquiet, hfound⟩ := membership_named hname hfind
  obtain ⟨listing, answer, devices, hforwarded, hlisted, hlist, hleads⟩ := hfound m rfl
  have hrest : ⟨.send request, told⟩ ∈ rest :=
    (List.mem_append.mp hmem).resolve_left fun hfirst => hquiet _ _ hfirst hmethod
  obtain ⟨inner, last, outcome, rfl, hlast, hop, _⟩ := exists_part hperform
  have hmem := (List.mem_append.mp hrest).resolve_right (hlast request told)
  obtain ⟨outer, houter, hspelled⟩ := branch_answerWith_iff.mp hop
  obtain ⟨secret, _, hrequest⟩ := forwarded_of_run houter (mem_link_of_mem_send hspelled hmem)
  rw [hpost] at hrequest
  exact ⟨m, secret, listing, answer, devices, hrequest, hforwarded,
    List.mem_append_left _ hlisted, hlist, hleads⟩

end Setting

/-- **A name that is no address leads to a device with the id of the first one that goes by it.**
Looking it up fails exactly if no device of the list goes by the name, and finds the address that the
name leads to otherwise; and a device is put into a group, or taken from it, by no other address.  The
address is that of the first device itself exactly if no device before it has its id and another
address. -/
theorem named_device_found (name : String) (hname : Ip.ofText? name = none) :
    (∀ (base : BaseUrl) (log : Dashboard.Log) (result : Except Dashboard.Error String)
      (asked : Request) (answer : Answer) (devices : List Device),
      (resolveDeviceIp base name).run.Branch log result →
      ⟨.link (.send asked), .ok answer⟩ ∈ log →
      outcome devices? [] "/web/devices" answer = .ok devices →
      (result = .error (noDevice name) ↔ ∀ d ∈ devices, ¬d.GoesBy name) ∧
        ((∃ d ∈ devices, d.GoesBy name) → ∃ ip, result = .ok ip ∧ LeadsTo name devices ip)) ∧
    ∀ (s : Setting) (group : String) (log : Host.Log) (result : Except Trace Unit),
      ((s.runDashboard (.attach group name)).run.Branch log result →
        s.PostsNamed name .attachDevice log) ∧
      ((s.runDashboard (.detach group name)).run.Branch log result →
        s.PostsNamed name .detachDevice log) := by
  refine ⟨?_, fun s group log result => ⟨?_, ?_⟩⟩
  · intro base log result asked answer devices h answered hlist
    have hresult := result_of_resolveDeviceIp hname h answered hlist
    constructor
    · rw [hresult, ← deviceIp?_eq_none_iff]
      cases deviceIp? name devices with
      | none => simp
      | some ip => simp
    · rintro ⟨d, hd, hgoes⟩
      obtain ⟨before, first, hfirst⟩ := exists_firstNamed hd hgoes
      rw [deviceIp?_of_firstNamed hfirst] at hresult
      exact ⟨_, hresult, leadsTo_of_firstNamed hfirst⟩
  · exact Setting.postsNamed_of_branch hname fun _ => rfl
  · exact Setting.postsNamed_of_branch hname fun _ => rfl

/-! ### Devices with and without ids -/

/-- The text of a list of two devices with ids. -/
def knownText : String :=
  "\x7b\"type\":\"success\",\"payload\":[\x7b\"id\":\"d1\",\"ip\":\"fc94::1\",\"hostname\":\"alpha\"\x7d,\x7b\"id\":\"d2\",\"ip\":\"fc94::2\",\"hostname\":\"beta\"\x7d]\x7d"

/-- The text of the same list without ids. -/
def anonymousText : String :=
  "\x7b\"type\":\"success\",\"payload\":[\x7b\"ip\":\"fc94::1\",\"hostname\":\"alpha\"\x7d,\x7b\"ip\":\"fc94::2\",\"hostname\":\"beta\"\x7d]\x7d"

/-- A device with an id that may be missing. -/
def alpha (id : String) : Device :=
  { id, ip := "fc94::1", hostname := "alpha" }

/-- Another device with an id that may be missing. -/
def beta (id : String) : Device :=
  { id, ip := "fc94::2", hostname := "beta" }

/-- Another device can be looked up in any list. -/
theorem exists_branch_beta {text : String} {devices : List Device} (ip : String)
    (hread : Dashboard.readAnswer devices? "/web/devices" ⟨200, Utf8.encode text⟩ =
      .ok ⟨"success", [], [], "", some devices⟩) (hip : deviceIp? "beta" devices = some ip) :
    ∃ asked log, ⟨.link (.send asked), .ok ⟨200, Utf8.encode text⟩⟩ ∈ log ∧
      (resolveDeviceIp Dashboard.loopback "beta").run.Branch log (.ok ip) := by
  obtain ⟨asked, h⟩ := Dashboard.exists_branch_get [] (by decide +kernel) hread
  rw [resolveDeviceIp_eq _ (by decide)]
  refine ⟨asked, _, ?_, branch_run_bind_iff.mpr (.inr ⟨_, _, [], h, ?_, rfl⟩)⟩
  · simp
  · exact branch_done_iff.mpr ⟨rfl, by rw [Option.getD_some, hip]; rfl⟩

/-- A machine whose dashboard lists a group and two devices. -/
def listingMachine : Host.Machine where
  network := {
    answers := [
      .ok ⟨200, Utf8.encode "\x7b\"type\":\"success\",\"payload\":[\x7b\"id\":\"g1\"\x7d]\x7d"⟩,
      .ok ⟨200, Utf8.encode knownText⟩,
      .ok ⟨200, Utf8.encode "\x7b\"type\":\"success\"\x7d"⟩] }

/-- The log of attaching a device on that machine. -/
def attachLog : Host.Log :=
  ((plainSetting.runDashboard (.attach "g1" "beta")).run.runLogged Host.Machine.answer
    listingMachine).2.2

/-- Where ids tell devices apart, a name leads to its own device. -/
theorem named_device_found_beta :
    (∃ log, (resolveDeviceIp Dashboard.loopback "beta").run.Branch log (.ok "fc94::2") ∧
      LeadsTo "beta" [alpha "d1", beta "d2"] "fc94::2") ∧
    attachLog.countP (Host.isUnrefused .post) = 1 ∧
      plainSetting.PostsNamed "beta" .attachDevice attachLog := by
  have hname : Ip.ofText? "beta" = none := by decide
  have hread : Dashboard.readAnswer devices? "/web/devices" ⟨200, Utf8.encode knownText⟩ =
      .ok ⟨"success", [], [], "", some [alpha "d1", beta "d2"]⟩ :=
    Dashboard.readAnswer_encode _ (by decide +kernel)
  have hlist : outcome devices? [] "/web/devices" ⟨200, Utf8.encode knownText⟩ =
      .ok [alpha "d1", beta "d2"] := by
    rw [outcome, hread]
    rfl
  obtain ⟨asked, log, answered, h⟩ := exists_branch_beta "fc94::2" hread (by decide)
  obtain ⟨hlookup, hposts⟩ := named_device_found "beta" hname
  obtain ⟨ip, hip, hleads⟩ := (hlookup _ log _ asked _ _ h answered hlist).2
    ⟨beta "d2", by simp, .inl rfl⟩
  cases hip
  exact ⟨⟨log, h, hleads⟩, by decide +kernel,
    (hposts plainSetting "g1" attachLog _).1 (branch_runLogged _ _ _)⟩

/-- Where no ids are given, a name leads to the address of the first device of the list. -/
theorem beta_found_as_alpha :
    ∃ asked log, ⟨.link (.send asked), .ok ⟨200, Utf8.encode anonymousText⟩⟩ ∈ log ∧
      outcome devices? [] "/web/devices" ⟨200, Utf8.encode anonymousText⟩ =
        .ok [alpha "", beta ""] ∧
      FirstNamed "beta" [alpha "", beta ""] [alpha ""] (beta "") ∧ (beta "").ip = "fc94::2" ∧
      (resolveDeviceIp Dashboard.loopback "beta").run.Branch log (.ok "fc94::1") := by
  have hread : Dashboard.readAnswer devices? "/web/devices" ⟨200, Utf8.encode anonymousText⟩ =
      .ok ⟨"success", [], [], "", some [alpha "", beta ""]⟩ :=
    Dashboard.readAnswer_encode _ (by decide +kernel)
  obtain ⟨asked, log, answered, h⟩ := exists_branch_beta "fc94::1" hread (by decide)
  refine ⟨asked, log, answered, ?_, ⟨⟨[], rfl⟩, .inl rfl, ?_⟩, rfl, h⟩
  · rw [outcome, hread]
    rfl
  · simp [alpha, Device.GoesBy]

end MeshControl.CommandLine
