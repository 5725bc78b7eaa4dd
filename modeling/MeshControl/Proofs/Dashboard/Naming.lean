import MeshControl.Dashboard.Naming
import MeshControl.Proofs.Dashboard.Rejection

/-!
# The device that goes by a name

A name is looked up twice: it leads to the id of the first device that goes by it, and that id to the
address of the first device that has it.  Both are the same device unless another one stands before it
with the same id (`Unshadowed`), and then the address is that of the other one.

* `FirstNamed`: the first device of a list that goes by a name.
* `deviceIp?_of_firstNamed`: the address that a name leads to.
* `result_of_lookup`, `result_of_resolveDeviceIp`: what looking up comes to, once the dashboard has
  answered.
-/

namespace MeshControl.Dashboard

open Daemon Dialogue MeshControl.Address MeshControl.Http MeshControl.Json

variable {name : String} {devices before : List Device} {d : Device}

/-! ### The first item of a list -/

section First

variable {α : Type} {way : α → Prop} {items : List α} {a : α}

/-- The first item of a list with a property. -/
def IsFirst (way : α → Prop) (items : List α) (a : α) : Prop :=
  ∃ before after, items = before ++ a :: after ∧ way a ∧ ∀ b ∈ before, ¬way b

theorem IsFirst.mem (h : IsFirst way items a) : a ∈ items := by
  obtain ⟨before, after, rfl, _⟩ := h
  exact List.mem_append_right before List.mem_cons_self

theorem IsFirst.holds (h : IsFirst way items a) : way a := by
  obtain ⟨_, _, _, hway, _⟩ := h
  exact hway

/-- What is searched for by a test is the first item with the property that is tested. -/
theorem isFirst_of_find? {test : α → Bool} (htest : ∀ a, test a = true ↔ way a)
    (h : items.find? test = some a) : IsFirst way items a := by
  obtain ⟨hhere, before, after, rfl, hbefore⟩ := List.find?_eq_some_iff_append.mp h
  refine ⟨before, after, rfl, (htest a).mp hhere, fun b hb hway => ?_⟩
  exact absurd ((htest b).mpr hway) (by simpa using hbefore b hb)

end First

/-! ### Lists of devices -/

/-- A device goes by a name: it is its hostname or one of its aliases. -/
def Device.GoesBy (d : Device) (name : String) : Prop :=
  d.hostname = name ∨ name ∈ d.aliases

theorem Device.isNamed_iff : d.isNamed name = true ↔ d.GoesBy name := by
  rw [isNamed, GoesBy, Bool.or_eq_true, beq_iff_eq, List.contains_iff_mem]

/-- The first device of a list that goes by a name, with those before it. -/
structure FirstNamed (name : String) (devices before : List Device) (d : Device) : Prop where
  split : ∃ after, devices = before ++ d :: after
  goesBy : d.GoesBy name
  first : ∀ e ∈ before, ¬e.GoesBy name

/-- If a device before this one has its id, the first that has it also has its address. -/
def Unshadowed (before : List Device) (d : Device) : Prop :=
  ∀ e, before.find? (·.id == d.id) = some e → e.ip = d.ip

theorem FirstNamed.mem (h : FirstNamed name devices before d) : d ∈ devices := by
  obtain ⟨after, rfl⟩ := h.split
  exact List.mem_append_right before List.mem_cons_self

/-- A device that goes by a name is the first one, or behind the first one. -/
theorem exists_firstNamed (hd : d ∈ devices) (hname : d.GoesBy name) :
    ∃ before first, FirstNamed name devices before first := by
  have hsome : (devices.find? fun d => d.isNamed name).isSome = true :=
    List.find?_isSome.mpr ⟨d, hd, Device.isNamed_iff.mpr hname⟩
  obtain ⟨first, hfirst⟩ := Option.isSome_iff_exists.mp hsome
  obtain ⟨before, after, hsplit, hgoes, hbefore⟩ :=
    isFirst_of_find? (fun _ => Device.isNamed_iff) hfirst
  exact ⟨before, first, ⟨after, hsplit⟩, hgoes, hbefore⟩

theorem deviceIdByName?_of_firstNamed (h : FirstNamed name devices before d) :
    deviceIdByName? name devices = some d.id := by
  obtain ⟨after, rfl⟩ := h.split
  have hfirst : ∀ e ∈ before, ¬e.isNamed name = true :=
    fun e he => mt Device.isNamed_iff.mp (h.first e he)
  have hhere : (d :: after).find? (fun d => d.isNamed name) = some d :=
    List.find?_cons_of_pos (Device.isNamed_iff.mpr h.goesBy)
  rw [deviceIdByName?, List.find?_append, List.find?_eq_none.mpr hfirst, Option.none_or, hhere,
    Option.map_some]

/-- The device that a name leads to: the first one with the id of the first one of this name. -/
def namesake (before : List Device) (d : Device) : Device :=
  (before.find? (·.id == d.id)).getD d

/-- **The address that a name leads to.** -/
theorem deviceIp?_of_firstNamed (h : FirstNamed name devices before d) :
    deviceIp? name devices = some (namesake before d).ip := by
  rw [deviceIp?, deviceIdByName?_of_firstNamed h, Option.bind_some]
  obtain ⟨after, rfl⟩ := h.split
  have hself : (d :: after).find? (·.id == d.id) = some d :=
    List.find?_cons_of_pos (beq_self_eq_true d.id)
  rw [List.find?_append, hself, namesake]
  cases before.find? (·.id == d.id) with
  | none => rfl
  | some e => rfl

theorem namesake_mem (h : FirstNamed name devices before d) :
    namesake before d ∈ devices ∧ (namesake before d).id = d.id := by
  rw [namesake]
  cases hfind : before.find? (·.id == d.id) with
  | none => exact ⟨h.mem, rfl⟩
  | some e =>
    obtain ⟨after, rfl⟩ := h.split
    have hid := List.find?_some hfind
    exact ⟨List.mem_append_left _ (List.mem_of_find?_eq_some hfind), beq_iff_eq.mp hid⟩

theorem namesake_ip_iff : (namesake before d).ip = d.ip ↔ Unshadowed before d := by
  rw [namesake, Unshadowed]
  cases before.find? (·.id == d.id) with
  | none => simp
  | some e => simp

theorem deviceIp?_eq_none_iff : deviceIp? name devices = none ↔ ∀ d ∈ devices, ¬d.GoesBy name := by
  constructor
  · intro hnone d hd hname
    obtain ⟨before, first, h⟩ := exists_firstNamed hd hname
    cases hnone.symm.trans (deviceIp?_of_firstNamed h)
  · intro hnot
    have hnone : deviceIdByName? name devices = none := by
      rw [deviceIdByName?, List.find?_eq_none.mpr fun d hd => mt Device.isNamed_iff.mp (hnot d hd),
        Option.map_none]
    rw [deviceIp?, hnone, Option.bind_none]

/-! ### Looking up -/

/-- What a name that is no address is looked up as. -/
theorem resolveDeviceIp_eq (base : BaseUrl) (hname : Ip.ofText? name = none) :
    resolveDeviceIp base name = get base "/web/devices" devices? [] >>= fun devices =>
      ExceptT.mk (done ((deviceIp? name devices).elim (.error (noDevice name)) .ok)) := by
  unfold resolveDeviceIp
  rw [hname, if_neg (by simp)]
  congr 1
  funext devices
  cases deviceIp? name devices with
  | some ip => rfl
  | none => rfl

theorem resolveDeviceId_eq (base : BaseUrl) (name : String) :
    resolveDeviceId base name = get base "/web/devices" devices? [] >>= fun devices =>
      ExceptT.mk (done ((deviceId? name devices).elim (.error (noDevice name)) .ok)) := by
  unfold resolveDeviceId
  congr 1
  funext devices
  cases deviceId? name devices with
  | some id => rfl
  | none => rfl

theorem resolveGroupId_eq (base : BaseUrl) (name : String) :
    resolveGroupId base name = get base "/web/groups" groups? [] >>= fun groups =>
      ExceptT.mk (done ((groupId? name groups).elim
        (.error (.invalid ("no group named " ++ name))) .ok)) := by
  unfold resolveGroupId
  congr 1
  funext groups
  cases groupId? name groups with
  | some id => rfl
  | none => rfl

variable {base : BaseUrl} {log : Log} {result : Except Error String}

section Lists

variable {α : Type} {decode? : Node → Option (List α)} {endpoint : String} {items : List α}
  {find : List α → Except Error String}

/-- What looking up in a list comes to, once the dashboard has answered with it. -/
theorem result_of_lookup
    (h : (get base endpoint decode? [] >>= fun items =>
      ExceptT.mk (done (find items))).run.Branch log result)
    {asked : Request} {answer : Answer} (answered : ⟨.link (.send asked), .ok answer⟩ ∈ log)
    (hlist : outcome decode? [] endpoint answer = .ok items) : result = find items := by
  obtain ⟨e, hget, _⟩ | ⟨first, listed, rest, hget, hdone, rfl⟩ := branch_run_bind_iff.mp h
  · cases (result_eq_outcome hget answered).trans hlist
  · obtain ⟨rfl, rfl⟩ := branch_done_iff.mp hdone
    rw [List.append_nil] at answered
    cases (result_eq_outcome hget answered).trans hlist
    rfl

/-- What was looked up comes from a list that was answered. -/
theorem exists_list_of_lookup {value : String}
    (h : (get base endpoint decode? [] >>= fun items =>
      ExceptT.mk (done (find items))).run.Branch log (.ok value)) :
    ∃ secret asked answer items, forwarded base .get endpoint none secret = .ok asked ∧
      ⟨.link (.send asked), .ok answer⟩ ∈ log ∧
      outcome decode? [] endpoint answer = .ok items ∧ find items = .ok value := by
  obtain ⟨_, _, hok⟩ | ⟨first, items, rest, hget, hdone, rfl⟩ := branch_run_bind_iff.mp h
  · cases hok
  obtain ⟨rfl, hfound⟩ := branch_done_iff.mp hdone
  obtain ⟨secret, asked, answer, _, hforwarded, hlast, _⟩ := lastAnswered_of_call hget
  rw [List.append_nil]
  exact ⟨secret, asked, answer, items, hforwarded, hlast.mem,
    (result_eq_outcome hget hlast.mem).symm, hfound.symm⟩

end Lists

/-- What looking up comes to is what the name leads to in the list that was answered. -/
theorem result_of_resolveDeviceIp (hname : Ip.ofText? name = none)
    (h : (resolveDeviceIp base name).run.Branch log result) {asked : Request} {answer : Answer}
    (answered : ⟨.link (.send asked), .ok answer⟩ ∈ log)
    (hlist : outcome devices? [] "/web/devices" answer = .ok devices) :
    result = (deviceIp? name devices).elim (.error (noDevice name)) .ok := by
  rw [resolveDeviceIp_eq base hname] at h
  exact result_of_lookup h answered hlist

/-- An address that was looked up comes from a list that was answered. -/
theorem exists_list_of_resolveDeviceIp (hname : Ip.ofText? name = none) {ip : String}
    (h : (resolveDeviceIp base name).run.Branch log (.ok ip)) :
    ∃ secret asked answer devices, forwarded base .get "/web/devices" none secret = .ok asked ∧
      ⟨.link (.send asked), .ok answer⟩ ∈ log ∧
      outcome devices? [] "/web/devices" answer = .ok devices ∧ deviceIp? name devices = some ip := by
  rw [resolveDeviceIp_eq base hname] at h
  obtain ⟨secret, asked, answer, devices, hforwarded, hmem, hlist, hip⟩ := exists_list_of_lookup h
  refine ⟨secret, asked, answer, devices, hforwarded, hmem, hlist, ?_⟩
  cases hfound : deviceIp? name devices with
  | none => rw [hfound] at hip; cases hip
  | some found => rw [hfound] at hip; cases hip; rfl

end MeshControl.Dashboard
