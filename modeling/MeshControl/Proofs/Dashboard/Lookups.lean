import MeshControl.Proofs.Dashboard.Naming
import MeshControl.Proofs.Dashboard.Wire

/-!
# What a group or a device is called

A name may denote several items of a list, and each of them in a stronger or in a weaker way: a group
by its id or by its name; a device by its id, by its address in any spelling, or by a name that it goes
by.  Found is the first item that is denoted in the strongest way in which any item is (`Picked`).

* `picked_groups`, `picked_devices`: this is what the lookups in a list find.
* `LooksUp`: what it means for the id that comes back.  It is the id of an item that is denoted, and
  where all such items have one id, their order does not matter.
* `names_resolved`: both lookups are of this kind, and two spellings of one address lead to one device
  unless one of them is an id.
-/

namespace MeshControl.Dashboard

open Daemon Dialogue MeshControl.Address MeshControl.Http MeshControl.Json

variable {α : Type} {items : List α} {way : α → Prop} {ways : List (α → Prop)} {found? : Option α}
  {a : α} {name other : String}

/-! ### Stronger and weaker ways -/

/-- What is found in a list by some ways, the stronger before the weaker: the first item of the
strongest way in which there is any. -/
inductive Picked (items : List α) : List (α → Prop) → Option α → Prop
  | nothing : Picked items [] none
  | here {way : α → Prop} {weaker : List (α → Prop)} {a : α} (first : IsFirst way items a) :
      Picked items (way :: weaker) (some a)
  | later {way : α → Prop} {weaker : List (α → Prop)} {found? : Option α}
      (free : ∀ a ∈ items, ¬way a) (rest : Picked items weaker found?) :
      Picked items (way :: weaker) found?

/-- An item is denoted in one of some ways. -/
def Denotes (ways : List (α → Prop)) (a : α) : Prop :=
  ∃ way ∈ ways, way a

namespace Picked

/-- A search for the strongest way, and otherwise for the weaker ones. -/
theorem or_find? {test : α → Bool} (htest : ∀ a, test a = true ↔ way a)
    (h : Picked items ways found?) :
    Picked items (way :: ways) ((items.find? test).or found?) := by
  cases hfind : items.find? test with
  | none =>
    refine .later (fun a ha hway => ?_) h
    exact List.find?_eq_none.mp hfind a ha ((htest a).mpr hway)
  | some a => exact .here (isFirst_of_find? htest hfind)

/-- What is found is in the list, and denoted. -/
theorem mem (h : Picked items ways (some a)) : a ∈ items ∧ Denotes ways a := by
  generalize hfound : some a = found? at h
  induction h with
  | nothing => cases hfound
  | here first =>
    cases hfound
    exact ⟨first.mem, _, List.mem_cons_self, first.holds⟩
  | later _ _ ih =>
    obtain ⟨hmem, way, hway, hholds⟩ := ih hfound
    exact ⟨hmem, way, List.mem_cons_of_mem _ hway, hholds⟩

/-- Something is found if anything is denoted. -/
theorem isSome (h : Picked items ways found?) (ha : a ∈ items) (hdenotes : Denotes ways a) :
    ∃ b, found? = some b := by
  obtain ⟨way, hway, hholds⟩ := hdenotes
  induction h with
  | nothing => cases hway
  | here first => exact ⟨_, rfl⟩
  | later free _ ih =>
    rcases List.mem_cons.mp hway with rfl | hway
    · exact absurd hholds (free a ha)
    · exact ih hway

/-- Where all that is denoted agrees on a value, what is found has it. -/
theorem map_eq_of_agreed {β : Type} {f : α → β} {b : β} (h : Picked items ways found?)
    (hany : ∃ a ∈ items, Denotes ways a) (hagreed : ∀ a ∈ items, Denotes ways a → f a = b) :
    found?.map f = some b := by
  obtain ⟨a, ha, hdenotes⟩ := hany
  obtain ⟨c, rfl⟩ := h.isSome ha hdenotes
  obtain ⟨hc, hdenotes⟩ := h.mem
  rw [Option.map_some, hagreed c hc hdenotes]

/-- Where something is denoted in the strongest way, something like it is found. -/
theorem exists_strongest (h : Picked items (way :: ways) found?) (hany : ∃ a ∈ items, way a) :
    ∃ b, found? = some b ∧ way b := by
  obtain ⟨a, ha, hway⟩ := hany
  cases h with
  | here first => exact ⟨_, rfl, first.holds⟩
  | later free _ => exact absurd hway (free a ha)

end Picked

/-! ### Groups and devices -/

/-- The ways in which a name denotes a group. -/
def groupWays (name : String) : List (Group → Prop) :=
  [fun g => g.id = name, fun g => g.name = name]

/-- A text writes the address of a device, in this spelling or in another. -/
def Device.HasAddress (d : Device) (text : String) : Prop :=
  ∃ ip, Ip.ofText? text = some ip ∧ Ip.ofText? d.ip = some ip

/-- The ways in which a name denotes a device. -/
def deviceWays (name : String) : List (Device → Prop) :=
  [fun d => d.id = name, fun d => d.HasAddress name, fun d => d.GoesBy name]

/-- The group that is looked up. -/
theorem picked_groups (name : String) (groups : List Group) :
    ∃ found?, Picked groups (groupWays name) found? ∧
      groupId? name groups = found?.map Group.id := by
  refine ⟨_, .or_find? (fun g => beq_iff_eq) (.or_find? (fun g => beq_iff_eq) .nothing), ?_⟩
  rw [groupId?, groupIdByName?, Option.or_none]
  cases hfind : groups.find? (·.id == name) with
  | none =>
    -- the list is searched once for whether there is such an id, and here for the group that has it
    have hfree : ¬groups.any (·.id == name) = true := by
      rw [List.any_eq_true]
      rintro ⟨g, hg, hid⟩
      exact List.find?_eq_none.mp hfind g hg hid
    rw [if_neg hfree, Option.none_or]
  | some g =>
    have hid := List.find?_some hfind
    rw [if_pos (List.any_eq_true.mpr ⟨g, List.mem_of_find?_eq_some hfind, hid⟩), Option.some_or,
      Option.map_some, beq_iff_eq.mp hid]

/-- Whether a device has the address that a text writes. -/
def Device.isAt (d : Device) (text : String) : Bool :=
  (Ip.ofText? text).any fun ip => Ip.ofText? d.ip == some ip

theorem Device.isAt_iff {d : Device} : d.isAt name = true ↔ d.HasAddress name := by
  rw [isAt, Option.any_eq_true]
  exact exists_congr fun ip => and_congr_right fun _ => beq_iff_eq

theorem deviceAt?_eq (text : String) (devices : List Device) :
    deviceAt? text devices = devices.find? fun d => d.isAt text := by
  unfold deviceAt? Device.isAt
  cases Ip.ofText? text with
  | none => exact (List.find?_eq_none.mpr fun d _ => Bool.false_ne_true).symm
  | some ip => rfl

instance (d : Device) (text : String) : Decidable (d.HasAddress text) :=
  decidable_of_iff _ Device.isAt_iff

instance (d : Device) (name : String) : Decidable (d.GoesBy name) :=
  decidable_of_iff _ Device.isNamed_iff

theorem denotes_deviceWays_iff {d : Device} :
    Denotes (deviceWays name) d ↔ d.id = name ∨ d.HasAddress name ∨ d.GoesBy name := by
  simp [Denotes, deviceWays]

instance (name : String) (d : Device) : Decidable (Denotes (deviceWays name) d) :=
  decidable_of_iff' _ denotes_deviceWays_iff

/-- The device that is looked up. -/
theorem picked_devices (name : String) (devices : List Device) :
    ∃ found?, Picked devices (deviceWays name) found? ∧
      deviceId? name devices = found?.map Device.id := by
  refine ⟨_, .or_find? (fun d => beq_iff_eq) (.or_find? (fun d => Device.isAt_iff)
    (.or_find? (fun d => Device.isNamed_iff) .nothing)), ?_⟩
  rw [deviceId?, deviceAt?_eq, deviceIdByName?, Option.or_none]
  -- each search is made where the ones before it find nothing
  cases devices.find? (·.id == name) with
  | some d => rfl
  | none =>
    cases devices.find? fun d => d.isAt name with
    | some d => rfl
    | none => rfl

/-- The device at an address is looked up by any spelling of it that is no id. -/
theorem exists_deviceId?_eq {devices : List Device} {ip : Ip} (hname : Ip.ofText? name = some ip)
    (hother : Ip.ofText? other = some ip) (hany : ∃ d ∈ devices, Ip.ofText? d.ip = some ip)
    (hids : ∀ d ∈ devices, d.id ≠ name ∧ d.id ≠ other) :
    ∃ id, deviceId? name devices = some id ∧ deviceId? other devices = some id := by
  have hnone : ∀ {text : String}, (∀ d ∈ devices, d.id ≠ text) →
      devices.find? (·.id == text) = none :=
    fun hfree => List.find?_eq_none.mpr fun d hd => mt beq_iff_eq.mp (hfree d hd)
  -- the search by address sees nothing of a text but the address that it writes
  have hsame : deviceAt? other devices = deviceAt? name devices := by
    rw [deviceAt?, deviceAt?, hother, hname]
  obtain ⟨d, hd⟩ : ∃ d, deviceAt? name devices = some d := by
    obtain ⟨d, hd, hip⟩ := hany
    rw [deviceAt?_eq]
    exact Option.isSome_iff_exists.mp
      (List.find?_isSome.mpr ⟨d, hd, Device.isAt_iff.mpr ⟨ip, hname, hip⟩⟩)
  refine ⟨d.id, ?_, ?_⟩
  · rw [deviceId?, hnone fun d hd => (hids d hd).1, hd]
  · rw [deviceId?, hnone fun d hd => (hids d hd).2, hsame, hd]

/-! ### Lookups in the lists of the dashboard -/

/-- A list of the dashboard, and how its items are looked up by name. -/
structure Listing (α : Type) where
  endpoint : String
  decode? : Node → Option (List α)
  id : α → String
  /-- The ways in which a name denotes an item, the stronger before the weaker. -/
  ways : String → List (α → Prop)
  /-- The error that a name denotes nothing. -/
  unknown : String → Error
  lookup : BaseUrl → String → Asking String

/-- The list of the groups. -/
def groupListing : Listing Group where
  endpoint := "/web/groups"
  decode? := groups?
  id := Group.id
  ways := groupWays
  unknown name := .invalid ("no group named " ++ name)
  lookup := resolveGroupId

/-- The list of the devices. -/
def deviceListing : Listing Device where
  endpoint := "/web/devices"
  decode? := devices?
  id := Device.id
  ways := deviceWays
  unknown := noDevice
  lookup := resolveDeviceId

variable {l : Listing α} {base : BaseUrl} {log : Log} {result : Except Error String}

namespace Listing

/-- The dashboard has answered with these items. -/
def Answered (l : Listing α) (log : Log) (items : List α) : Prop :=
  ∃ asked answer, ⟨.link (.send asked), .ok answer⟩ ∈ log ∧
    outcome l.decode? [] l.endpoint answer = .ok items

/-- Looking a name up comes to a result, when the dashboard answers with these items. -/
def LookedUp (l : Listing α) (base : BaseUrl) (name : String) (items : List α)
    (result : Except Error String) : Prop :=
  ∃ log, (l.lookup base name).run.Branch log result ∧ l.Answered log items

/-- The result for a name: the id of the item that it denotes in the strongest way. -/
def Resolves (l : Listing α) (name : String) (items : List α) (result : Except Error String) :
    Prop :=
  ∃ found?, Picked items (l.ways name) found? ∧
    result = found?.elim (.error (l.unknown name)) fun a => .ok (l.id a)

/-- What looking a name up comes to. -/
structure LooksUp (l : Listing α) (name : String) : Prop where
  /-- The dashboard can answer with any items, and then there is a result. -/
  answerable : ∀ base secret items, (forwarded base .get l.endpoint none secret).isOk = true →
    ∃ result, l.LookedUp base name items result
  /-- The result is the id of the item that the name denotes in the strongest way. -/
  resolves : ∀ base items result, l.LookedUp base name items result → l.Resolves name items result
  /-- A name that is an id is the result. -/
  own_id : ∀ base items result, l.LookedUp base name items result →
    (∃ a ∈ items, l.id a = name) → result = .ok name
  /-- An id comes from a list that was answered, in which an item that has it is denoted. -/
  denoted : ∀ base log id, (l.lookup base name).run.Branch log (.ok id) →
    ∃ items, l.Answered log items ∧ ∃ a ∈ items, Denotes (l.ways name) a ∧ l.id a = id
  /-- Where all items that are denoted have one id, it is the result in any order. -/
  order_free : ∀ base items id, (∃ a ∈ items, Denotes (l.ways name) a) →
    (∀ a ∈ items, Denotes (l.ways name) a → l.id a = id) →
    ∀ shuffled result, shuffled.Perm items → l.LookedUp base name shuffled result →
      result = .ok id

/-! ### What follows for the result -/

theorem Resolves.own_id {weaker : List (α → Prop)}
    (hways : l.ways name = (fun a => l.id a = name) :: weaker) (h : l.Resolves name items result)
    (hany : ∃ a ∈ items, l.id a = name) : result = .ok name := by
  obtain ⟨found?, hpicked, rfl⟩ := h
  rw [hways] at hpicked
  obtain ⟨a, rfl, hid⟩ := hpicked.exists_strongest hany
  rw [Option.elim_some, hid]

theorem Resolves.denoted {id : String} (h : l.Resolves name items (.ok id)) :
    ∃ a ∈ items, Denotes (l.ways name) a ∧ l.id a = id := by
  obtain ⟨found?, hpicked, hresult⟩ := h
  cases found? with
  | none => cases hresult
  | some a =>
    obtain ⟨ha, hdenotes⟩ := hpicked.mem
    exact ⟨a, ha, hdenotes, (Except.ok.inj hresult).symm⟩

theorem Resolves.agreed {id : String} (h : l.Resolves name items result)
    (hany : ∃ a ∈ items, Denotes (l.ways name) a)
    (hagreed : ∀ a ∈ items, Denotes (l.ways name) a → l.id a = id) : result = .ok id := by
  obtain ⟨found?, hpicked, rfl⟩ := h
  obtain ⟨a, rfl, hid⟩ := Option.map_eq_some_iff.mp (hpicked.map_eq_of_agreed hany hagreed)
  rw [Option.elim_some, hid]

/-! ### Lookups -/

/-- What is found for a name is what it denotes, and a lookup reads a list and returns it. -/
structure Finds (l : Listing α) (name : String) (find : List α → Option String) : Prop where
  lookup_eq : ∀ base, l.lookup base name = get base l.endpoint l.decode? [] >>= fun items =>
    ExceptT.mk (done ((find items).elim (.error (l.unknown name)) .ok))
  picked : ∀ items, ∃ found?, Picked items (l.ways name) found? ∧ find items = found?.map l.id

variable {find : List α → Option String}

theorem LookedUp.result_eq (hfind : l.Finds name find) (h : l.LookedUp base name items result) :
    result = (find items).elim (.error (l.unknown name)) .ok := by
  obtain ⟨log, hlog, asked, answer, answered, hlist⟩ := h
  rw [hfind.lookup_eq] at hlog
  exact result_of_lookup hlog answered hlist

theorem LookedUp.resolves (hfind : l.Finds name find) (h : l.LookedUp base name items result) :
    l.Resolves name items result := by
  obtain ⟨found?, hpicked, heq⟩ := hfind.picked items
  refine ⟨found?, hpicked, ?_⟩
  rw [h.result_eq hfind, heq, Option.elim_map]
  rfl

/-- A list that an answer can carry can be looked up in. -/
theorem exists_lookedUp (hfind : l.Finds name find) {answer : Answer}
    (hanswer : readAnswer l.decode? l.endpoint answer = .ok ⟨"success", [], [], "", some items⟩)
    {secret : Secret} (hok : (forwarded base .get l.endpoint none secret).isOk = true) :
    ∃ result, l.LookedUp base name items result := by
  obtain ⟨asked, built⟩ := exists_eq_ok_of_isOk hok
  have hget := branch_get [] built hanswer
  have hlist : outcome l.decode? [] l.endpoint answer = .ok items := by
    rw [outcome, hanswer]
    rfl
  have hlookup : (get base l.endpoint l.decode? [] >>= fun items =>
      ExceptT.mk (done ((find items).elim (.error (l.unknown name)) .ok))).run.Branch _ _ :=
    branch_run_bind_iff.mpr (.inr ⟨_, _, [], hget, .done _, rfl⟩)
  rw [← hfind.lookup_eq] at hlookup
  exact ⟨_, _, hlookup, asked, answer, by simp, hlist⟩

/-- What finds what a name denotes looks it up, if ids are the strongest way and all lists survive as
JSON. -/
theorem Finds.looksUp (hfind : l.Finds name find)
    (hways : ∃ weaker, l.ways name = (fun a => l.id a = name) :: weaker)
    (hanswer : ∀ items, ∃ answer,
      readAnswer l.decode? l.endpoint answer = .ok ⟨"success", [], [], "", some items⟩) :
    l.LooksUp name where
  answerable base secret items hok := by
    obtain ⟨answer, hanswer⟩ := hanswer items
    exact exists_lookedUp hfind hanswer hok
  resolves _ _ _ h := h.resolves hfind
  own_id _ _ _ h := by
    obtain ⟨weaker, hways⟩ := hways
    exact (h.resolves hfind).own_id hways
  denoted base log id h := by
    have hlog := h
    rw [hfind.lookup_eq] at hlog
    obtain ⟨_, asked, answer, items, _, answered, hlist, _⟩ := exists_list_of_lookup hlog
    have hanswered : l.Answered log items := ⟨asked, answer, answered, hlist⟩
    -- the list that was answered is one that the name is looked up in
    have hlooked : l.LookedUp base name items (.ok id) := ⟨log, h, hanswered⟩
    exact ⟨items, hanswered, (hlooked.resolves hfind).denoted⟩
  order_free base items id hany hagreed shuffled result hperm h := by
    obtain ⟨a, ha, hdenotes⟩ := hany
    exact (h.resolves hfind).agreed ⟨a, hperm.mem_iff.mpr ha, hdenotes⟩
      fun b hb => hagreed b (hperm.mem_iff.mp hb)

end Listing

theorem finds_groupId? (name : String) : groupListing.Finds name (groupId? name) where
  lookup_eq base := resolveGroupId_eq base name
  picked := picked_groups name

theorem finds_deviceId? (name : String) : deviceListing.Finds name (deviceId? name) where
  lookup_eq base := resolveDeviceId_eq base name
  picked := picked_devices name

/-- An answer can carry any list that survives as JSON. -/
theorem exists_readAnswer {decode? : Node → Option α} {toValue : α → Value} {rules : List Rule}
    (h : Faithful (fun a => (toValue a).node) (RecordOf rules) decode?) (endpoint : String)
    (items : List α) :
    ∃ answer, readAnswer (Node.list? decode?) endpoint answer =
      .ok ⟨"success", [], [], "", some items⟩ := by
  have hread : ∀ items : List α,
      Node.list? decode? (Value.array (items.map toValue)).node = some items := by
    intro items
    rw [Value.node, Value.nodes_eq_map, List.map_map]
    exact h.list.read_written items
  have hnull : ∀ items : List α, (Value.array (items.map toValue)).node ≠ .null := by
    intro items
    rw [Value.node]
    exact Node.noConfusion
  let envelope : Envelope (List α) := ⟨"success", [], [], "", some items⟩
  let body : Value := envelope.toValue fun items => .array (items.map toValue)
  refine ⟨⟨200, Text.Utf8.encode (body.write .tight)⟩, readAnswer_encode endpoint ?_⟩
  rw [Node.ofText?_write, Option.bind_some]
  exact (Envelope.faithful hread hnull).read_written envelope

/-- **A name leads to an item that it denotes.**  A group is looked up by its id and otherwise by its
name; a device by its id, otherwise by its address, and otherwise by a name that it goes by.  The id
that is found does not depend on the order of the list where all that are denoted have one, and neither
on the spelling of an address that is no id. -/
theorem names_resolved (name : String) :
    groupListing.LooksUp name ∧ deviceListing.LooksUp name ∧
      ∀ other ip base base' devices result result', Ip.ofText? name = some ip →
        Ip.ofText? other = some ip → (∃ d ∈ devices, Ip.ofText? d.ip = some ip) →
        (∀ d ∈ devices, d.id ≠ name ∧ d.id ≠ other) →
        deviceListing.LookedUp base name devices result →
        deviceListing.LookedUp base' other devices result' →
        ∃ id, result = .ok id ∧ result' = .ok id := by
  refine ⟨(finds_groupId? name).looksUp ⟨_, rfl⟩ (exists_readAnswer Group.faithful _),
    (finds_deviceId? name).looksUp ⟨_, rfl⟩ (exists_readAnswer Device.faithful _), ?_⟩
  intro other ip base base' devices result result' hname hother hany hids h h'
  obtain ⟨id, hid, hid'⟩ := exists_deviceId?_eq hname hother hany hids
  refine ⟨id, ?_, ?_⟩
  · rw [h.result_eq (finds_deviceId? name), hid, Option.elim_some]
  · rw [h'.result_eq (finds_deviceId? other), hid', Option.elim_some]

/-! ### A device whose address is the name of another -/

/-- A device that goes by a spelling of the address of another one. -/
def twins : List Device :=
  [{ id := "d1", ip := "fc94::1", hostname := "fc94:0::2" }, { id := "d2", ip := "fc94::2" }]

/-- A group that has the name of another one for its id. -/
def labs : List Group :=
  [{ id := "g1", name := "lab" }, { id := "lab", name := "home" }]

/-- The address wins over the name in each spelling and order, and so does the id. -/
theorem names_resolved_twins :
    deviceListing.LookedUp loopback "fc94:0::2" twins (.ok "d2") ∧
      deviceListing.LookedUp loopback "FC94::2" twins.reverse (.ok "d2") ∧
      groupListing.LookedUp loopback "lab" labs (.ok "lab") := by
  obtain ⟨_, hdevices, hspelled⟩ := names_resolved "FC94::2"
  have hok : (forwarded loopback .get "/web/devices" none sampleSecret).isOk = true := by
    decide +kernel
  -- in this spelling only the second device is denoted
  have hany : ∃ d ∈ twins, Denotes (deviceWays "FC94::2") d := by decide +kernel
  have honly : ∀ d ∈ twins, Denotes (deviceWays "FC94::2") d → d.id = "d2" := by decide +kernel
  have hfree : ∀ shuffled result, shuffled.Perm twins →
      deviceListing.LookedUp loopback "FC94::2" shuffled result → result = .ok "d2" :=
    hdevices.order_free loopback twins "d2" hany honly
  refine ⟨?_, ?_, ?_⟩
  · obtain ⟨result, h⟩ := hdevices.answerable loopback sampleSecret twins hok
    obtain ⟨result', h'⟩ :=
      (names_resolved "fc94:0::2").2.1.answerable loopback sampleSecret twins hok
    obtain ⟨id, hid, hid'⟩ := hspelled "fc94:0::2" (.v6 ⟨0xfc94, 0, 0, 0, 0, 0, 0, 2⟩) loopback
      loopback twins result result' (by decide +kernel) (by decide +kernel) (by decide +kernel)
      (by decide) h h'
    cases hid.symm.trans (hfree twins result (.refl twins) h)
    exact hid' ▸ h'
  · obtain ⟨result, h⟩ := hdevices.answerable loopback sampleSecret twins.reverse hok
    exact hfree _ result (List.reverse_perm twins) h ▸ h
  · obtain ⟨hgroups, _⟩ := names_resolved "lab"
    obtain ⟨result, h⟩ := hgroups.answerable loopback sampleSecret labs (by decide +kernel)
    exact hgroups.own_id loopback labs result h ⟨_, .tail _ (.head _), rfl⟩ ▸ h

end MeshControl.Dashboard
