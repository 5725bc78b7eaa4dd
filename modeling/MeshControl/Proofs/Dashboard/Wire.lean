import MeshControl.Dashboard.Envelope
import MeshControl.Dashboard.Operation
import MeshControl.Proofs.Json.Faithful
import MeshControl.Proofs.Json.Sorted

/-!
# The dashboard's records survive as JSON

For each record, how its fields may be written anew (`rules`), and that its reader is faithful to its
writer.  A claim is written without its empty fields, and the body of an operation with its members in
the order of their names; neither changes what is read (`ClaimParams.faithful`, `Operation.body_faithful`).
-/

namespace MeshControl.Dashboard

open MeshControl.Json

namespace Device

/-- How the fields may be written anew. -/
def rules : List Rule :=
  [.text "id", .text "ip", .text "emoji", .text "hostname", .text "userAgent", .text "comment",
    .texts "aliases", .text "status", .plain "lastContact" .null]

theorem faithful_lastContact :
    Faithful (fun s? : Option String => ((s?.map Value.string).getD .null).node) Eq
      (Node.nullable? Node.text?) := by
  refine .of_eq fun s? => ?_
  cases s? with
  | none => rfl
  | some s => rfl

theorem faithful : Faithful (fun d : Device => d.toValue.node) (RecordOf rules) ofNode? := by
  refine .record (fun d => ?_) fun d fields h => ?_
  · simp only [rules, List.forall_mem_cons]
    exact ⟨.keep rfl, .keep rfl, .keep rfl, .keep rfl, .keep rfl, .keep rfl, .keep rfl, .keep rfl,
      .keep rfl, nofun⟩
  · simp only [rules, List.forall_mem_cons] at h
    obtain ⟨hid, hip, hemoji, hhostname, hagent, hcomment, haliases, hstatus, hlast, -⟩ := h
    have hlast : fields.get? "lastContact" (Node.nullable? Node.text?) none = some d.lastContact? :=
      faithful_lastContact.get?_eq (.plain "lastContact" .null) rfl hlast
    rw [hid.text, hip.text, hemoji.text, hhostname.text, hagent.text, hcomment.text, haliases.texts,
      hstatus.text, hlast]
    rfl

end Device

namespace JoinCode

/-- How the fields may be written anew. -/
def rules : List Rule :=
  [.text "token"]

theorem faithful : Faithful (fun c : JoinCode => c.toValue.node) (RecordOf rules) ofNode? := by
  refine .record (fun c => ?_) fun c fields h => ?_
  · simp only [rules, List.forall_mem_cons]
    exact ⟨.keep rfl, nofun⟩
  · simp only [rules, List.forall_mem_cons] at h
    rw [h.1.text]
    rfl

end JoinCode

namespace Group

/-- How the fields may be written anew. -/
def rules : List Rule :=
  [.text "id", .text "emoji", .text "name", .text "comment",
    ⟨"devices", ListOf (RecordOf Device.rules), some (.array [])⟩,
    ⟨"joinCodes", ListOf (RecordOf JoinCode.rules), some (.array [])⟩]

theorem faithful_devices :
    Faithful (fun devices : List Device => (Value.array (devices.map Device.toValue)).node)
      (ListOf (RecordOf Device.rules)) (Node.list? Device.ofNode?) := by
  simpa only [Value.node, Value.nodes_eq_map, List.map_map, Function.comp_def]
    using Device.faithful.list

theorem faithful_joinCodes :
    Faithful (fun codes : List JoinCode => (Value.array (codes.map JoinCode.toValue)).node)
      (ListOf (RecordOf JoinCode.rules)) (Node.list? JoinCode.ofNode?) := by
  simpa only [Value.node, Value.nodes_eq_map, List.map_map, Function.comp_def]
    using JoinCode.faithful.list

theorem faithful : Faithful (fun g : Group => g.toValue.node) (RecordOf rules) ofNode? := by
  refine .record (fun g => ?_) fun g fields h => ?_
  · simp only [rules, List.forall_mem_cons]
    exact ⟨.keep rfl, .keep rfl, .keep rfl, .keep rfl, .keep (faithful_devices.refl g.devices),
      .keep (faithful_joinCodes.refl g.joinCodes), nofun⟩
  · simp only [rules, List.forall_mem_cons] at h
    obtain ⟨hid, hemoji, hname, hcomment, hdevices, hcodes, -⟩ := h
    have hdevices : fields.get? "devices" (Node.list? Device.ofNode?) [] = some g.devices :=
      faithful_devices.get?_eq ⟨"devices", _, _⟩ rfl hdevices
    have hcodes : fields.get? "joinCodes" (Node.list? JoinCode.ofNode?) [] = some g.joinCodes :=
      faithful_joinCodes.get?_eq ⟨"joinCodes", _, _⟩ rfl hcodes
    rw [hid.text, hemoji.text, hname.text, hcomment.text, hdevices, hcodes]
    rfl

end Group

namespace Fault

/-- How the fields may be written anew. -/
def rules : List Rule :=
  [.text "error"]

theorem faithful : Faithful (fun f : Fault => f.toValue.node) (RecordOf rules) ofNode? := by
  refine .record (fun f => ?_) fun f fields h => ?_
  · simp only [rules, List.forall_mem_cons]
    exact ⟨.keep rfl, nofun⟩
  · simp only [rules, List.forall_mem_cons] at h
    rw [h.1.text]
    rfl

end Fault

namespace Envelope

variable {α : Type} {encode : α → Value} {decode? : Node → Option α}

/-- How the fields may be written anew. -/
def rules : List Rule :=
  [.text "type", .texts "errors", .texts "warnings", .text "message", .plain "payload" .null]

theorem faithful_payload (hread : ∀ x, decode? (encode x).node = some x)
    (hnull : ∀ x, (encode x).node ≠ .null) :
    Faithful (fun payload? : Option α => ((payload?.map encode).getD .null).node) Eq
      (Node.nullable? decode?) := by
  refine .of_eq fun payload? => ?_
  cases payload? with
  | none => rfl
  | some x =>
    show Node.nullable? decode? (encode x).node = some (some x)
    rw [Node.nullable?, hread x, Option.map_some]
    exact hnull x

/-- An envelope survives if its payload does, and is never written as null. -/
theorem faithful (hread : ∀ x, decode? (encode x).node = some x)
    (hnull : ∀ x, (encode x).node ≠ .null) :
    Faithful (fun e : Envelope α => (e.toValue encode).node) (RecordOf rules) (ofNode? decode?) := by
  refine .record (fun e => ?_) fun e fields h => ?_
  · simp only [rules, List.forall_mem_cons]
    exact ⟨.keep rfl, .keep rfl, .keep rfl, .keep rfl, .keep rfl, nofun⟩
  · simp only [rules, List.forall_mem_cons] at h
    obtain ⟨hkind, herrors, hwarnings, hmessage, hpayload, -⟩ := h
    have hpayload : fields.get? "payload" (Node.nullable? decode?) none = some e.payload? :=
      (faithful_payload hread hnull).get?_eq (.plain "payload" .null) rfl hpayload
    rw [hkind.text, herrors.texts, hwarnings.texts, hmessage.text, hpayload]
    rfl

end Envelope

/-! ### Inputs -/

namespace GroupInput

/-- How the fields may be written anew. -/
def rules : List Rule :=
  [.required "name", .required "emoji", .required "comment"]

theorem faithful : Faithful (fun i : GroupInput => i.toValue.node) (RecordOf rules) ofNode? := by
  refine .record (fun i => ?_) fun i fields h => ?_
  · simp only [rules, List.forall_mem_cons]
    exact ⟨.keep rfl, .keep rfl, .keep rfl, nofun⟩
  · simp only [rules, List.forall_mem_cons] at h
    obtain ⟨hname, hemoji, hcomment, -⟩ := h
    rw [hname.requiredText, hemoji.requiredText, hcomment.requiredText]
    rfl

theorem faithful_sorted :
    Faithful (fun i : GroupInput => i.toValue.sorted.node) (RecordOf rules) ofNode? :=
  faithful.sorted (fun _ => by simp) fun _ => by simp [Value.sorted]

end GroupInput

namespace DeviceInput

/-- How the fields may be written anew. -/
def rules : List Rule :=
  [.required "emoji", .required "hostname", .required "comment", .required "aliases"]

theorem faithful : Faithful (fun i : DeviceInput => i.toValue.node) (RecordOf rules) ofNode? := by
  refine .record (fun i => ?_) fun i fields h => ?_
  · simp only [rules, List.forall_mem_cons]
    exact ⟨.keep rfl, .keep rfl, .keep rfl, .keep rfl, nofun⟩
  · simp only [rules, List.forall_mem_cons] at h
    obtain ⟨hemoji, hhostname, hcomment, haliases, -⟩ := h
    have haliases : fields.require? "aliases" Node.texts? = some i.aliases :=
      Faithful.texts.require?_eq (.required "aliases") rfl haliases
    rw [hemoji.requiredText, hhostname.requiredText, hcomment.requiredText, haliases]
    rfl

theorem faithful_sorted :
    Faithful (fun i : DeviceInput => i.toValue.sorted.node) (RecordOf rules) ofNode? :=
  faithful.sorted (fun _ => by simp) fun _ => by simp [Value.sorted, Value.sorted_strings]

end DeviceInput

namespace Membership

/-- How the fields may be written anew. -/
def rules : List Rule :=
  [.required "groupId", .required "deviceIp"]

theorem faithful : Faithful (fun m : Membership => m.toValue.node) (RecordOf rules) ofNode? := by
  refine .record (fun m => ?_) fun m fields h => ?_
  · simp only [rules, List.forall_mem_cons]
    exact ⟨.keep rfl, .keep rfl, nofun⟩
  · simp only [rules, List.forall_mem_cons] at h
    obtain ⟨hgroup, hdevice, -⟩ := h
    rw [hgroup.requiredText, hdevice.requiredText]
    rfl

theorem faithful_sorted :
    Faithful (fun i : Membership => i.toValue.sorted.node) (RecordOf rules) ofNode? :=
  faithful.sorted (fun _ => by simp) fun _ => by simp [Value.sorted]

end Membership

namespace ClaimParams

/-- How the fields may be written anew. -/
def rules : List Rule :=
  [.required "code", .text "hostname", .texts "aliases", .text "comment", .text "emoji"]

/-- What stands under a name in a member that may be left out. -/
theorem under_memberUnless (name other : String) (isOmitted : Bool) (v : Value) :
    under name (Value.memberNodes (memberUnless isOmitted other v)) =
      if isOmitted then [] else if other = name then [v.node] else [] := by
  rw [memberUnless]
  split_ifs with hempty hname
  · rfl
  · rw [hname]
    exact under_cons_self _
  · exact under_cons_of_ne hname _

/-- What stands under the names of a claim as it is written. -/
structure Written (c : ClaimParams) (members : List (Option String × Node)) : Prop where
  code : under "code" members = [.string (some c.code)]
  hostname : under "hostname" members =
    if c.hostname.isEmpty = true then [] else [.string (some c.hostname)]
  aliases : under "aliases" members =
    if c.aliases.isEmpty = true then [] else [(Value.strings c.aliases).node]
  comment : under "comment" members = if c.comment.isEmpty = true then [] else [.string (some c.comment)]
  emoji : under "emoji" members = if c.emoji.isEmpty = true then [] else [.string (some c.emoji)]

theorem written_members (c : ClaimParams) : Written c (Value.memberNodes c.members) := by
  have hcode : ∀ name, under name (Value.memberNodes [("code", .string c.code)]) =
      if "code" = name then [.string (some c.code)] else [] :=
    fun name => under_memberUnless name "code" false (.string c.code)
  constructor <;>
    simp only [members, Value.memberNodes_append, under_append, under_memberUnless, hcode] <;>
    simp [Value.node]

theorem faithful : Faithful (fun c : ClaimParams => c.toValue.node) (RecordOf rules) ofNode? := by
  refine .record (fun c => ?_) fun c fields h => ?_
  · have hwritten := written_members c
    have hself : ∀ {rule : Rule} {isOmitted : Prop} [Decidable isOmitted] {node : Node},
        rule.respelled node node → rule.Admits (if isOmitted then [] else [node])
          (if isOmitted then [] else [node]) := by
      intro rule isOmitted _ node hnode
      split_ifs
      · exact .absent
      · exact .keep hnode
    simp only [rules, List.forall_mem_cons, Rule.text, Rule.texts, Rule.plain, Rule.required,
      hwritten.code, hwritten.hostname, hwritten.aliases, hwritten.comment, hwritten.emoji]
    exact ⟨.keep rfl, hself rfl, hself rfl, hself rfl, hself rfl, nofun⟩
  · have hwritten := written_members c
    simp only [rules, List.forall_mem_cons] at h
    obtain ⟨hcode, hhostname, haliases, hcomment, hemoji, -⟩ := h
    have hcode : fields.require? "code" Node.text? = some c.code :=
      Rule.Admits.requiredText (hwritten.code ▸ hcode)
    have hhostname : fields.text? "hostname" = some c.hostname :=
      Faithful.text.get?_eq_of_omitted (.text "hostname") rfl
        (fun h => (String.isEmpty_iff.mp h).symm) (hwritten.hostname ▸ hhostname)
    have haliases : fields.texts? "aliases" = some c.aliases :=
      Faithful.texts.get?_eq_of_omitted (.texts "aliases") rfl
        (fun h => (List.isEmpty_iff.mp h).symm) (hwritten.aliases ▸ haliases)
    have hcomment : fields.text? "comment" = some c.comment :=
      Faithful.text.get?_eq_of_omitted (.text "comment") rfl
        (fun h => (String.isEmpty_iff.mp h).symm) (hwritten.comment ▸ hcomment)
    have hemoji : fields.text? "emoji" = some c.emoji :=
      Faithful.text.get?_eq_of_omitted (.text "emoji") rfl
        (fun h => (String.isEmpty_iff.mp h).symm) (hwritten.emoji ▸ hemoji)
    rw [hcode, hhostname, haliases, hcomment, hemoji]
    rfl

theorem nodup_members (c : ClaimParams) : (c.members.map Prod.fst).Nodup := by
  have hsub : ∀ {isOmitted : Bool} {name : String} {v : Value},
      ((memberUnless isOmitted name v).map Prod.fst).Sublist [name] := by
    intro isOmitted name v
    cases isOmitted with
    | false => exact .refl _
    | true => exact List.nil_sublist _
  have hnames : (c.members.map Prod.fst).Sublist fieldNames := by
    simp only [members, List.map_append]
    exact (((List.Sublist.refl ["code"]).append hsub).append hsub |>.append hsub).append hsub
  exact hnames.nodup (by decide)

theorem sorted_of_mem (c : ClaimParams) : ∀ m ∈ c.members, m.2.sorted = m.2 := by
  have hmember : ∀ {isOmitted : Bool} {name : String} {v : Value}, v.sorted = v →
      ∀ m ∈ memberUnless isOmitted name v, m.2.sorted = m.2 := by
    intro isOmitted name v hv m hm
    cases isOmitted with
    | false =>
      rw [List.mem_singleton.mp hm]
      exact hv
    | true => cases hm
  simp only [members, List.forall_mem_append]
  exact ⟨⟨⟨⟨by simp [Value.sorted], hmember rfl⟩, hmember (Value.sorted_strings c.aliases)⟩,
    hmember rfl⟩, hmember rfl⟩

theorem faithful_sorted :
    Faithful (fun c : ClaimParams => c.toValue.sorted.node) (RecordOf rules) ofNode? :=
  faithful.sorted nodup_members sorted_of_mem

end ClaimParams

/-! ### Operations -/

namespace Operation

/-- How the input of an operation may be written anew. -/
def rules : Operation → List Rule
  | createGroup _ | updateGroup _ _ => GroupInput.rules
  | attachDevice _ | detachDevice _ => Membership.rules
  | updateDevice _ _ => DeviceInput.rules
  | claim _ => ClaimParams.rules
  | claimToken | rotateClaimToken | listGroups | showGroup _ | removeGroup _ | listDevices
  | showDevice _ | unclaimDevice _ | unclaimSelf => []

/-- A node is read as the input of an operation. -/
def IsInput : Operation → Node → Prop
  | createGroup input, node | updateGroup _ input, node => GroupInput.ofNode? node = some input
  | attachDevice input, node | detachDevice input, node => Membership.ofNode? node = some input
  | updateDevice _ input, node => DeviceInput.ofNode? node = some input
  | claim params, node => ClaimParams.ofNode? node = some params
  | claimToken, _ | rotateClaimToken, _ | listGroups, _ | showGroup _, _ | removeGroup _, _
  | listDevices, _ | showDevice _, _ | unclaimDevice _, _ | unclaimSelf, _ => False

variable {op : Operation} {body : Value} {node : Node}

/-- The body of an operation is one way of writing its input, and each way of writing the body is read
as the input. -/
theorem body_faithful (h : op.body? = some body) :
    RecordOf op.rules body.node body.node ∧
      ∀ node, RecordOf op.rules body.node node → op.IsInput node := by
  cases op with
  | createGroup input | updateGroup _ input =>
    cases h
    exact ⟨GroupInput.faithful_sorted.refl input, GroupInput.faithful_sorted.reads input⟩
  | attachDevice input | detachDevice input =>
    cases h
    exact ⟨Membership.faithful_sorted.refl input, Membership.faithful_sorted.reads input⟩
  | updateDevice _ input =>
    cases h
    exact ⟨DeviceInput.faithful_sorted.refl input, DeviceInput.faithful_sorted.reads input⟩
  | claim params =>
    cases h
    exact ⟨ClaimParams.faithful_sorted.refl params, ClaimParams.faithful_sorted.reads params⟩
  | claimToken | rotateClaimToken | listGroups | showGroup _ | removeGroup _ | listDevices
  | showDevice _ | unclaimDevice _ | unclaimSelf => cases h

end Operation

end MeshControl.Dashboard
