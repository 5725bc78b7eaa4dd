import MeshControl.Json.Decoder

/-!
# The daemon's answers

Every answer of the daemon is an envelope with a status, an error text and a result.
-/

namespace MeshControl.Daemon

open MeshControl.Json

/-- An answer with a result. -/
structure Reply (α : Type) where
  status : String
  error : String
  result? : Option α

namespace Reply

/-- The reply that a text writes, its result read by a decoder. -/
def ofNode? {α : Type} (decode? : Node → Option α) (node : Node) : Option (Reply α) := do
  let fields ← node.fields? ["status", "error", "result"]
  return {
    status := ← fields.text? "status"
    error := ← fields.text? "error"
    result? := ← fields.get? "result" (Node.nullable? decode?) none }

/-- Whether the daemon did what it was asked. -/
def isOk {α : Type} (r : Reply α) : Bool :=
  r.status == "success" || r.status == "ok"

end Reply

/-- The decoder of results that nobody looks at: anything will do. -/
def ignored? (_ : Node) : Option Unit :=
  some ()

end MeshControl.Daemon
