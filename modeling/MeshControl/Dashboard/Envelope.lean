import MeshControl.Json.Decoder

/-!
# The dashboard's answers

Every answer of the dashboard's interface is an envelope around a payload.  It is a success only if it
says so; otherwise its first error tells why.  Faults of the machinery in between are answered by a
record with nothing but an error text (`Fault`).
-/

namespace MeshControl.Dashboard

open MeshControl.Json

/-- An answer with a payload. -/
structure Envelope (α : Type) where
  kind : String
  errors : List String
  warnings : List String
  message : String
  payload? : Option α
  deriving DecidableEq, Repr

namespace Envelope

/-- The names of the fields. -/
def fieldNames : List String :=
  ["type", "errors", "warnings", "message", "payload"]

/-- The envelope that a text writes, its payload read by a decoder. -/
def ofNode? {α : Type} (decode? : Node → Option α) (node : Node) : Option (Envelope α) := do
  let fields ← node.fields? fieldNames
  return {
    kind := ← fields.text? "type"
    errors := ← fields.texts? "errors"
    warnings := ← fields.texts? "warnings"
    message := ← fields.text? "message"
    payload? := ← fields.get? "payload" (Node.nullable? decode?) none }

/-- The envelope as a value, its payload written by an encoder. -/
def toValue {α : Type} (encode : α → Value) (e : Envelope α) : Value :=
  .object [
    ("type", .string e.kind),
    ("errors", .strings e.errors),
    ("warnings", .strings e.warnings),
    ("message", .string e.message),
    ("payload", (e.payload?.map encode).getD .null)]

/-- Whether the answer is a success. -/
def isSuccess {α : Type} (e : Envelope α) : Bool :=
  e.kind == "success"

/-- Why the answer is not a success. -/
def failureMessage {α : Type} (e : Envelope α) : String :=
  match e.errors.head? with
  | some first => "API request failed. Message: " ++ first
  | none => "API request failed."

end Envelope

/-- The answer of the machinery between the daemon and the dashboard. -/
structure Fault where
  error : String := ""
  deriving DecidableEq, Repr, Inhabited

namespace Fault

/-- The record that a text writes. -/
def ofNode? (node : Node) : Option Fault := do
  let fields ← node.fields? ["error"]
  return { error := ← fields.text? "error" }

/-- The record as a value. -/
def toValue (f : Fault) : Value :=
  .object [("error", .string f.error)]

end Fault

end MeshControl.Dashboard
