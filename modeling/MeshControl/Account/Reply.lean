import MeshControl.Json.Decoder

/-!
# The account server's answers

The account server answers a query document with data or with a list of errors.
-/

namespace MeshControl.Account

open MeshControl.Json

/-- An answer with data. -/
structure Reply (α : Type) where
  data? : Option α
  /-- The messages of the errors. -/
  errors : List String

namespace Reply

/-- The message of an error. -/
def messageOfNode? (node : Node) : Option String := do
  (← node.fields? ["message"]).require? "message" Node.text?

/-- The reply that a text writes, its data read by a decoder. -/
def ofNode? {α : Type} (decode? : Node → Option α) (node : Node) : Option (Reply α) := do
  let fields ← node.fields? ["data", "errors"]
  return {
    data? := ← fields.get? "data" (Node.nullable? decode?) none
    errors := ← fields.get? "errors" (Node.list? messageOfNode?) [] }

/-- All error messages on one line, if there is an error. -/
def errorText? {α : Type} (r : Reply α) : Option String :=
  if r.errors.isEmpty then none else some ("; ".intercalate r.errors)

end Reply

/-- A token in a record with one field. -/
def tokenOfNode? (node : Node) : Option String := do
  (← node.fields? ["token"]).require? "token" Node.text?

/-- The token in the answer to a login. -/
def obtainedTokenOfNode? (node : Node) : Option String := do
  (← node.fields? ["tokenAuth"]).require? "tokenAuth" tokenOfNode?

/-- The token in the answer to a renewal. -/
def refreshedTokenOfNode? (node : Node) : Option String := do
  (← node.fields? ["refreshToken"]).require? "refreshToken" tokenOfNode?

end MeshControl.Account
