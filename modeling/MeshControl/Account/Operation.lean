import MeshControl.Json.Printer
import MeshControl.Terminal.Style

/-!
# What can be done with an account

Each operation is a query document with variables; what comes back is shown as a table or as a
sentence.  A table shows whatever there is: a value that is missing or null leaves its cell empty.
-/

namespace MeshControl.Account

open MeshControl.Json MeshControl.Terminal

/-- An operation on an account. -/
inductive Operation where
  | listGroups
  | showGroup (id : String)
  | removeGroup (id : String)
  | kickDevice (groupId deviceId : String)
  deriving DecidableEq, Repr

/-- The query document of an operation in braces, behind its heading. -/
def document (heading selection : String) : String :=
  heading ++ " \x7b " ++ selection ++ " \x7d"

/-- The text of a cell. -/
def cellText : Value → String
  | .null => ""
  | .string s => s
  | v => v.compact

/-- The rows of a list of objects, one cell for each name. -/
def rows (list : Value) (names : List String) : List (List String) :=
  (list.items?.getD []).map fun item => names.map fun name => cellText (item.member name)

namespace Operation

/-- The query document. -/
def query : Operation → String
  | listGroups => document "query ListGroups" (document "groups" "id name deviceCount")
  | showGroup _ =>
    document "query ShowGroup($id: ID!)"
      (document "groupMembersById(id: $id)" "deviceId name version userAgent")
  | removeGroup _ =>
    document "mutation RemoveGroup($id: ID!)" (document "removeGroup(id: $id)" "success")
  | kickDevice _ _ =>
    document "mutation KickDevice($groupId: ID!, $deviceId: ID!)"
      (document "kickDevice(groupId: $groupId, deviceId: $deviceId)" "success")

/-- The values of the variables of the query document. -/
def arguments : Operation → Value
  | listGroups => .object []
  | showGroup id | removeGroup id => .object [("id", .string id)]
  | kickDevice groupId deviceId =>
    .object [("deviceId", .string deviceId), ("groupId", .string groupId)]

/-- The data that comes back as text. -/
def render (op : Operation) (data : Value) : String :=
  match op with
  | listGroups =>
    table ["ID", "Name", "Devices"] (rows (data.member "groups") ["id", "name", "deviceCount"])
  | showGroup _ =>
    table ["ID(ipv6)", "Name", "Version", "UserAgent"]
      (rows (data.member "groupMembersById") ["deviceId", "name", "version", "userAgent"])
  | removeGroup _ => "Group removed successfully."
  | kickDevice _ _ => "Device was successfully removed from the group."

end Operation

end MeshControl.Account
