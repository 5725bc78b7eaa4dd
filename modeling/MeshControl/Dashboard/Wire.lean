import MeshControl.Dashboard.Entities
import MeshControl.Json.Decoder

/-!
# The dashboard's records as JSON

Fields in the order of their declaration.  What the dashboard reports may leave out any field; what is
sent to it carries all fields, except that a claim leaves out the empty ones.
-/

namespace MeshControl.Dashboard

open MeshControl.Json

namespace Device

/-- The names of the fields. -/
def fieldNames : List String :=
  ["id", "ip", "emoji", "hostname", "userAgent", "comment", "aliases", "status", "lastContact"]

/-- The record that a text writes. -/
def ofNode? (node : Node) : Option Device := do
  let fields ← node.fields? fieldNames
  return {
    id := ← fields.text? "id"
    ip := ← fields.text? "ip"
    emoji := ← fields.text? "emoji"
    hostname := ← fields.text? "hostname"
    userAgent := ← fields.text? "userAgent"
    comment := ← fields.text? "comment"
    aliases := ← fields.texts? "aliases"
    status := ← fields.text? "status"
    lastContact? := ← fields.get? "lastContact" (Node.nullable? Node.text?) none }

/-- The record as a value. -/
def toValue (d : Device) : Value :=
  .object [
    ("id", .string d.id),
    ("ip", .string d.ip),
    ("emoji", .string d.emoji),
    ("hostname", .string d.hostname),
    ("userAgent", .string d.userAgent),
    ("comment", .string d.comment),
    ("aliases", .strings d.aliases),
    ("status", .string d.status),
    ("lastContact", (d.lastContact?.map .string).getD .null)]

end Device

namespace JoinCode

/-- The record that a text writes. -/
def ofNode? (node : Node) : Option JoinCode := do
  let fields ← node.fields? ["token"]
  return { token := ← fields.text? "token" }

/-- The record as a value. -/
def toValue (c : JoinCode) : Value :=
  .object [("token", .string c.token)]

end JoinCode

namespace Group

/-- The names of the fields. -/
def fieldNames : List String :=
  ["id", "emoji", "name", "comment", "devices", "joinCodes"]

/-- The record that a text writes. -/
def ofNode? (node : Node) : Option Group := do
  let fields ← node.fields? fieldNames
  return {
    id := ← fields.text? "id"
    emoji := ← fields.text? "emoji"
    name := ← fields.text? "name"
    comment := ← fields.text? "comment"
    devices := ← fields.get? "devices" (Node.list? Device.ofNode?) []
    joinCodes := ← fields.get? "joinCodes" (Node.list? JoinCode.ofNode?) [] }

/-- The record as a value. -/
def toValue (g : Group) : Value :=
  .object [
    ("id", .string g.id),
    ("emoji", .string g.emoji),
    ("name", .string g.name),
    ("comment", .string g.comment),
    ("devices", .array (g.devices.map Device.toValue)),
    ("joinCodes", .array (g.joinCodes.map JoinCode.toValue))]

end Group

namespace GroupDetails

/-- The record that a text writes. -/
def ofNode? (node : Node) : Option GroupDetails := do
  let fields ← node.fields? ["group", "attachableDevices", "joinCode"]
  return {
    group := ← fields.get? "group" Group.ofNode? {}
    attachableDevices := ← fields.get? "attachableDevices" (Node.list? Device.ofNode?) []
    joinCode := ← fields.get? "joinCode" JoinCode.ofNode? {} }

/-- The record as a value. -/
def toValue (d : GroupDetails) : Value :=
  .object [
    ("group", d.group.toValue),
    ("attachableDevices", .array (d.attachableDevices.map Device.toValue)),
    ("joinCode", d.joinCode.toValue)]

end GroupDetails

namespace AccountSettings

/-- The record that a text writes. -/
def ofNode? (node : Node) : Option AccountSettings := do
  let fields ← node.fields? ["claimToken"]
  return { claimToken := ← fields.text? "claimToken" }

/-- The record as a value. -/
def toValue (s : AccountSettings) : Value :=
  .object [("claimToken", .string s.claimToken)]

end AccountSettings

namespace User

/-- The record that a text writes. -/
def ofNode? (node : Node) : Option User := do
  let fields ← node.fields? ["settings"]
  return { settings := ← fields.get? "settings" AccountSettings.ofNode? {} }

/-- The record as a value. -/
def toValue (u : User) : Value :=
  .object [("settings", u.settings.toValue)]

end User

namespace ClaimParams

/-- The names of the fields. -/
def fieldNames : List String :=
  ["code", "hostname", "aliases", "comment", "emoji"]

/-- The record that a text writes. -/
def ofNode? (node : Node) : Option ClaimParams := do
  let fields ← node.fields? fieldNames
  return {
    code := ← fields.require? "code" Node.text?
    hostname := ← fields.text? "hostname"
    aliases := ← fields.texts? "aliases"
    comment := ← fields.text? "comment"
    emoji := ← fields.text? "emoji" }

/-- A member that may be left out. -/
def memberUnless (isOmitted : Bool) (name : String) (v : Value) : List (String × Value) :=
  if isOmitted then [] else [(name, v)]

/-- The members that are written: those of empty fields are left out. -/
def members (c : ClaimParams) : List (String × Value) :=
  [("code", .string c.code)]
  ++ memberUnless c.hostname.isEmpty "hostname" (.string c.hostname)
  ++ memberUnless c.aliases.isEmpty "aliases" (.strings c.aliases)
  ++ memberUnless c.comment.isEmpty "comment" (.string c.comment)
  ++ memberUnless c.emoji.isEmpty "emoji" (.string c.emoji)

/-- The record as a value. -/
def toValue (c : ClaimParams) : Value :=
  .object c.members

end ClaimParams

namespace GroupInput

/-- The record that a text writes. -/
def ofNode? (node : Node) : Option GroupInput := do
  let fields ← node.fields? ["name", "emoji", "comment"]
  return {
    name := ← fields.require? "name" Node.text?
    emoji := ← fields.require? "emoji" Node.text?
    comment := ← fields.require? "comment" Node.text? }

/-- The record as a value. -/
def toValue (i : GroupInput) : Value :=
  .object [("name", .string i.name), ("emoji", .string i.emoji), ("comment", .string i.comment)]

end GroupInput

namespace DeviceInput

/-- The record that a text writes. -/
def ofNode? (node : Node) : Option DeviceInput := do
  let fields ← node.fields? ["emoji", "hostname", "comment", "aliases"]
  return {
    emoji := ← fields.require? "emoji" Node.text?
    hostname := ← fields.require? "hostname" Node.text?
    comment := ← fields.require? "comment" Node.text?
    aliases := ← fields.require? "aliases" Node.texts? }

/-- The record as a value. -/
def toValue (i : DeviceInput) : Value :=
  .object [("emoji", .string i.emoji), ("hostname", .string i.hostname),
    ("comment", .string i.comment), ("aliases", .strings i.aliases)]

end DeviceInput

namespace Membership

/-- The record that a text writes. -/
def ofNode? (node : Node) : Option Membership := do
  let fields ← node.fields? ["groupId", "deviceIp"]
  return {
    groupId := ← fields.require? "groupId" Node.text?
    deviceIp := ← fields.require? "deviceIp" Node.text? }

/-- The record as a value. -/
def toValue (m : Membership) : Value :=
  .object [("groupId", .string m.groupId), ("deviceIp", .string m.deviceIp)]

end Membership

end MeshControl.Dashboard
