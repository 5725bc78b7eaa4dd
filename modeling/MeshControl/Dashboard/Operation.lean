import MeshControl.Dashboard.Wire
import MeshControl.Http.Message
import MeshControl.Terminal.Style

/-!
# What can be done on the dashboard

Each operation is one request: a method, an endpoint and, if it carries an input, that input as a JSON
body with its members in order of name.  What comes back is shown as text.
-/

namespace MeshControl.Dashboard

open MeshControl.Http MeshControl.Json MeshControl.Terminal MeshControl.Text

/-- An operation on the dashboard. -/
inductive Operation where
  | claimToken
  | rotateClaimToken
  | listGroups
  | showGroup (id : String)
  | createGroup (input : GroupInput)
  | updateGroup (id : String) (input : GroupInput)
  | removeGroup (id : String)
  | attachDevice (input : Membership)
  | detachDevice (input : Membership)
  | listDevices
  | showDevice (id : String)
  | updateDevice (id : String) (input : DeviceInput)
  | unclaimDevice (id : String)
  | claim (params : ClaimParams)
  | unclaimSelf
  deriving DecidableEq, Repr

namespace Operation

/-- The method of the request. -/
def method : Operation → Method
  | claimToken | listGroups | showGroup _ | listDevices | showDevice _ => .get
  | updateGroup _ _ | updateDevice _ _ => .put
  | removeGroup _ => .delete
  | rotateClaimToken | createGroup _ | attachDevice _ | detachDevice _ | unclaimDevice _ | claim _
  | unclaimSelf => .post

/-- The endpoint of the request. -/
def endpoint : Operation → String
  | claimToken => "/web/user"
  | rotateClaimToken => "/web/settings/rotate-claim-token"
  | listGroups | createGroup _ => "/web/groups"
  | showGroup id | updateGroup id _ | removeGroup id => "/web/groups/" ++ id
  | attachDevice _ => "/web/groups/attach-device"
  | detachDevice _ => "/web/groups/detach-device"
  | listDevices => "/web/devices"
  | showDevice id | updateDevice id _ => "/web/devices/" ++ id
  | unclaimDevice id => "/web/devices/unclaim/" ++ id
  | claim _ => "/device/manage/claim"
  | unclaimSelf => "/device/manage/unclaim"

/-- The input that the request carries. -/
def body? : Operation → Option Value
  | createGroup input | updateGroup _ input => some input.toValue.sorted
  | attachDevice input | detachDevice input => some input.toValue.sorted
  | updateDevice _ input => some input.toValue.sorted
  | claim params => some params.toValue.sorted
  | claimToken | rotateClaimToken | listGroups | showGroup _ | removeGroup _ | listDevices
  | showDevice _ | unclaimDevice _ | unclaimSelf => none

/-- The beginning of join codes of a form that is no longer in use. -/
def oldCodeStart : String := "fc94:b01d:1803:8dd8:b293:5c7d:7639:932a/"

/-- Why an operation is not even tried. -/
def objection? : Operation → Option String
  | claim params =>
    if startsWith params.code oldCodeStart then
      some ("Provided token is old join code format, which is discontinued. "
        ++ "Go to the dashboard to obtain a new one.")
    else if (trimmed params.code).isEmpty then some "claim code must not be empty"
    else none
  | _ => none

end Operation

/-! ### Showing what comes back -/

/-- A table of groups. -/
def groupsText (groups : List Group) : String :=
  table ["ID", "Emoji", "Name", "Devices", "Comment"]
    (groups.map fun g => [g.id, g.emoji, g.name, toString g.devices.length, g.comment])

/-- A table of devices. -/
def devicesText (devices : List Device) : String :=
  table ["Address", "Emoji", "Hostname", "Aliases", "Status", "Version"]
    (devices.map fun d => [d.ip, d.emoji, d.hostname, joined ", " d.aliases, d.status, d.userAgent])

/-- The heading of a group or a device. -/
def heading (emoji name : String) : String :=
  trimmed (emoji ++ " " ++ bold name)

/-- A line, if there is something to say. -/
def lineIf (isGiven : Bool) (line : String) : List String :=
  if isGiven then [line] else []

/-- All about a device. -/
def deviceText (d : Device) : String :=
  joined "\n" (
    [heading d.emoji d.hostname,
      "ID:          " ++ d.id,
      "Address:     " ++ d.ip,
      "Status:      " ++ d.status,
      "Version:     " ++ d.userAgent]
    ++ lineIf (!d.aliases.isEmpty) ("Aliases:     " ++ joined ", " d.aliases)
    ++ (d.lastContact?.map fun last => "Last seen:   " ++ last).toList
    ++ lineIf (!d.comment.isEmpty) (dim d.comment))

/-- All about a group. -/
def groupText (details : GroupDetails) : String :=
  let g := details.group
  joined "\n" (
    [heading g.emoji g.name]
    ++ lineIf (!g.comment.isEmpty) (dim g.comment)
    ++ [devicesText g.devices]
    ++ lineIf (!details.joinCode.token.isEmpty) ("Join code: " ++ details.joinCode.token))

end MeshControl.Dashboard
