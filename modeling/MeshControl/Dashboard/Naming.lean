import MeshControl.Address.Reader
import MeshControl.Dashboard.Client

/-!
# What a name stands for

The user names groups and devices as is convenient: by id, by name, by address.  The lists of the
dashboard tell which one is meant, the id winning over the address and the address over the name.
Changes are applied to the state that the dashboard reports, so that what is not to change is sent
back as it was.
-/

namespace MeshControl.Dashboard

open MeshControl.Address MeshControl.Daemon

/-- The id of the group that a name stands for. -/
def groupId? (name : String) (groups : List Group) : Option String :=
  if groups.any (·.id == name) then some name else groupIdByName? name groups

/-- The first device with the address that a text writes, compared by value. -/
def deviceAt? (text : String) (devices : List Device) : Option Device :=
  (Ip.ofText? text).bind fun ip => devices.find? fun d => Ip.ofText? d.ip == some ip

/-- The id of the device that a name stands for. -/
def deviceId? (name : String) (devices : List Device) : Option String :=
  match devices.find? (·.id == name) with
  | some d => some d.id
  | none =>
    match deviceAt? name devices with
    | some d => some d.id
    | none => deviceIdByName? name devices

/-- The address of the first device with the id of the device that goes by a name. -/
def deviceIp? (name : String) (devices : List Device) : Option String :=
  (deviceIdByName? name devices).bind fun id =>
    (devices.find? (·.id == id)).map Device.ip

/-- Reads the groups and finds the one that a name stands for. -/
def resolveGroupId (base : BaseUrl) (name : String) : Asking String := do
  let groups ← get base "/web/groups" groups? []
  match groupId? name groups with
  | some id => return id
  | none => throw (.invalid ("no group named " ++ name))

/-- The error that no device goes by a name. -/
def noDevice (name : String) : Error :=
  .invalid ("no device named " ++ name)

/-- Reads the devices and finds the one that a name stands for. -/
def resolveDeviceId (base : BaseUrl) (name : String) : Asking String := do
  let devices ← get base "/web/devices" devices? []
  match deviceId? name devices with
  | some id => return id
  | none => throw (noDevice name)

/-- The address that a text writes, and otherwise that of the device of this name. -/
def resolveDeviceIp (base : BaseUrl) (name : String) : Asking String := do
  if (Ip.ofText? name).isSome then return name
  let devices ← get base "/web/devices" devices? []
  match deviceIp? name devices with
  | some ip => return ip
  | none => throw (noDevice name)

/-- The update of a group that makes some changes and leaves all else as the dashboard reports it. -/
def updateGroup (base : BaseUrl) (name : String) (changes : GroupChanges) : Asking Operation := do
  let id ← resolveGroupId base name
  let details ← get base ("/web/groups/" ++ id) GroupDetails.ofNode? {}
  return .updateGroup id (changes.apply details.group)

/-- The update of a device that makes some changes and leaves all else as the dashboard reports it. -/
def updateDevice (base : BaseUrl) (name : String) (changes : DeviceChanges) : Asking Operation := do
  let id ← resolveDeviceId base name
  let current ← get base ("/web/devices/" ++ id) Device.ofNode? {}
  return .updateDevice id (changes.apply current)

end MeshControl.Dashboard
