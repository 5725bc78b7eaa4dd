/-!
# What the dashboard keeps

Groups of devices, the devices themselves, and the inputs by which they are created, changed and put
together.
-/

namespace MeshControl.Dashboard

/-- A device on an account. -/
structure Device where
  id : String := ""
  ip : String := ""
  emoji : String := ""
  hostname : String := ""
  userAgent : String := ""
  comment : String := ""
  aliases : List String := []
  status : String := ""
  lastContact? : Option String := none
  deriving DecidableEq, Repr, Inhabited

/-- A code by which devices join a group. -/
structure JoinCode where
  token : String := ""
  deriving DecidableEq, Repr, Inhabited

/-- A group of devices. -/
structure Group where
  id : String := ""
  emoji : String := ""
  name : String := ""
  comment : String := ""
  devices : List Device := []
  joinCodes : List JoinCode := []
  deriving DecidableEq, Repr, Inhabited

/-- A group with what can be done with it. -/
structure GroupDetails where
  group : Group := {}
  attachableDevices : List Device := []
  joinCode : JoinCode := {}
  deriving DecidableEq, Repr, Inhabited

/-- The settings of an account. -/
structure AccountSettings where
  claimToken : String := ""
  deriving DecidableEq, Repr, Inhabited

/-- An account. -/
structure User where
  settings : AccountSettings := {}
  deriving DecidableEq, Repr, Inhabited

/-- What a device says of itself when it is claimed. -/
structure ClaimParams where
  code : String
  hostname : String := ""
  aliases : List String := []
  comment : String := ""
  emoji : String := ""
  deriving DecidableEq, Repr, Inhabited

/-- The state that a group is to have. -/
structure GroupInput where
  name : String
  emoji : String
  comment : String
  deriving DecidableEq, Repr, Inhabited

/-- The state that a device is to have. -/
structure DeviceInput where
  emoji : String
  hostname : String
  comment : String
  aliases : List String
  deriving DecidableEq, Repr, Inhabited

/-- A device and the group that it is put into or taken from. -/
structure Membership where
  groupId : String
  deviceIp : String
  deriving DecidableEq, Repr, Inhabited

/-! ### Looking up by name -/

/-- The id of the first group with a name. -/
def groupIdByName? (name : String) (groups : List Group) : Option String :=
  (groups.find? fun g => g.name == name).map Group.id

/-- Whether a device goes by a name: its hostname or one of its aliases. -/
def Device.isNamed (d : Device) (name : String) : Bool :=
  d.hostname == name || d.aliases.contains name

/-- The id of the first device that goes by a name. -/
def deviceIdByName? (name : String) (devices : List Device) : Option String :=
  (devices.find? fun d => d.isNamed name).map Device.id

/-! ### Changes -/

/-- What is to change on a group. -/
structure GroupChanges where
  name? : Option String := none
  emoji? : Option String := none
  comment? : Option String := none
  deriving DecidableEq, Repr, Inhabited

/-- The state of a group after changes; what is not to change keeps its value. -/
def GroupChanges.apply (changes : GroupChanges) (current : Group) : GroupInput where
  name := changes.name?.getD current.name
  emoji := changes.emoji?.getD current.emoji
  comment := changes.comment?.getD current.comment

/-- What is to change on a device. -/
structure DeviceChanges where
  hostname? : Option String := none
  emoji? : Option String := none
  comment? : Option String := none
  aliases? : Option (List String) := none
  deriving DecidableEq, Repr, Inhabited

/-- The state of a device after changes; what is not to change keeps its value. -/
def DeviceChanges.apply (changes : DeviceChanges) (current : Device) : DeviceInput where
  hostname := changes.hostname?.getD current.hostname
  emoji := changes.emoji?.getD current.emoji
  comment := changes.comment?.getD current.comment
  aliases := changes.aliases?.getD current.aliases

end MeshControl.Dashboard
