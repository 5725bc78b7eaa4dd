import MeshControl.Binary64

/-!
# JSON values

A value is what a JSON text says.  Numbers are kept apart by how they are read: integers of 64 bits
are exact, and any other number is a binary floating-point number.  The members of an object stand in
the order in which they are written; `Value.sorted` puts free-form objects into the order of their
names.
-/

namespace MeshControl.Json

/-- A number: an integer of 64 bits with or without sign, or a floating-point number. -/
inductive Number where
  /-- The integer `n`, below `2 ^ 64`. -/
  | natural (n : Nat)
  /-- The integer `-n`, with `0 < n ≤ 2 ^ 63`. -/
  | negative (n : Nat)
  | real (x : Binary64)
  deriving DecidableEq, Repr, Inhabited

/-- A JSON value. -/
inductive Value where
  | null
  | bool (b : Bool)
  | number (n : Number)
  | string (s : String)
  | array (items : List Value)
  | object (members : List (String × Value))
  deriving Repr, Inhabited

namespace Value

/-- An integer as a value. -/
def nat (n : Nat) : Value :=
  .number (.natural n)

/-- A list of texts as a value. -/
def strings (texts : List String) : Value :=
  .array (texts.map .string)

/-- The member of an object with a given name, and null for all else. -/
def member (v : Value) (name : String) : Value :=
  match v with
  | .object members => (members.lookup name).getD .null
  | _ => .null

/-- The items of an array. -/
def items? : Value → Option (List Value)
  | .array items => some items
  | _ => none

/-- Puts a member into an object sorted by name, in place of a member of that name. -/
def insertMember (name : String) (v : Value) : List (String × Value) → List (String × Value)
  | [] => [(name, v)]
  | (other, w) :: rest =>
    if name < other then (name, v) :: (other, w) :: rest
    else if name = other then (name, v) :: rest
    else (other, w) :: insertMember name v rest

/-- The members of an object in the order of their names, the last of each name kept. -/
def sortMembers (members : List (String × Value)) : List (String × Value) :=
  members.foldl (fun sorted (name, v) => insertMember name v sorted) []

mutual

/-- The value with the members of every object in the order of their names. -/
def sorted : Value → Value
  | .array items => .array (sortedItems items)
  | .object members => .object (sortMembers (sortedMembers members))
  | v => v

/-- The items of an array, each sorted. -/
def sortedItems : List Value → List Value
  | [] => []
  | v :: rest => sorted v :: sortedItems rest

/-- The members of an object, the value of each sorted. -/
def sortedMembers : List (String × Value) → List (String × Value)
  | [] => []
  | (name, v) :: rest => (name, sorted v) :: sortedMembers rest

end

end Value

end MeshControl.Json
