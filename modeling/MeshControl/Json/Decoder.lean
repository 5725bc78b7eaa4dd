import MeshControl.Json.Node

/-!
# What JSON texts mean

A node is read as a number, a text, a list or a record by a function into `Option`.  Rules shared by
all records: the text of a record is an object, in which unknown names are skipped and a known name
may stand once, or an array of the fields in the order of their declaration, in which fields at the
end may be missing but none may be left over.  A free-form value may be nested `Node.maxNesting`
levels deep, counted from the top of the text.

A number is an integer only if it is written without point and exponent.  Any other number, and any
integer beyond 64 bits, is read as a floating-point number from its leading digits, as many as fit 64
bits, and a power of ten, in at most one rounded multiplication or division for each 308 decades.
-/

namespace MeshControl.Json

open MeshControl.Text

/-! ### Numbers -/

namespace Literal

/-- Appends digits to a number as long as the result stays below `2 ^ 64`.  Gives the number and the
digits that did not fit. -/
def fill (n : Nat) : List Nat → Nat × List Nat
  | [] => (n, [])
  | d :: rest => if 10 * n + d < UInt64.size then fill (10 * n + d) rest else (n, d :: rest)

/-- The power of ten `10 ^ n`. -/
def powerOfTen? (n : Nat) : Option Binary64 :=
  Binary64.ofNat? (Nat.pow 10 n)

/-- `x · 10 ^ e`, or `none` if it is beyond the finite numbers.  A power that is too small to be a
number is taken off in steps of 308 decades. -/
def scale? (x : Binary64) (e : Int) : Option Binary64 :=
  if e.natAbs ≤ 308 then
    (powerOfTen? e.natAbs).bind fun p => if 0 ≤ e then x.mul? p else x.div? p
  else if x.significand = 0 then some x
  else if 0 ≤ e then none
  else ((powerOfTen? 308).bind fun p => x.div? p).bind fun y => scale? y (e + 308)
termination_by e.natAbs
decreasing_by omega

/-- The number that exponent digits write. -/
def exponentValue (digits : List Nat) : Nat :=
  digits.foldl (fun n d => 10 * n + d) 0

/-- The largest exponent that is taken at its value. -/
def maxExponent : Nat := 2147483647

/-- The magnitude of a number that is not an exact integer: `n` and the power of ten of its last
digit. -/
def real? (negative : Bool) (n : Nat) (power : Int) (exponent? : Option (Bool × List Nat)) :
    Option Binary64 :=
  let signed (x : Binary64) : Binary64 := { x with negative := negative }
  match exponent? with
  | none => ((Binary64.ofNat? n).bind fun x => scale? x power).map signed
  | some (isNegative, digits) =>
    let e := exponentValue digits
    if e > maxExponent then
      if n ≠ 0 ∧ !isNegative then none else (Binary64.ofNat? 0).map signed
    else
      let power := if isNegative then power - e else power + e
      ((Binary64.ofNat? n).bind fun x => scale? x power).map signed

/-- The number that a literal writes, or `none` if it is beyond the finite numbers. -/
def number? (l : Literal) : Option Number :=
  let (n, left) := fill 0 l.whole
  match l.fraction?, l.exponent?, left with
  | none, none, [] =>
    if !l.negative then some (.natural n)
    else if 0 < n ∧ n ≤ UInt64.size / 2 then some (.negative n)
    else (real? true n 0 none).map .real
  | none, exponent?, left => (real? l.negative n left.length exponent?).map .real
  | some fraction, exponent?, left =>
    let (m, unread) := fill n fraction
    let power : Int := left.length - (fraction.length - unread.length : Nat)
    (real? l.negative m power exponent?).map .real

end Literal

namespace Node

/-! ### Free-form values -/

/-- The levels of nesting that a text may have where its nesting is looked at. -/
def maxNesting : Nat := 127

mutual

/-- The value of a node that may have so many levels of nesting.  Of members of one name the last one
stands. -/
def value? (levels : Nat) : Node → Option Value
  | .null => some .null
  | .bool b => some (.bool b)
  | .number l => l.number?.map .number
  | .string s => s.map .string
  | .array items =>
    if levels = 0 then none else (values? (levels - 1) items).map .array
  | .object members =>
    if levels = 0 then none
    else (memberValues? (levels - 1) members).map fun vs => .object (Value.sortMembers vs)

/-- The values of the items of an array. -/
def values? (levels : Nat) : List Node → Option (List Value)
  | [] => some []
  | item :: rest => do
    let v ← value? levels item
    let vs ← values? levels rest
    return v :: vs

/-- The values of the members of an object. -/
def memberValues? (levels : Nat) : List (Option String × Node) → Option (List (String × Value))
  | [] => some []
  | (name, item) :: rest => do
    let name ← name
    let v ← value? levels item
    let vs ← memberValues? levels rest
    return (name, v) :: vs

end

/-! ### Single values -/

/-- A truth value. -/
def bool? : Node → Option Bool
  | .bool b => some b
  | _ => none

/-- A text. -/
def text? : Node → Option String
  | .string s => s
  | _ => none

/-- An integer below a bound. -/
def below? (bound : Nat) : Node → Option Nat
  | .number l =>
    match l.number? with
    | some (.natural n) => if n < bound then some n else none
    | _ => none
  | _ => none

/-- A value that may be null. -/
def nullable? {α : Type} (decode? : Node → Option α) : Node → Option (Option α)
  | .null => some none
  | node => (decode? node).map some

/-- A list. -/
def list? {α : Type} (decode? : Node → Option α) : Node → Option (List α)
  | .array items => items.mapM decode?
  | _ => none

/-- A list of texts. -/
def texts? : Node → Option (List String) :=
  list? text?

/-- The members of an object, each decoded. -/
def members? {α : Type} (decode? : Node → Option α) : Node → Option (List (String × α))
  | .object members => members.mapM fun (name, item) => do return (← name, ← decode? item)
  | _ => none

/-- A name out of a fixed choice: a string, or an object with that name alone and null. -/
def choice? : Node → Option String
  | .string s => s
  | .object [(name, .null)] => name
  | _ => none

end Node

/-! ### Records -/

/-- The fields of a record that a text gives, by name. -/
structure Fields where
  given : List (String × Node)

namespace Fields

/-- The fields that the members of an object give: unknown names are skipped, a known name may stand
once. -/
def ofMembers? (names : List String) :
    List (Option String × Node) → Option (List (String × Node))
  | [] => some []
  | (name, item) :: rest => do
    let name ← name
    let given ← ofMembers? names rest
    if names.contains name then
      if (given.lookup name).isSome then none else some ((name, item) :: given)
    else some given

/-- The node of a field, if the text gives it. -/
def find? (fields : Fields) (name : String) : Option Node :=
  fields.given.lookup name

/-- A field that may be missing. -/
def get? {α : Type} (fields : Fields) (name : String) (decode? : Node → Option α)
    (default : α) : Option α :=
  match fields.find? name with
  | none => some default
  | some node => decode? node

/-- A field that has to be there. -/
def require? {α : Type} (fields : Fields) (name : String) (decode? : Node → Option α) : Option α :=
  (fields.find? name).bind decode?

/-- A text, empty if it is missing. -/
def text? (fields : Fields) (name : String) : Option String :=
  fields.get? name Node.text? ""

/-- A truth value, false if it is missing. -/
def bool? (fields : Fields) (name : String) : Option Bool :=
  fields.get? name Node.bool? false

/-- A list of texts, empty if it is missing. -/
def texts? (fields : Fields) (name : String) : Option (List String) :=
  fields.get? name Node.texts? []

end Fields

/-- The fields of a record with the given names. -/
def Node.fields? (names : List String) : Node → Option Fields
  | .object members => (Fields.ofMembers? names members).map .mk
  | .array items => if items.length ≤ names.length then some ⟨names.zip items⟩ else none
  | _ => none

end MeshControl.Json
